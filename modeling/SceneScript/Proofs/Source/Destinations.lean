import SceneScript.Proofs.Abreast
import SceneScript.Proofs.Source.Command

/-
  What flat statements depend on. Of an attribute they show the value and the
  name its number stands for. Its type tag is looked at in one place only: the
  destination of an assignment says in the second byte which operator is meant.
  `Flat.destinations` are the numbers of those attributes, found by going
  through the instructions as they take them. Scenes that agree in everything
  else have the same statements, or fail for the same reason
  (`Scene.agree_flatStatements`).
-/

namespace SceneScript

namespace Flat

/-- Attributes that look the same; of their flavour only if it is looked at. -/
structure SameArgument (flavoured : Prop) (a a' : Attribute) : Prop where
  id : a.id = a'.id
  value : a.value = a'.value
  subType : flavoured → a.subType = a'.subType

/-- What is left of two lists of `total` attributes from number `k` on. `D`
tells the attributes whose flavour is looked at. -/
def Left (total : Nat) (D : Nat → Prop) (k : Nat) (s t : List Attribute) : Prop :=
  k + s.length = total ∧ Each (fun j => SameArgument (D j)) k s t

/-- Run on two lists that look the same from number `k` on, `t` has results
related by `R`, or fails on both for one reason. -/
abbrev Relates {α : Type} (total : Nat) (D : Nat → Prop) (k : Nat) (t : Taker α)
    (R : α → α → Prop) : Prop :=
  Abreast False (Left total D) k t t (fun x y _ => R x y)

variable {total k : Nat} {D : Nat → Prop}

/-! ## One statement -/

theorem relates_next (index : Nat) : Relates total D k (next index) (SameArgument (D k)) := by
  rintro _ _ ⟨hlen, hsame⟩
  cases hsame with
  | nil => exact .fault _
  | @cons _ a a' s t hfirst hrest =>
    have hleft : k + 1 + s.length = total := by
      rw [List.length_cons] at hlen
      omega
    exact .ok ⟨k + 1, ⟨hleft, hrest⟩, hfirst⟩

theorem relates_drop (index n : Nat) : Relates total D k (drop index n) (fun _ _ => True) := by
  induction n generalizing k with
  | zero => exact Abreast.pure trivial
  | succ n ih => exact (relates_next index).bind (fun _ _ _ _ => ih)

variable (v : Vocabulary) (d : TextDecoder) (index : Nat) (i : Instruction)

theorem relates_takeArgument (s : Statement) :
    Relates total D k (takeArgument v d index i s) Eq := by
  refine (relates_next index).bind ?_
  rintro a a' _ ha
  have hname : (attributeName v i a).outcome = (attributeName v i a').outcome := by
    rw [outcome_attributeName, outcome_attributeName, ha.id]
  refine (Abreast.lift (.of_eq (by rw [ha.value]))).bind ?_
  rintro value _ _ ⟨rfl, _⟩
  refine (Abreast.lift (.of_eq hname)).bind ?_
  rintro name _ _ ⟨rfl, _⟩
  exact Abreast.pure rfl

theorem relates_takeArguments (n : Nat) (s : Statement) :
    Relates total D k (takeArguments v d index i n s) Eq := by
  induction n generalizing k s with
  | zero => exact Abreast.pure rfl
  | succ n ih =>
    refine (relates_takeArgument v d index i s).bind ?_
    rintro x _ _ rfl
    exact ih x

theorem relates_takeCondition (s : Statement) :
    Relates total D k (takeCondition v d index i s) Eq := by
  unfold takeCondition
  cases i.attributeCount.toNat with
  | zero => exact Abreast.pure rfl
  | succ n =>
    refine (relates_takeArgument v d index i s).bind ?_
    rintro x _ _ rfl
    exact (relates_drop index n).bind (fun _ _ _ _ => Abreast.pure rfl)

/-- The operator of an assignment is the flavour of the first attribute. -/
theorem relates_takeAssignment (s : Statement) :
    Relates total D k (takeAssignment d index i s) (fun x y => D k → x = y) := by
  have hoperands : Relates total D k (takeOperands d index s) (fun x y => D k → x = y) := by
    refine (relates_next index).bind ?_
    rintro destination destination' _ hdestination
    refine (relates_next index).bind ?_
    rintro source source' _ hsource
    refine (Abreast.lift (.of_eq (by rw [hdestination.value]))).bind ?_
    rintro left _ _ ⟨rfl, _⟩
    refine (Abreast.lift (.of_eq (by rw [hsource.value]))).bind ?_
    rintro right _ _ ⟨rfl, _⟩
    exact Abreast.pure (fun hD => by rw [hdestination.subType hD])
  rw [takeAssignment_eq]
  refine Abreast.ite Iff.rfl (fun _ => ?_) (fun _ => hoperands)
  refine (Abreast.lift (.of_eq rfl)).bind ?_
  rintro _ _ _ ⟨_, rfl⟩
  exact hoperands

theorem relates_statement :
    Relates total D k (statement v d index i)
      (fun x y => (v.keyword i.opcode = .assignment → D k) → x = y) := by
  have hkeyword : Agree False (fun x y => x = v.keyword i.opcode ∧ y = v.keyword i.opcode)
      (keyword v i).outcome (keyword v i).outcome := by
    rw [outcome_keyword]
    exact .ok ⟨rfl, rfl⟩
  refine (Abreast.lift hkeyword).bind ?_
  rintro _ _ _ ⟨⟨rfl, rfl⟩, rfl⟩
  split
  · exact (relates_takeCondition v d index i _).mono (fun _ _ _ h _ => h)
  · exact (relates_takeCondition v d index i _).mono (fun _ _ _ h _ => h)
  · exact (relates_takeCondition v d index i _).mono (fun _ _ _ h _ => h)
  · next hassignment =>
    exact (relates_takeAssignment d index i _).mono (fun _ _ _ h hD => h (hD hassignment))
  · exact (relates_takeArguments v d index i _ _).mono (fun _ _ _ h _ => h)

/-! ## All statements -/

/-- The numbers of the attributes that become destinations of assignments, of
`total` attributes the last being left. Nothing is taken after a fault. -/
def destinations (v : Vocabulary) (d : TextDecoder) (total : Nat) :
    Nat → List Instruction → List Attribute → List Nat
  | _, [], _ => []
  | index, i :: rest, attributes =>
    match (statement v d index i attributes).outcome with
    | .error _ => []
    | .ok (_, left) =>
      (if v.keyword i.opcode = .assignment then [total - attributes.length] else []) ++
        destinations v d total (index + 1) rest left

theorem agree_statements {instructions : List Instruction} {index : Nat} {s t : List Attribute}
    (hD : ∀ j ∈ destinations v d total index instructions s, D j) (hs : Left total D k s t) :
    Agree False (fun x y => x.1 = y.1) (statements v d index instructions s).outcome
      (statements v d index instructions t).outcome := by
  induction instructions generalizing index k s t with
  | nil => exact .ok rfl
  | cons i rest ih =>
    refine (relates_statement v d index i s t hs).traced ?_
    rintro ⟨x, s'⟩ ⟨y, t'⟩ hok ⟨stop, hleft, hxy⟩
    simp only at hleft hxy ⊢
    rw [destinations, hok] at hD
    simp only [List.mem_append] at hD
    -- An assignment took attribute number `k`, and its flavour is looked at.
    have hnumber : total - s.length = k := by
      have hlen := hs.1
      omega
    have hfirst : x = y := by
      refine hxy (fun hassignment => ?_)
      rw [if_pos hassignment, hnumber] at hD
      exact hD k (.inl List.mem_cons_self)
    refine (ih (fun j hj => hD j (.inr hj)) hleft).traced ?_
    rintro ⟨xs, _⟩ ⟨ys, _⟩ _ hrest
    exact .ok (by simp only at hrest ⊢; rw [hfirst, hrest])

/-! ## Instructions and names -/

/-- Instructions that ask for the same, with vocabularies of the same names. -/
structure SameRequest (v v' : Vocabulary) (i i' : Instruction) : Prop where
  commands : v.commands = v'.commands
  opcode : i.opcode = i'.opcode
  attributeCount : i.attributeCount = i'.attributeCount

section

variable {v v' : Vocabulary} {i i' : Instruction} (h : SameRequest v v' i i')

include h

theorem keyword_congr : keyword v i = keyword v' i' := by
  unfold keyword Vocabulary.commandName?
  rw [h.commands, h.opcode]

theorem takeArgument_congr (s : Statement) :
    takeArgument v d index i s = takeArgument v' d index i' s := by
  have hname : attributeName v i = attributeName v' i' := by
    funext a
    unfold attributeName Vocabulary.attributeName?
    rw [h.commands, h.opcode]
  unfold takeArgument
  rw [hname]

theorem takeArguments_congr (n : Nat) (s : Statement) :
    takeArguments v d index i n s = takeArguments v' d index i' n s := by
  induction n generalizing s with
  | zero => rfl
  | succ n ih => simp only [takeArguments, takeArgument_congr d index h, ih]

/-- Where a block ends is not looked at. -/
theorem statement_congr : statement v d index i = statement v' d index i' := by
  simp only [statement, keyword_congr h, takeCondition, takeArgument_congr d index h,
    takeAssignment, takeArguments_congr d index h, h.attributeCount]

end

theorem statements_congr {v v' : Vocabulary} {instructions instructions' : List Instruction}
    {k : Nat} (h : Each (fun _ => SameRequest v v') k instructions instructions') :
    statements v d index instructions = statements v' d index instructions' := by
  induction h generalizing index with
  | nil => rfl
  | cons hfirst _ ih => rw [statements, statements, statement_congr d index hfirst, ih]

end Flat

namespace Scene

/-- The numbers of the attributes that the assignments of a scene take as
destinations. -/
def destinations (x : Scene) (v : Vocabulary) (d : TextDecoder) : List Nat :=
  Flat.destinations v d x.attributes.length 0 x.instructions x.attributes

/-- Scenes that differ only where no statement looks have the same statements,
or fail for one reason. -/
theorem agree_flatStatements {x y : Scene} {v v' : Vocabulary} {d : TextDecoder}
    (hinstructions : Each (fun _ => Flat.SameRequest v v') 0 x.instructions y.instructions)
    (hattributes : Each (fun j => Flat.SameArgument (j ∈ x.destinations v d)) 0 x.attributes
      y.attributes) :
    Agree False Eq (x.flatStatements v d).outcome (y.flatStatements v' d).outcome := by
  unfold flatStatements
  rw [← Flat.statements_congr d 0 hinstructions]
  refine (Flat.agree_statements v d (fun _ => id) ⟨Nat.zero_add _, hattributes⟩).traced ?_
  rintro ⟨shown, left⟩ ⟨shown', left'⟩ _ hshown
  obtain rfl : shown = shown' := hshown
  -- What is left over is reported and makes no difference.
  have hrest : ∀ n : Nat, (do
      if n > 0 then Traced.report (.leftoverAttributes n)
      return shown : Traced (List Statement)).outcome = .ok shown := by
    intro n
    split <;> rfl
  exact .of_eq ((hrest left.length).trans (hrest left'.length).symm)

end Scene

end SceneScript
