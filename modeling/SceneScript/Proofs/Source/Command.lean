import Mathlib.Data.List.Basic
import SceneScript.Proofs.Expression.Compiling
import SceneScript.Proofs.Source.Program
import SceneScript.Statement.Flat

/-
  Commands as they are written and as they are compiled. A command has an
  opcode of a vocabulary and operands, each an expression with code for it. It
  is compiled to one instruction and one attribute per operand, and shown as
  one statement. `Flat.Takes t attributes x` says that `t` returns `x` and uses
  up exactly these attributes, whatever comes after them; the statements of
  compiled commands are those of the commands (`takes_statements`).
-/

namespace SceneScript

def Vocabulary.keyword (v : Vocabulary) (opcode : UInt8) : Keyword :=
  match v.commandName? opcode with
  | some name => .ofSpelling name
  | none => .other ("CMD_" ++ padZeros 2 (upperHex opcode.toNat))

/-- The name an attribute of an opcode is shown with. -/
def Vocabulary.argumentName (v : Vocabulary) (opcode : UInt8) (id : UInt16) : String :=
  (v.attributeName? opcode id).getD ("arg" ++ toString id.toNat)

/-- How an assignment is written: the second byte of its destination's type tag
tells whether it adds, subtracts or sets. -/
def writtenOperator : UInt8 × UInt8 → String
  | (_, 1) => "+="
  | (_, 2) => "-="
  | _ => "="

theorem assignmentOperator_eq (tag : UInt8 × UInt8) :
    Flat.assignmentOperator tag.2 = writtenOperator tag := by
  obtain ⟨first, subType⟩ := tag
  unfold Flat.assignmentOperator writtenOperator
  split
  case isTrue h => subst h; rfl
  case isFalse hadds =>
    split
    case isTrue h => subst h; rfl
    case isFalse hsubtracts =>
      split
      case h_1 h => exact absurd (Prod.mk.inj h).2 hadds
      case h_2 h => exact absurd (Prod.mk.inj h).2 hsubtracts
      case h_3 => rfl

/-- An operand: an expression and code for it. -/
structure Operand where
  id : UInt16
  typeTag : UInt8 × UInt8
  tree : Expression.Tree
  code : List UInt8
  compiled : Expression.Code tree.instrs code

/-- A command. An assignment has a destination and a source. -/
structure Command (v : Vocabulary) where
  opcode : UInt8
  blockOffset : UInt8
  unused : UInt8
  operands : List Operand
  few : operands.length < 2 ^ 8
  arity : v.keyword opcode = .assignment → operands.length = 2

def Operand.attribute (o : Operand) : Attribute := ⟨o.id, o.typeTag, o.code⟩

namespace Command

variable {v : Vocabulary}

def keyword (c : Command v) : Keyword := v.keyword c.opcode

def instruction (c : Command v) : Instruction :=
  ⟨c.opcode, UInt8.ofNat c.operands.length, c.blockOffset⟩

def attributes (c : Command v) : List Attribute := c.operands.map Operand.attribute

/-- The operands that a statement shows: of an opener with a condition, the
condition alone. -/
def shown (c : Command v) : List Operand :=
  match c.keyword with
  | .conditional | .alternative | .loop => c.operands.take 1
  | _ => c.operands

/-- The three values of an assignment. -/
def assignmentValues (d : TextDecoder) : List Operand → List String
  | [destination, source] =>
    [destination.tree.text d, writtenOperator destination.typeTag, source.tree.text d]
  | _ => []

/-- The statement a command is shown as. -/
def statement (d : TextDecoder) (c : Command v) : Statement :=
  match c.keyword with
  | .assignment =>
    ⟨.assignment, ["Operand1", "Operation", "Operand2"], assignmentValues d c.operands, [], false⟩
  | k =>
    ⟨k, c.shown.map (fun o => v.argumentName c.opcode o.id), c.shown.map (fun o => o.tree.text d),
      [], false⟩

theorem renders (d : TextDecoder) : Renders (keyword (v := v)) (statement d) := by
  refine ⟨fun c => ?_, fun c => ?_⟩
  · unfold statement
    split <;> exact ⟨rfl, rfl⟩
  · unfold statement
    split
    · next h => exact h.symm
    · rfl

end Command

namespace Flat

variable {α β : Type}

/-- `t` returns `x` and takes exactly `attributes`. -/
def Takes (t : Taker α) (attributes : List Attribute) (x : α) : Prop :=
  ∀ rest, (t (attributes ++ rest)).outcome = .ok (x, rest)

theorem Takes.pure (x : α) : Takes (Pure.pure x) [] x := fun _ => rfl

theorem Takes.bind {t : Taker α} {f : α → Taker β} {first second : List Attribute} {x : α} {y : β}
    (ht : Takes t first x) (hf : Takes (f x) second y) : Takes (t >>= f) (first ++ second) y := by
  intro rest
  have hfirst := ht (second ++ rest)
  rw [← List.append_assoc] at hfirst
  exact (Traced.outcome_bind_of_ok hfirst (fun result => f result.1 result.2)).trans (hf rest)

theorem Takes.map {t : Taker α} {attributes : List Attribute} {x : α}
    (ht : Takes t attributes x) (f : α → β) : Takes (do return f (← t)) attributes (f x) := by
  have h : Takes (do return f (← t)) (attributes ++ []) (f x) := ht.bind (Takes.pure (f x))
  rwa [List.append_nil] at h

theorem Takes.lift {t : Traced α} {x : α} (h : t.outcome = .ok x) : Takes (liftM t) [] x := by
  intro rest
  exact Traced.outcome_bind_of_ok h (fun x => Pure.pure (x, rest))

theorem takes_next (index : Nat) (a : Attribute) : Takes (next index) [a] a := fun _ => rfl

theorem takes_drop (index : Nat) (attributes : List Attribute) :
    Takes (drop index attributes.length) attributes () := by
  induction attributes with
  | nil => exact Takes.pure ()
  | cons a rest ih => exact (takes_next index a).bind ih

theorem outcome_keyword (v : Vocabulary) (i : Instruction) :
    (keyword v i).outcome = .ok (v.keyword i.opcode) := by
  unfold keyword Vocabulary.keyword
  cases v.commandName? i.opcode <;> rfl

theorem outcome_attributeName (v : Vocabulary) (i : Instruction) (a : Attribute) :
    (attributeName v i a).outcome = .ok (v.argumentName i.opcode a.id) := by
  unfold attributeName Vocabulary.argumentName
  cases v.attributeName? i.opcode a.id <;> rfl

/-- The statement with operands shown after the arguments it has. -/
def withOperands (v : Vocabulary) (d : TextDecoder) (opcode : UInt8) (operands : List Operand)
    (s : Statement) : Statement :=
  { s with
    names := s.names ++ operands.map (fun o => v.argumentName opcode o.id)
    values := s.values ++ operands.map (fun o => o.tree.text d) }

theorem withOperands_nil (v : Vocabulary) (d : TextDecoder) (opcode : UInt8) (s : Statement) :
    withOperands v d opcode [] s = s := by
  cases s
  simp only [withOperands, List.map_nil, List.append_nil]

theorem takes_argument (v : Vocabulary) (d : TextDecoder) (index : Nat) (i : Instruction)
    (s : Statement) (o : Operand) :
    Takes (takeArgument v d index i s) [o.attribute] (withOperands v d i.opcode [o] s) :=
  (takes_next index o.attribute).bind
    ((Takes.lift (Expression.text_of_code d o.compiled)).bind
      ((Takes.lift (outcome_attributeName v i o.attribute)).bind (Takes.pure _)))

theorem takes_arguments (v : Vocabulary) (d : TextDecoder) (index : Nat) (i : Instruction)
    (operands : List Operand) (s : Statement) :
    Takes (takeArguments v d index i operands.length s) (operands.map Operand.attribute)
      (withOperands v d i.opcode operands s) := by
  induction operands generalizing s with
  | nil =>
    rw [withOperands_nil]
    exact Takes.pure s
  | cons o rest ih =>
    have hall : withOperands v d i.opcode (o :: rest) s =
        withOperands v d i.opcode rest (withOperands v d i.opcode [o] s) := by
      simp [withOperands]
    rw [hall]
    exact (takes_argument v d index i s o).bind (ih _)

theorem takes_condition (v : Vocabulary) (d : TextDecoder) (index : Nat) (c : Command v)
    (s : Statement) :
    Takes (takeCondition v d index c.instruction s) c.attributes
      (withOperands v d c.opcode (c.operands.take 1) s) := by
  have hcount : c.instruction.attributeCount.toNat = c.operands.length :=
    UInt8.toNat_ofNat_of_lt' c.few
  unfold takeCondition Command.attributes
  rw [hcount]
  cases c.operands with
  | nil =>
    rw [List.take_nil, withOperands_nil]
    exact Takes.pure s
  | cons o rest =>
    have hdrop := takes_drop index (rest.map Operand.attribute)
    rw [List.length_map] at hdrop
    exact (takes_argument v d index c.instruction s o).bind
      (hdrop.map (fun _ => withOperands v d c.opcode [o] s))

/-- Only an assignment names its arguments in a way of its own. -/
theorem statement_eq_withOperands (d : TextDecoder) {v : Vocabulary} {c : Command v}
    (h : c.keyword ≠ .assignment) :
    c.statement d = withOperands v d c.opcode c.shown (Statement.ofKeyword c.keyword) := by
  unfold Command.statement
  split
  · next heq => exact absurd heq h
  · rfl

/-- Take the two operands of an assignment. -/
def takeOperands (d : TextDecoder) (index : Nat) (s : Statement) : Taker Statement := do
  let destination ← next index
  let source ← next index
  let left ← Expression.text d destination.value
  let right ← Expression.text d source.value
  return ((s.addArgument "Operand1" left).addArgument "Operation"
    (assignmentOperator destination.subType)).addArgument "Operand2" right

/-- With a count other than two there is a report first. -/
theorem takeAssignment_eq (d : TextDecoder) (index : Nat) (i : Instruction) (s : Statement) :
    takeAssignment d index i s =
      if i.attributeCount ≠ 2 then do
        Traced.report (.assignmentArity index i.attributeCount)
        takeOperands d index s
      else takeOperands d index s := by
  unfold takeAssignment
  split <;> rfl

theorem takes_assignment (d : TextDecoder) (index : Nat) {v : Vocabulary} {c : Command v}
    (hc : c.keyword = .assignment) :
    Takes (takeAssignment d index c.instruction (Statement.ofKeyword .assignment)) c.attributes
      (c.statement d) := by
  obtain ⟨destination, source, hoperands⟩ := List.length_eq_two.mp (c.arity hc)
  have hcount : ¬ c.instruction.attributeCount ≠ 2 := by
    simp [Command.instruction, hoperands]
  have hstatement : c.statement d =
      ((Statement.ofKeyword .assignment).addArgument "Operand1" (destination.tree.text d)
        |>.addArgument "Operation" (assignmentOperator destination.typeTag.2)
        |>.addArgument "Operand2" (source.tree.text d)) := by
    rw [assignmentOperator_eq]
    simp only [Command.statement, hc, hoperands]
    rfl
  rw [takeAssignment_eq, if_neg hcount, Command.attributes, hoperands, hstatement]
  exact (takes_next index destination.attribute).bind
    ((takes_next index source.attribute).bind
      ((Takes.lift (Expression.text_of_code d destination.compiled)).bind
        ((Takes.lift (Expression.text_of_code d source.compiled)).bind (Takes.pure _))))

theorem takes_statement_of_condition (v : Vocabulary) (d : TextDecoder) (index : Nat)
    {c : Command v}
    (hk : c.keyword = .conditional ∨ c.keyword = .alternative ∨ c.keyword = .loop) :
    Takes (takeCondition v d index c.instruction (Statement.ofKeyword c.keyword)) c.attributes
      (c.statement d) := by
  have hshown : c.shown = c.operands.take 1 := by
    unfold Command.shown
    rcases hk with hk | hk | hk <;> rw [hk]
  have hne : c.keyword ≠ .assignment := by
    rcases hk with hk | hk | hk <;> rw [hk] <;> decide
  rw [statement_eq_withOperands d hne, hshown]
  exact takes_condition v d index c (Statement.ofKeyword c.keyword)

theorem takes_statement (v : Vocabulary) (d : TextDecoder) (index : Nat) (c : Command v) :
    Takes (statement v d index c.instruction) c.attributes (c.statement d) := by
  refine (Takes.lift (outcome_keyword v c.instruction)).bind ?_
  -- Openers with a condition, assignments, and everything else.
  split
  · next hk => exact takes_statement_of_condition v d index (.inl hk)
  · next hk => exact takes_statement_of_condition v d index (.inr (.inl hk))
  · next hk => exact takes_statement_of_condition v d index (.inr (.inr hk))
  · next hk =>
    rw [hk]
    exact takes_assignment d index hk
  · next hconditional halternative hloop hassignment =>
    have hshown : c.shown = c.operands := by
      unfold Command.shown
      split
      · next hk => exact absurd hk hconditional
      · next hk => exact absurd hk halternative
      · next hk => exact absurd hk hloop
      · rfl
    have hcount : c.instruction.attributeCount.toNat = c.operands.length :=
      UInt8.toNat_ofNat_of_lt' c.few
    rw [statement_eq_withOperands d hassignment, hshown, hcount]
    exact takes_arguments v d index c.instruction c.operands (Statement.ofKeyword c.keyword)

theorem takes_statements (v : Vocabulary) (d : TextDecoder) (index : Nat)
    (commands : List (Command v)) :
    Takes (statements v d index (commands.map Command.instruction))
      (commands.flatMap Command.attributes) (commands.map (Command.statement d)) := by
  induction commands generalizing index with
  | nil => exact Takes.pure []
  | cons c rest ih =>
    exact (takes_statement v d index c).bind
      ((ih (index + 1)).map (fun statements => c.statement d :: statements))

end Flat

end SceneScript
