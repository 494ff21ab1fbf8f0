import SceneScript.Proofs.Resources.Taking

/-
  Who takes which attributes. The instructions of a scene divide its attributes
  among them in order: each takes as many as it needs from where the one before
  it stopped. There are flat statements if the attributes suffice and all that
  are shown can be read, and the statement of an instruction shows its own share
  and nothing else (`Scene.attributes_consumed`). What one instruction does with
  the attributes it finds is known, so a run goes by induction on the
  instructions, with the attributes that are left at each of them.
-/

namespace SceneScript

namespace Flat

/-- Where the share of instruction `n` starts: after all that the instructions
before it take. -/
def start (v : Vocabulary) (instructions : List Instruction) (n : Nat) : Nat :=
  ((instructions.take n).map v.taken).sum

/-- The attributes of `i` as instruction `n`. -/
def share (v : Vocabulary) (instructions : List Instruction) (attributes : List Attribute)
    (n : Nat) (i : Instruction) : List Attribute :=
  (attributes.drop (start v instructions n)).take (v.taken i)

/-- All attributes that are shown have a text. -/
def Readable (v : Vocabulary) (d : TextDecoder) (instructions : List Instruction)
    (attributes : List Attribute) : Prop :=
  ∀ n i, instructions[n]? = some i →
    ∀ a ∈ (share v instructions attributes n i).take (v.shown i), a.HasText d

/-- One statement for each instruction, which its own share determines. -/
structure Served (v : Vocabulary) (d : TextDecoder) (instructions : List Instruction)
    (attributes : List Attribute) (ss : List Statement) : Prop where
  length : ss.length = instructions.length
  shows : ∀ n i, instructions[n]? = some i →
    ∀ s, ss[n]? = some s ↔ Shows v d i (share v instructions attributes n i) s

variable {v : Vocabulary} {d : TextDecoder} {index : Nat} {i : Instruction}
  {rest instructions : List Instruction} {attributes left : List Attribute}
  {s : Statement} {ss : List Statement}

theorem start_succ (n : Nat) : start v (i :: rest) (n + 1) = v.taken i + start v rest n := by
  rw [start, List.take_succ_cons, List.map_cons, List.sum_cons]
  rfl

theorem share_succ (n : Nat) (j : Instruction) :
    share v (i :: rest) attributes (n + 1) j =
      share v rest (attributes.drop (v.taken i)) n j := by
  rw [share, share, start_succ, List.drop_drop]

theorem readable_cons : Readable v d (i :: rest) attributes ↔
    (∀ a ∈ attributes.take (v.shown i), a.HasText d) ∧
      Readable v d rest (attributes.drop (v.taken i)) := by
  constructor
  · intro h
    refine ⟨?_, fun n j hj => ?_⟩
    · rw [← take_shown_take]
      exact h 0 i rfl
    · rw [← share_succ]
      exact h (n + 1) j hj
  · rintro ⟨hfirst, hrest⟩ n j hj
    cases n with
    | zero =>
      cases hj
      rw [← take_shown_take] at hfirst
      exact hfirst
    | succ n =>
      rw [share_succ]
      exact hrest n j hj

theorem served_nil : Served v d [] attributes ss ↔ ss = [] := by
  constructor
  · exact fun h => List.eq_nil_of_length_eq_zero h.length
  · rintro rfl
    exact ⟨rfl, fun n i h => nomatch h⟩

theorem served_cons : Served v d (i :: rest) attributes (s :: ss) ↔
    Shows v d i (attributes.take (v.taken i)) s ∧
      Served v d rest (attributes.drop (v.taken i)) ss := by
  constructor
  · intro h
    refine ⟨(h.shows 0 i rfl s).mp rfl, Nat.succ.inj h.length, fun n j hj t => ?_⟩
    rw [← share_succ]
    exact h.shows (n + 1) j hj t
  · rintro ⟨hfirst, hrest⟩
    refine ⟨congrArg Nat.succ hrest.length, fun n j hj t => ?_⟩
    cases n with
    | zero =>
      cases hj
      exact ⟨fun ht => Option.some.inj ht ▸ hfirst, fun ht => congrArg some (hfirst.unique ht)⟩
    | succ n =>
      rw [share_succ]
      exact hrest.shows n j hj t

theorem statements_cons_eq_ok_iff :
    (statements v d index (i :: rest) attributes).outcome = .ok (ss, left) ↔
      ∃ s others middle, (statement v d index i attributes).outcome = .ok (s, middle) ∧
        (statements v d (index + 1) rest middle).outcome = .ok (others, left) ∧
        ss = s :: others := by
  rw [statements, outcome_bind_taker]
  constructor
  · intro h
    obtain ⟨⟨s, middle⟩, hs, h⟩ := exists_of_except_bind h
    rw [outcome_bind_taker] at h
    obtain ⟨⟨others, left⟩, hothers, h⟩ := exists_of_except_bind h
    cases h
    exact ⟨s, others, middle, hs, hothers, rfl⟩
  · rintro ⟨s, others, middle, hs, hothers, rfl⟩
    rw [hs]
    show ((statements v d (index + 1) rest >>= fun ss => pure (s :: ss)) middle).outcome = _
    rw [outcome_bind_taker, hothers]
    rfl

theorem statements_eq_ok_iff :
    (statements v d index instructions attributes).outcome = .ok (ss, left) ↔
      start v instructions instructions.length ≤ attributes.length ∧
        left = attributes.drop (start v instructions instructions.length) ∧
        Served v d instructions attributes ss := by
  induction instructions generalizing index attributes ss with
  | nil =>
    rw [served_nil]
    constructor
    · intro h
      cases h
      exact ⟨Nat.zero_le _, rfl, rfl⟩
    · rintro ⟨_, rfl, rfl⟩
      rfl
  | cons i rest ih =>
    rw [statements_cons_eq_ok_iff, List.length_cons, start_succ]
    constructor
    · rintro ⟨s, others, middle, hs, hothers, rfl⟩
      obtain ⟨hle, rfl, hshows⟩ := statement_eq_ok_iff.mp hs
      obtain ⟨hles, rfl, hserved⟩ := ih.mp hothers
      rw [List.length_drop] at hles
      exact ⟨by omega, List.drop_drop, served_cons.mpr ⟨hshows, hserved⟩⟩
    · rintro ⟨hle, rfl, hserved⟩
      obtain ⟨s, others, rfl⟩ := List.exists_cons_of_length_eq_add_one hserved.length
      obtain ⟨hshows, hserved⟩ := served_cons.mp hserved
      refine ⟨s, others, _, statement_eq_ok_iff.mpr ⟨by omega, rfl, hshows⟩,
        ih.mpr ⟨?_, List.drop_drop.symm, hserved⟩, rfl⟩
      rw [List.length_drop]
      omega

theorem Served.of_mem (h : Served v d instructions attributes ss) (hs : s ∈ ss) :
    s.Fresh ∧ s.names.length = s.values.length := by
  obtain ⟨n, hn, rfl⟩ := List.getElem_of_mem hs
  have hi := List.getElem?_eq_getElem (h.length ▸ hn)
  have hshows := (h.shows n _ hi _).mp (List.getElem?_eq_getElem hn)
  exact ⟨hshows.fresh, hshows.paired⟩

/-- With enough attributes there are statements if all that is shown can be read. -/
theorem exists_served_iff
    (hle : start v instructions instructions.length ≤ attributes.length) :
    (∃ ss, Served v d instructions attributes ss) ↔ Readable v d instructions attributes := by
  induction instructions generalizing attributes with
  | nil => exact ⟨fun _ n i h => (nomatch h), fun _ => ⟨[], served_nil.mpr rfl⟩⟩
  | cons i rest ih =>
    rw [List.length_cons, start_succ] at hle
    have hlen : (attributes.take (v.taken i)).length = v.taken i := by
      rw [List.length_take, Nat.min_eq_left (by omega)]
    have hles : start v rest rest.length ≤ (attributes.drop (v.taken i)).length := by
      rw [List.length_drop]
      omega
    rw [readable_cons, ← take_shown_take, ← exists_shows_iff hlen, ← ih hles]
    constructor
    · rintro ⟨ss, h⟩
      obtain ⟨s, others, rfl⟩ := List.exists_cons_of_length_eq_add_one h.length
      obtain ⟨hs, hothers⟩ := served_cons.mp h
      exact ⟨⟨s, hs⟩, others, hothers⟩
    · rintro ⟨⟨s, hs⟩, others, hothers⟩
      exact ⟨s :: others, served_cons.mpr ⟨hs, hothers⟩⟩

/-- With too few attributes the fault names the first instruction whose share
is not complete. -/
theorem statements_eq_missing (hread : Readable v d instructions attributes)
    (hshort : attributes.length < start v instructions instructions.length) :
    ∃ n i, instructions[n]? = some i ∧ start v instructions n ≤ attributes.length ∧
      attributes.length < start v instructions n + v.taken i ∧
      (statements v d index instructions attributes).outcome =
        .error (.missingAttribute (index + n)) := by
  -- By induction on the instructions: either the first one has its share and the fault comes
  -- later, or it is the one that is named.
  induction instructions generalizing index attributes with
  | nil => exact absurd hshort (Nat.not_lt_zero _)
  | cons i rest ih =>
    obtain ⟨hfirst, hrest⟩ := readable_cons.mp hread
    rw [List.length_cons, start_succ] at hshort
    rw [statements, outcome_bind_taker]
    by_cases hle : v.taken i ≤ attributes.length
    · have hlen : (attributes.take (v.taken i)).length = v.taken i := by
        rw [List.length_take, Nat.min_eq_left hle]
      rw [← take_shown_take] at hfirst
      obtain ⟨s, hs⟩ := (exists_shows_iff hlen).mpr hfirst
      have hshorts : (attributes.drop (v.taken i)).length < start v rest rest.length := by
        rw [List.length_drop]
        omega
      obtain ⟨n, j, hj, hstart, hend, hfault⟩ := ih hrest hshorts
      rw [List.length_drop] at hstart hend
      refine ⟨n + 1, j, hj, ?_, ?_, ?_⟩
      · rw [start_succ]
        omega
      · rw [start_succ]
        omega
      · rw [statement_eq_ok_iff.mpr ⟨hle, rfl, hs⟩]
        show ((statements v d (index + 1) rest >>= fun ss => pure (s :: ss)) _).outcome = _
        rw [outcome_bind_taker, hfault, Nat.add_assoc, Nat.add_comm 1 n]
        rfl
    · refine ⟨0, i, rfl, Nat.zero_le _, ?_, ?_⟩
      · show attributes.length < 0 + v.taken i
        omega
      · rw [statement_eq_missing (Nat.lt_of_not_le hle) hfirst]
        rfl

end Flat

namespace Scene

/-- How many attributes the instructions of a scene take. -/
def needed (x : Scene) (v : Vocabulary) : Nat := Flat.start v x.instructions x.instructions.length

variable {x : Scene} {v : Vocabulary} {d : TextDecoder} {flat : List Statement}

theorem flatStatements_eq_ok_iff :
    (x.flatStatements v d).outcome = .ok flat ↔
      x.needed v ≤ x.attributes.length ∧ Flat.Served v d x.instructions x.attributes flat := by
  have hstatements : (x.flatStatements v d).outcome = .ok flat ↔
      ∃ left, (Flat.statements v d 0 x.instructions x.attributes).outcome = .ok (flat, left) := by
    constructor
    · intro h
      obtain ⟨⟨ss, left⟩, hss, hflat, _⟩ := Traced.exists_of_bind_ok h
      obtain rfl : ss = flat := by
        simp only at hflat
        split at hflat <;> exact Except.ok.inj hflat
      exact ⟨left, hss⟩
    · rintro ⟨left, h⟩
      unfold flatStatements
      rw [Traced.outcome_bind_of_ok h]
      simp only
      split <;> rfl
  rw [hstatements]
  constructor
  · rintro ⟨left, h⟩
    obtain ⟨hle, _, hserved⟩ := Flat.statements_eq_ok_iff.mp h
    exact ⟨hle, hserved⟩
  · rintro ⟨hle, hserved⟩
    exact ⟨_, Flat.statements_eq_ok_iff.mpr ⟨hle, rfl, hserved⟩⟩

theorem leftover_flatStatements (h : (x.flatStatements v d).outcome = .ok flat) :
    (x.flatStatements v d).events.filter Event.isLeftover =
      if x.needed v < x.attributes.length then
        [.leftoverAttributes (x.attributes.length - x.needed v)]
      else [] := by
  obtain ⟨⟨ss, left⟩, hss, _, hevents⟩ := Traced.exists_of_bind_ok h
  obtain ⟨_, hleft, _⟩ := Flat.statements_eq_ok_iff.mp hss
  have hlength : left.length = x.attributes.length - x.needed v := by
    rw [hleft, List.length_drop]
    rfl
  -- No statement speaks of what is left over.
  have hpassing : (Flat.statements v d 0 x.instructions x.attributes).events.filter
      Event.isLeftover = [] := by
    rw [List.filter_eq_nil_iff]
    intro e he
    rw [((Flat.textual_statements v 0 x.instructions x.attributes).reports d e he).not_leftover]
    exact Bool.false_ne_true
  rw [flatStatements, hevents, List.filter_append, hpassing, List.nil_append]
  simp only [hlength, gt_iff_lt, Nat.sub_pos_iff_lt]
  split <;> rfl

/-- **Attributes are consumed in order.** There are flat statements if and only
if the attributes suffice and all that are shown can be read. They are one for
each instruction, made of its own share alone, and what no instruction took is
reported by its number. When it is only the number of attributes that is at
fault, the first instruction without a full share is named. -/
theorem attributes_consumed (x : Scene) (v : Vocabulary) (d : TextDecoder) :
    ((∃ flat, (x.flatStatements v d).outcome = .ok flat) ↔
      x.needed v ≤ x.attributes.length ∧ Flat.Readable v d x.instructions x.attributes) ∧
    (∀ flat, (x.flatStatements v d).outcome = .ok flat →
      Flat.Served v d x.instructions x.attributes flat ∧
      (∀ s ∈ flat, s.Fresh ∧ s.names.length = s.values.length) ∧
      (x.flatStatements v d).events.filter Event.isLeftover =
        if x.needed v < x.attributes.length then
          [.leftoverAttributes (x.attributes.length - x.needed v)]
        else []) ∧
    (Flat.Readable v d x.instructions x.attributes → x.attributes.length < x.needed v →
      ∃ n i, x.instructions[n]? = some i ∧
        Flat.start v x.instructions n ≤ x.attributes.length ∧
        x.attributes.length < Flat.start v x.instructions n + v.taken i ∧
        (x.flatStatements v d).outcome = .error (.missingAttribute n)) := by
  refine ⟨?_, fun flat h => ⟨?_, ?_, leftover_flatStatements h⟩, fun hread hshort => ?_⟩
  · simp only [flatStatements_eq_ok_iff, exists_and_left]
    exact and_congr_right Flat.exists_served_iff
  · exact (flatStatements_eq_ok_iff.mp h).2
  · exact fun s hs => (flatStatements_eq_ok_iff.mp h).2.of_mem hs
  · obtain ⟨n, i, hi, hstart, hend, hfault⟩ := Flat.statements_eq_missing hread hshort
    rw [Nat.zero_add] at hfault
    refine ⟨n, i, hi, hstart, hend, ?_⟩
    rw [flatStatements, Traced.bind_of_error hfault]

end Scene

/-! ## A scene with something left over -/

namespace Sample

def fewNames : Vocabulary :=
  ⟨0, [⟨"LET", []⟩, ⟨"IF", ["COND"]⟩, ⟨"MES", ["TEXT"]⟩, ⟨"ELSE", ["COND"]⟩, ⟨"LOOP", ["SET"]⟩]⟩

def byteAttribute (id : UInt16) (subType n : UInt8) : Attribute :=
  ⟨id, (0, subType), [0x42, 1, 0, n]⟩

/-- An attribute whose expression is cut off. -/
def unreadable : Attribute := ⟨0, (0, 0), [0x42]⟩

/-- An assignment with a wrong count that adds, a conditional whose second
attribute cannot be read, a command without a name, an alternative and a loop
like the conditional, one assignment that sets and one that subtracts, and one
attribute too many. -/
def leftoverScene : Scene :=
  ⟨0, [⟨0, 5, 0⟩, ⟨1, 2, 0⟩, ⟨9, 0, 0⟩, ⟨2, 1, 0⟩, ⟨3, 2, 0⟩, ⟨4, 2, 0⟩, ⟨0, 2, 0⟩, ⟨0, 0, 0⟩],
    [byteAttribute 0 1 7, byteAttribute 0 0 2, byteAttribute 0 0 3, unreadable,
      byteAttribute 8 0 5, byteAttribute 0 0 8, unreadable, byteAttribute 0 0 9, unreadable,
      byteAttribute 0 0 1, byteAttribute 0 1 2, byteAttribute 0 2 3, byteAttribute 0 0 4,
      byteAttribute 0 0 6]⟩

/-- The same with three attributes: the conditional finds one of its two. -/
def shortScene : Scene := { leftoverScene with attributes := leftoverScene.attributes.take 3 }

def leftoverStatements : List Statement :=
  [⟨.assignment, ["Operand1", "Operation", "Operand2"], ["7", "+=", "2"], [], false⟩,
    ⟨.conditional, ["COND"], ["3"], [], false⟩, ⟨.other "CMD_09", [], [], [], false⟩,
    ⟨.other "MES", ["arg8"], ["5"], [], false⟩, ⟨.alternative, ["COND"], ["8"], [], false⟩,
    ⟨.loop, ["SET"], ["9"], [], false⟩,
    ⟨.assignment, ["Operand1", "Operation", "Operand2"], ["1", "=", "2"], [], false⟩,
    ⟨.assignment, ["Operand1", "Operation", "Operand2"], ["3", "-=", "4"], [], false⟩]

theorem readable_shortScene (d : TextDecoder) :
    Flat.Readable fewNames d shortScene.instructions shortScene.attributes := by
  refine Flat.readable_cons.mpr ⟨?_, Flat.readable_cons.mpr ⟨?_, ?_⟩⟩
  · exact List.forall_mem_cons.mpr ⟨⟨"7", rfl⟩, List.forall_mem_singleton.mpr ⟨"2", rfl⟩⟩
  · exact List.forall_mem_singleton.mpr ⟨"3", rfl⟩
  · -- Nothing is left for the others.
    intro n i _ a ha
    have hshare : a ∈ Flat.share fewNames (shortScene.instructions.drop 2) [] n i :=
      List.mem_of_mem_take ha
    rw [Flat.share, List.drop_nil, List.take_nil] at hshare
    cases hshare

end Sample

theorem Scene.attributes_consumed_samples :
    (Sample.leftoverScene.flatStatements Sample.fewNames Encoding.utf8.decoder).outcome =
        .ok Sample.leftoverStatements ∧
      (Sample.leftoverScene.flatStatements Sample.fewNames Encoding.utf8.decoder).events.filter
        Event.isLeftover = [.leftoverAttributes 1] ∧
      (Sample.shortScene.flatStatements Sample.fewNames Encoding.utf8.decoder).outcome =
        .error (.missingAttribute 1) := by
  have hstatements : (Sample.leftoverScene.flatStatements Sample.fewNames
      Encoding.utf8.decoder).outcome = .ok Sample.leftoverStatements := rfl
  refine ⟨hstatements, ((attributes_consumed _ _ _).2.1 _ hstatements).2.2, ?_⟩
  obtain ⟨n, i, hi, hstart, hend, hfault⟩ := (attributes_consumed _ _ _).2.2
    (Sample.readable_shortScene Encoding.utf8.decoder) (by decide)
  match n with
  | 0 =>
    cases hi
    exact absurd hend (by decide)
  | 1 => exact hfault
  | 2 => exact absurd hstart (by decide)
  | 3 => exact absurd hstart (by decide)
  | 4 => exact absurd hstart (by decide)
  | 5 => exact absurd hstart (by decide)
  | 6 => exact absurd hstart (by decide)
  | 7 => exact absurd hstart (by decide)
  | _ + 8 => cases hi

end SceneScript
