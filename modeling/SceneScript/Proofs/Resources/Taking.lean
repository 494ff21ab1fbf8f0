import SceneScript.Proofs.Resources.PlainText

/-
  What one instruction takes. The outcome of every step that takes attributes
  is written out, faults included, for any list of attributes: what is shown is
  read first, except that an assignment takes both of its attributes before it
  reads them, and then the number of attributes decides (`taking`). So an
  instruction becomes a statement exactly when there are enough attributes and
  the first ones are shown by it (`statement_eq_ok_iff`). `Flat.Shows` says what
  a statement shows of its attributes, and they determine it.
-/

namespace SceneScript

/-- The attribute has an expression that can be shown. -/
def Attribute.HasText (d : TextDecoder) (a : Attribute) : Prop :=
  ∃ text, (Expression.text d a.value).outcome = .ok text

/-- The statement with further arguments. -/
def Statement.withArguments (s : Statement) (names values : List String) : Statement :=
  { s with names := s.names ++ names, values := s.values ++ values }

theorem Statement.withArguments_nil (s : Statement) : s.withArguments [] [] = s := by
  cases s
  simp only [withArguments, List.append_nil]

theorem Statement.withArguments_append (s : Statement) (names names' values values' : List String) :
    (s.withArguments names values).withArguments names' values' =
      s.withArguments (names ++ names') (values ++ values') := by
  simp only [withArguments, List.append_assoc]

namespace Flat

/-- The texts of attributes, or the fault of the first one that has none. -/
def texts (d : TextDecoder) : List Attribute → Except Fault (List String)
  | [] => .ok []
  | a :: rest =>
    (Expression.text d a.value).outcome.bind (fun text => (texts d rest).map (text :: ·))

/-- The names that attributes of an instruction are shown with. -/
def argumentNames (v : Vocabulary) (i : Instruction) (attributes : List Attribute) : List String :=
  attributes.map (fun a => v.argumentName i.opcode a.id)

/-- `s` shows the instruction `i` with exactly these attributes: an assignment
with the texts of both and the operator of the first, and anything else with a
name and a text for each attribute that is shown. -/
inductive Shows (v : Vocabulary) (d : TextDecoder) (i : Instruction) :
    List Attribute → Statement → Prop where
  | assignment {destination source : Attribute} {left right : String}
    (hkeyword : v.keyword i.opcode = .assignment)
    (hleft : (Expression.text d destination.value).outcome = .ok left)
    (hright : (Expression.text d source.value).outcome = .ok right) :
    Shows v d i [destination, source]
      ⟨.assignment, ["Operand1", "Operation", "Operand2"],
        [left, writtenOperator destination.typeTag, right], [], false⟩
  | arguments {taken : List Attribute} {values : List String}
    (hkeyword : v.keyword i.opcode ≠ .assignment)
    (hcount : taken.length = i.attributeCount.toNat)
    (hvalues : texts d (taken.take (v.shown i)) = .ok values) :
    Shows v d i taken
      ⟨v.keyword i.opcode, argumentNames v i (taken.take (v.shown i)), values, [], false⟩

/-! ## Texts -/

section

variable {d : TextDecoder} {attributes : List Attribute} {values : List String}

theorem texts_cons_eq_ok {a : Attribute} :
    texts d (a :: attributes) = .ok values ↔
      ∃ text rest, (Expression.text d a.value).outcome = .ok text ∧
        texts d attributes = .ok rest ∧ values = text :: rest := by
  rw [texts]
  cases (Expression.text d a.value).outcome with
  | error _ => simp [Except.bind]
  | ok text =>
    cases texts d attributes with
    | error _ => simp [Except.bind, Except.map]
    | ok rest => simp [Except.bind, Except.map, eq_comm]

theorem length_texts (h : texts d attributes = .ok values) :
    values.length = attributes.length := by
  induction attributes generalizing values with
  | nil =>
    cases h
    rfl
  | cons a rest ih =>
    obtain ⟨text, others, _, hothers, rfl⟩ := texts_cons_eq_ok.mp h
    rw [List.length_cons, List.length_cons, ih hothers]

theorem exists_texts_iff : (∃ values, texts d attributes = .ok values) ↔
    ∀ a ∈ attributes, a.HasText d := by
  induction attributes with
  | nil => exact ⟨fun _ _ ha => absurd ha List.not_mem_nil, fun _ => ⟨[], rfl⟩⟩
  | cons a rest ih =>
    rw [List.forall_mem_cons, ← ih]
    constructor
    · rintro ⟨values, h⟩
      obtain ⟨text, others, htext, hothers, _⟩ := texts_cons_eq_ok.mp h
      exact ⟨⟨text, htext⟩, others, hothers⟩
    · rintro ⟨⟨text, htext⟩, others, hothers⟩
      exact ⟨text :: others, texts_cons_eq_ok.mpr ⟨text, others, htext, hothers, rfl⟩⟩

end

/-! ## One statement -/

variable (v : Vocabulary) (d : TextDecoder) (index : Nat) (i : Instruction)

/-- What a step that takes `n` attributes does when it has read what it shows:
it goes on with the rest, or finds too few. -/
def taking {α : Type} (n : Nat) (attributes : List Attribute) (x : α) :
    Except Fault (α × List Attribute) :=
  if n ≤ attributes.length then .ok (x, attributes.drop n) else .error (.missingAttribute index)

theorem taking_succ {α : Type} (n : Nat) (a : Attribute) (rest : List Attribute) (x : α) :
    taking index (n + 1) (a :: rest) x = taking index n rest x := by
  unfold taking
  simp only [List.length_cons, Nat.add_le_add_iff_right, List.drop_succ_cons]

theorem outcome_bind_taker {α β : Type} (t : Taker α) (f : α → Taker β)
    (attributes : List Attribute) :
    ((t >>= f) attributes).outcome =
      (t attributes).outcome.bind (fun r => (f r.1 r.2).outcome) :=
  Traced.outcome_bind _ _

/-- A step that takes nothing, and then another. -/
theorem outcome_lift_bind {α β : Type} (t : Traced α) (f : α → Taker β)
    (attributes : List Attribute) :
    ((liftM t >>= f : Taker β) attributes).outcome =
      t.outcome.bind (fun x => (f x attributes).outcome) := by
  rw [outcome_bind_taker]
  show ((t >>= fun x => pure (x, attributes)).outcome).bind _ = _
  rw [Traced.outcome_bind]
  cases t.outcome <;> rfl

theorem outcome_drop (n : Nat) (attributes : List Attribute) :
    (drop index n attributes).outcome = taking index n attributes () := by
  induction n generalizing attributes with
  | zero => rfl
  | succ n ih =>
    cases attributes with
    | nil => rfl
    | cons a rest => exact (ih rest).trans (taking_succ index n a rest ()).symm

theorem outcome_takeArgument (s : Statement) (a : Attribute) (rest : List Attribute) :
    (takeArgument v d index i s (a :: rest)).outcome =
      (Expression.text d a.value).outcome.bind (fun text =>
        .ok (s.withArguments [v.argumentName i.opcode a.id] [text], rest)) := by
  show ((liftM (Expression.text d a.value) >>= fun value =>
    liftM (attributeName v i a) >>= fun name =>
      (pure (s.addArgument name value) : Taker Statement)) rest).outcome = _
  rw [outcome_lift_bind]
  refine congrArg _ (funext fun text => ?_)
  rw [outcome_lift_bind, outcome_attributeName]
  rfl

/-- Attributes are read one by one, so that one without a text is found before
one that is missing. -/
theorem outcome_takeArguments (n : Nat) (s : Statement) (attributes : List Attribute) :
    (takeArguments v d index i n s attributes).outcome =
      (texts d (attributes.take n)).bind (fun values =>
        taking index n attributes
          (s.withArguments (argumentNames v i (attributes.take n)) values)) := by
  induction n generalizing s attributes with
  | zero =>
    show _ = Except.ok (s.withArguments [] [], attributes)
    rw [Statement.withArguments_nil]
    rfl
  | succ n ih =>
    cases attributes with
    | nil => rfl
    | cons a rest =>
      show ((takeArgument v d index i s >>= takeArguments v d index i n) (a :: rest)).outcome = _
      rw [outcome_bind_taker, outcome_takeArgument, List.take_succ_cons, texts]
      cases (Expression.text d a.value).outcome with
      | error _ => rfl
      | ok text =>
        show (takeArguments v d index i n _ rest).outcome = _
        rw [ih]
        cases texts d (rest.take n) with
        | error _ => rfl
        | ok values =>
          show taking index n rest _ = taking index (n + 1) (a :: rest) _
          rw [taking_succ, Statement.withArguments_append]
          rfl

theorem outcome_takeCondition (s : Statement) (attributes : List Attribute) :
    (takeCondition v d index i s attributes).outcome =
      (texts d (attributes.take (min 1 i.attributeCount.toNat))).bind (fun values =>
        taking index i.attributeCount.toNat attributes
          (s.withArguments
            (argumentNames v i (attributes.take (min 1 i.attributeCount.toNat))) values)) := by
  unfold takeCondition
  cases i.attributeCount.toNat with
  | zero =>
    show _ = Except.ok (s.withArguments [] [], attributes)
    rw [Statement.withArguments_nil]
    rfl
  | succ n =>
    rw [Nat.min_eq_left (by omega)]
    cases attributes with
    | nil => rfl
    | cons a rest =>
      show ((takeArgument v d index i s >>= fun s => drop index n >>= fun _ => pure s)
        (a :: rest)).outcome = _
      rw [outcome_bind_taker, outcome_takeArgument, List.take_succ_cons, texts]
      cases (Expression.text d a.value).outcome with
      | error _ => rfl
      | ok text =>
        show ((drop index n >>= fun _ => pure _) rest).outcome = taking index (n + 1) (a :: rest) _
        rw [outcome_bind_taker, outcome_drop, taking_succ]
        unfold taking
        split <;> rfl

theorem outcome_takeOperands (s : Statement) (destination source : Attribute)
    (rest : List Attribute) :
    (takeOperands d index s (destination :: source :: rest)).outcome =
      (Expression.text d destination.value).outcome.bind (fun left =>
        (Expression.text d source.value).outcome.bind (fun right =>
          .ok (s.withArguments ["Operand1", "Operation", "Operand2"]
            [left, writtenOperator destination.typeTag, right], rest))) := by
  rw [← assignmentOperator_eq]
  show ((liftM (Expression.text d destination.value) >>= fun left =>
    liftM (Expression.text d source.value) >>= fun right =>
      (pure (((s.addArgument "Operand1" left).addArgument "Operation"
        (assignmentOperator destination.subType)).addArgument "Operand2" right) : Taker Statement))
          rest).outcome = _
  rw [outcome_lift_bind]
  refine congrArg _ (funext fun left => ?_)
  rw [outcome_lift_bind]
  refine congrArg _ (funext fun right => ?_)
  simp only [Statement.withArguments, Statement.addArgument, List.append_assoc, List.cons_append,
    List.nil_append]
  rfl

/-- The report of an assignment without two attributes changes nothing. -/
theorem outcome_takeAssignment (s : Statement) (attributes : List Attribute) :
    (takeAssignment d index i s attributes).outcome =
      (takeOperands d index s attributes).outcome := by
  rw [takeAssignment_eq]
  split
  · exact outcome_lift_bind _ _ _
  · rfl

variable {v d index i} {attributes left taken : List Attribute} {s t : Statement}

theorem taken_of_assignment (h : v.keyword i.opcode = .assignment) : v.taken i = 2 := by
  rw [Vocabulary.taken, h]

theorem taken_of_arguments (h : v.keyword i.opcode ≠ .assignment) :
    v.taken i = i.attributeCount.toNat := by
  unfold Vocabulary.taken
  split
  · contradiction
  · rfl

theorem shown_of_assignment (h : v.keyword i.opcode = .assignment) : v.shown i = 2 := by
  rw [Vocabulary.shown, h]

theorem shown_le_taken : v.shown i ≤ v.taken i := by
  unfold Vocabulary.shown Vocabulary.taken
  cases v.keyword i.opcode with
  | conditional => exact Nat.min_le_right 1 _
  | alternative => exact Nat.min_le_right 1 _
  | loop => exact Nat.min_le_right 1 _
  | _ => exact Nat.le_refl _

theorem outcome_statement_of_assignment (h : v.keyword i.opcode = .assignment) :
    (statement v d index i attributes).outcome =
      (takeOperands d index (.ofKeyword .assignment) attributes).outcome := by
  unfold statement
  rw [outcome_lift_bind, outcome_keyword, h]
  exact outcome_takeAssignment d index i _ attributes

/-- Anything but an assignment: what it shows is read, then the count is taken. -/
theorem outcome_statement_of_arguments (h : v.keyword i.opcode ≠ .assignment) :
    (statement v d index i attributes).outcome =
      (texts d (attributes.take (v.shown i))).bind (fun values =>
        taking index i.attributeCount.toNat attributes
          ⟨v.keyword i.opcode, argumentNames v i (attributes.take (v.shown i)), values, [],
            false⟩) := by
  unfold statement Vocabulary.shown
  rw [outcome_lift_bind, outcome_keyword]
  -- Three keywords stand for a condition, all others show as many as they take.
  generalize v.keyword i.opcode = k at h
  cases k with
  | assignment => contradiction
  | conditional => exact outcome_takeCondition v d index i _ attributes
  | alternative => exact outcome_takeCondition v d index i _ attributes
  | loop => exact outcome_takeCondition v d index i _ attributes
  | _ => exact outcome_takeArguments v d index i _ _ attributes

theorem shows_assignment_iff (hk : v.keyword i.opcode = .assignment)
    {destination source : Attribute} :
    Shows v d i [destination, source] s ↔
      ∃ left right, (Expression.text d destination.value).outcome = .ok left ∧
        (Expression.text d source.value).outcome = .ok right ∧
        s = ⟨.assignment, ["Operand1", "Operation", "Operand2"],
          [left, writtenOperator destination.typeTag, right], [], false⟩ := by
  constructor
  · intro h
    cases h with
    | assignment _ hleft hright => exact ⟨_, _, hleft, hright, rfl⟩
    | arguments => contradiction
  · rintro ⟨left, right, hleft, hright, rfl⟩
    exact .assignment hk hleft hright

theorem shows_arguments_iff (hk : v.keyword i.opcode ≠ .assignment) :
    Shows v d i taken s ↔
      taken.length = i.attributeCount.toNat ∧
        ∃ values, texts d (taken.take (v.shown i)) = .ok values ∧
          s = ⟨v.keyword i.opcode, argumentNames v i (taken.take (v.shown i)), values, [],
            false⟩ := by
  constructor
  · intro h
    cases h with
    | assignment => contradiction
    | arguments _ hcount hvalues => exact ⟨hcount, _, hvalues, rfl⟩
  · rintro ⟨hcount, values, hvalues, rfl⟩
    exact .arguments hk hcount hvalues

theorem Shows.fresh (h : Shows v d i taken s) : s.Fresh := by
  cases h <;> exact ⟨rfl, rfl⟩

theorem Shows.paired (h : Shows v d i taken s) : s.names.length = s.values.length := by
  cases h with
  | assignment => rfl
  | arguments _ _ hvalues => rw [length_texts hvalues, argumentNames, List.length_map]

theorem Shows.unique (hs : Shows v d i taken s) (ht : Shows v d i taken t) : s = t := by
  cases hs with
  | assignment hk hleft hright =>
    obtain ⟨_, _, hleft', hright', rfl⟩ := (shows_assignment_iff hk).mp ht
    cases hleft.symm.trans hleft'
    cases hright.symm.trans hright'
    rfl
  | arguments hk _ hvalues =>
    obtain ⟨_, _, hvalues', rfl⟩ := (shows_arguments_iff hk).mp ht
    cases hvalues.symm.trans hvalues'
    rfl

/-- A share of the right size has a statement if what is shown of it can be read. -/
theorem exists_shows_iff (hlen : taken.length = v.taken i) :
    (∃ s, Shows v d i taken s) ↔ ∀ a ∈ taken.take (v.shown i), a.HasText d := by
  by_cases hk : v.keyword i.opcode = .assignment
  · rw [taken_of_assignment hk] at hlen
    obtain ⟨destination, source, rfl⟩ := List.length_eq_two.mp hlen
    rw [shown_of_assignment hk]
    constructor
    · rintro ⟨s, hs⟩ a ha
      obtain ⟨left, right, hleft, hright, _⟩ := (shows_assignment_iff hk).mp hs
      rcases List.mem_pair.mp ha with rfl | rfl
      · exact ⟨left, hleft⟩
      · exact ⟨right, hright⟩
    · intro h
      obtain ⟨left, hleft⟩ := h destination List.mem_cons_self
      obtain ⟨right, hright⟩ := h source (List.mem_cons_of_mem _ List.mem_cons_self)
      exact ⟨_, .assignment hk hleft hright⟩
  · rw [taken_of_arguments hk] at hlen
    rw [← exists_texts_iff]
    constructor
    · rintro ⟨s, hs⟩
      obtain ⟨_, values, hvalues, _⟩ := (shows_arguments_iff hk).mp hs
      exact ⟨values, hvalues⟩
    · rintro ⟨values, hvalues⟩
      exact ⟨_, .arguments hk hlen hvalues⟩

theorem exists_of_except_bind {ε α β : Type} {x : Except ε α} {f : α → Except ε β} {b : β}
    (h : x.bind f = .ok b) : ∃ a, x = .ok a ∧ f a = .ok b := by
  cases x with
  | error _ => cases h
  | ok a => exact ⟨a, rfl, h⟩

theorem take_shown_take (attributes : List Attribute) :
    (attributes.take (v.taken i)).take (v.shown i) = attributes.take (v.shown i) := by
  rw [List.take_take, Nat.min_eq_left shown_le_taken]

theorem statement_eq_ok_iff_of_assignment (hk : v.keyword i.opcode = .assignment) :
    (statement v d index i attributes).outcome = .ok (s, left) ↔
      2 ≤ attributes.length ∧ left = attributes.drop 2 ∧ Shows v d i (attributes.take 2) s := by
  rw [outcome_statement_of_assignment hk]
  match attributes with
  | [] => exact ⟨fun h => (nomatch h), fun h => absurd h.1 (Nat.not_succ_le_zero 1)⟩
  | [_] => exact ⟨fun h => (nomatch h), fun h => absurd h.1 (Nat.not_succ_le_self 1)⟩
  | a :: b :: rest =>
    rw [outcome_takeOperands]
    show _ ↔ 2 ≤ rest.length + 2 ∧ left = rest ∧ Shows v d i [a, b] s
    rw [shows_assignment_iff hk]
    constructor
    · intro h
      obtain ⟨l, hleft, h⟩ := exists_of_except_bind h
      obtain ⟨r, hright, h⟩ := exists_of_except_bind h
      cases h
      exact ⟨Nat.le_add_left 2 _, rfl, l, r, hleft, hright, rfl⟩
    · rintro ⟨_, rfl, l, r, hleft, hright, rfl⟩
      rw [hleft, hright]
      rfl

theorem statement_eq_ok_iff_of_arguments (hk : v.keyword i.opcode ≠ .assignment) :
    (statement v d index i attributes).outcome = .ok (s, left) ↔
      i.attributeCount.toNat ≤ attributes.length ∧
        left = attributes.drop i.attributeCount.toNat ∧
        Shows v d i (attributes.take i.attributeCount.toNat) s := by
  have hshown := take_shown_take (v := v) (i := i) attributes
  rw [taken_of_arguments hk] at hshown
  rw [outcome_statement_of_arguments hk, shows_arguments_iff hk, hshown, List.length_take]
  constructor
  · intro h
    obtain ⟨values, hvalues, h⟩ := exists_of_except_bind h
    unfold taking at h
    split at h
    · next hle =>
      cases h
      exact ⟨hle, rfl, Nat.min_eq_left hle, values, hvalues, rfl⟩
    · cases h
  · rintro ⟨hle, rfl, _, values, hvalues, rfl⟩
    rw [hvalues]
    exact if_pos hle

/-- A statement is made when there are enough attributes: it shows the first
ones, and the others are left. -/
theorem statement_eq_ok_iff :
    (statement v d index i attributes).outcome = .ok (s, left) ↔
      v.taken i ≤ attributes.length ∧ left = attributes.drop (v.taken i) ∧
        Shows v d i (attributes.take (v.taken i)) s := by
  by_cases hk : v.keyword i.opcode = .assignment
  · rw [taken_of_assignment hk]
    exact statement_eq_ok_iff_of_assignment hk
  · rw [taken_of_arguments hk]
    exact statement_eq_ok_iff_of_arguments hk

/-- With too few attributes, all of which can be read as far as they are shown,
the fault names the instruction. -/
theorem statement_eq_missing (hshort : attributes.length < v.taken i)
    (hread : ∀ a ∈ attributes.take (v.shown i), a.HasText d) :
    (statement v d index i attributes).outcome = .error (.missingAttribute index) := by
  by_cases hk : v.keyword i.opcode = .assignment
  · -- An assignment takes both attributes before it reads the first.
    rw [taken_of_assignment hk] at hshort
    rw [outcome_statement_of_assignment hk]
    match attributes with
    | [] => rfl
    | [_] => rfl
    | _ :: _ :: rest =>
      simp only [List.length_cons] at hshort
      omega
  · rw [taken_of_arguments hk] at hshort
    obtain ⟨values, hvalues⟩ := exists_texts_iff.mpr hread
    rw [outcome_statement_of_arguments hk, hvalues]
    exact if_neg (Nat.not_le_of_lt hshort)

end Flat

end SceneScript
