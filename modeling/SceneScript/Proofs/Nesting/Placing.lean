import SceneScript.Statement.Nesting

/-
  What one statement does to the stack, said once. Every statement is of one
  of three sorts: it stays on top, it closes the block of its kind that was
  opened last, or there is no such block. In the last case a return takes the
  whole stack into an empty frame and the other closers fail. `Placing` lists
  these cases with everything they do, and `placing` says that there are no
  others; what holds of every stack is proved by cases on it.
-/

namespace SceneScript

/-- The four kinds of block. -/
inductive Block where
  | label
  | word
  | conditional
  | loop
  deriving DecidableEq, Repr

namespace Block

/-- The block that a keyword opens. -/
def ofOpener? : Keyword → Option Block
  | .label => some .label
  | .word => some .word
  | .conditional | .alternative => some .conditional
  | .loop => some .loop
  | _ => none

/-- The block that a keyword closes. -/
def ofCloser? : Keyword → Option Block
  | .labelReturn => some .label
  | .wordReturn => some .word
  | .conditionalEnd | .branchEnd => some .conditional
  | .loopEnd => some .loop
  | _ => none

/-- What a closer without an opener is reported as; a return is never at a
loss. -/
def missing? : Block → Option Activity
  | .label | .word => none
  | .conditional => some .conditionalClose
  | .loop => some .loopClose

theorem ofOpener?_eq_some {k : Keyword} {b : Block} (h : ofOpener? k = some b) :
    (k = .label ∧ b = .label) ∨ (k = .word ∧ b = .word) ∨
      ((k = .conditional ∨ k = .alternative) ∧ b = .conditional) ∨
      (k = .loop ∧ b = .loop) := by
  cases k <;> simp_all [ofOpener?]

theorem ofCloser?_eq_some {k : Keyword} {b : Block} (h : ofCloser? k = some b) :
    (k = .labelReturn ∧ b = .label) ∨ (k = .wordReturn ∧ b = .word) ∨
      ((k = .conditionalEnd ∨ k = .branchEnd) ∧ b = .conditional) ∨
      (k = .loopEnd ∧ b = .loop) := by
  cases k <;> simp_all [ofCloser?]

end Block

namespace Statement

/-- Not yet nested: no body, and no block of it closed. -/
structure Fresh (s : Statement) : Prop where
  not_closed : s.closed = false
  no_children : s.children = []

/-- The block that a statement holds open. -/
def open? (s : Statement) : Option Block :=
  if s.closed then none else Block.ofOpener? s.keyword

/-- The body that a closer gives to an opener with `above` on top of it, the
latest of `above` first. -/
def bodyFrom (s : Statement) (above : List Statement) : List Statement :=
  match s.keyword with
  | .labelReturn | .wordReturn => (s :: above).reverse
  | .loopEnd => above
  | _ => above.reverse

/-- What a closer leaves on top of the block it has closed. -/
def leftAbove (s : Statement) : List Statement :=
  match s.keyword with
  | .conditionalEnd | .loopEnd => [s]
  | _ => []

theorem fresh_ofLabel (name : String) : (ofLabel name).Fresh := ⟨rfl, rfl⟩

/-- Statements without arguments are fresh. -/
theorem fresh_ofKeywords (keywords : List Keyword) : ∀ s ∈ keywords.map ofKeyword, s.Fresh := by
  intro s hs
  obtain ⟨k, _, rfl⟩ := List.mem_map.mp hs
  exact ⟨rfl, rfl⟩

@[simp] theorem keyword_ofLabel (name : String) : (ofLabel name).keyword = .label := rfl

@[simp] theorem keyword_close (s : Statement) (body : List Statement) :
    (s.close body).keyword = s.keyword := rfl

@[simp] theorem children_close (s : Statement) (body : List Statement) :
    (s.close body).children = body := rfl

@[simp] theorem closed_close (s : Statement) (body : List Statement) :
    (s.close body).closed = true := rfl

@[simp] theorem open?_close (s : Statement) (body : List Statement) :
    (s.close body).open? = none := rfl

theorem open?_of_fresh {s : Statement} (h : s.Fresh) :
    s.open? = Block.ofOpener? s.keyword := by
  rw [open?, h.not_closed]
  rfl

theorem not_closed_of_open? {s : Statement} {b : Block} (h : s.open? = some b) :
    s.closed = false := by
  unfold open? at h
  split at h
  · cases h
  · next hc => exact Bool.eq_false_iff.mpr hc

theorem opener_of_open? {s : Statement} {b : Block} (h : s.open? = some b) :
    Block.ofOpener? s.keyword = some b := by
  unfold open? at h
  rwa [if_neg (by rw [not_closed_of_open? h]; decide)] at h

theorem mem_leftAbove {s x : Statement} (h : x ∈ s.leftAbove) :
    x = s ∧ (s.keyword = .conditionalEnd ∨ s.keyword = .loopEnd) := by
  unfold leftAbove at h
  split at h
  · next hk => exact ⟨List.mem_singleton.mp h, .inl hk⟩
  · next hk => exact ⟨List.mem_singleton.mp h, .inr hk⟩
  · cases h

theorem leftAbove_reverse (s : Statement) : s.leftAbove.reverse = s.leftAbove := by
  unfold leftAbove
  split <;> rfl

theorem isOpen_label (s : Statement) : s.isOpen .label = (s.open? == some .label) := by
  unfold isOpen open?
  cases s.closed <;> cases s.keyword <;> rfl

theorem isOpen_word (s : Statement) : s.isOpen .word = (s.open? == some .word) := by
  unfold isOpen open?
  cases s.closed <;> cases s.keyword <;> rfl

theorem isOpen_loop (s : Statement) : s.isOpen .loop = (s.open? == some .loop) := by
  unfold isOpen open?
  cases s.closed <;> cases s.keyword <;> rfl

theorem isOpen_conditional (s : Statement) :
    (s.isOpen .conditional || s.isOpen .alternative) = (s.open? == some .conditional) := by
  unfold isOpen open?
  cases s.closed <;> cases s.keyword <;> rfl

end Statement

namespace Nesting

/-! ## The topmost opener -/

theorem splitAtOpener_append {isOpener : Statement → Bool} {above : List Statement}
    {frame : Statement} {below : List Statement} (ha : ∀ x ∈ above, isOpener x = false)
    (hf : isOpener frame = true) :
    splitAtOpener isOpener (above ++ frame :: below) = some (above, frame, below) := by
  induction above with
  | nil => simp [splitAtOpener, hf]
  | cons x rest ih =>
    have hx : isOpener x = false := ha x List.mem_cons_self
    have hrest := ih (fun y hy => ha y (List.mem_cons_of_mem x hy))
    simp [splitAtOpener, hx, hrest]

theorem splitAtOpener_none {isOpener : Statement → Bool} {stack : List Statement}
    (h : ∀ x ∈ stack, isOpener x = false) : splitAtOpener isOpener stack = none := by
  induction stack with
  | nil => rfl
  | cons x rest ih =>
    have hx : isOpener x = false := h x List.mem_cons_self
    have hrest := ih (fun y hy => h y (List.mem_cons_of_mem x hy))
    simp [splitAtOpener, hx, hrest]

/-- A stack has a topmost open block of a kind, or no open block of it. -/
theorem topmost_or_none (b : Block) (stack : List Statement) :
    (∃ above frame below, stack = above ++ frame :: below ∧ frame.open? = some b ∧
      ∀ x ∈ above, x.open? ≠ some b) ∨ ∀ x ∈ stack, x.open? ≠ some b := by
  induction stack with
  | nil => exact .inr (fun x hx => absurd hx List.not_mem_nil)
  | cons s rest ih =>
    by_cases hs : s.open? = some b
    · exact .inl ⟨[], s, rest, rfl, hs, fun x hx => absurd hx List.not_mem_nil⟩
    · rcases ih with ⟨above, frame, below, rfl, hf, ha⟩ | hnone
      · refine .inl ⟨s :: above, frame, below, rfl, hf, ?_⟩
        intro x hx
        rcases List.mem_cons.mp hx with rfl | hx
        · exact hs
        · exact ha x hx
      · refine .inr ?_
        intro x hx
        rcases List.mem_cons.mp hx with rfl | hx
        · exact hs
        · exact hnone x hx

/-! ## The three sorts of statement -/

theorem place_of_stays {s : Statement} (h : Block.ofCloser? s.keyword = none)
    (stack : List Statement) : place s stack = .ok (s :: stack) := by
  unfold place
  split <;> simp_all [Block.ofCloser?]

theorem place_of_closes {s frame : Statement} {b : Block} {above below : List Statement}
    (h : Block.ofCloser? s.keyword = some b) (hf : frame.open? = some b)
    (ha : ∀ x ∈ above, x.open? ≠ some b) :
    place s (above ++ frame :: below) =
      .ok (s.leftAbove ++ frame.close (s.bodyFrom above) :: below) := by
  have hsplit : splitAtOpener (fun x => x.open? == some b) (above ++ frame :: below) =
      some (above, frame, below) :=
    splitAtOpener_append (fun x hx => by simpa using ha x hx) (by simpa using hf)
  unfold place Statement.leftAbove Statement.bodyFrom
  -- One case for each keyword that closes.
  rcases Block.ofCloser?_eq_some h with
    ⟨hk, rfl⟩ | ⟨hk, rfl⟩ | ⟨hk | hk, rfl⟩ | ⟨hk, rfl⟩
  · simp [hk, closeReturn, Statement.isOpen_label, hsplit]
  · simp [hk, closeReturn, Statement.isOpen_word, hsplit]
  · simp [hk, closeConditional, Statement.isOpen_conditional, hsplit, Functor.map, Except.map]
  · simp [hk, closeConditional, Statement.isOpen_conditional, hsplit]
  · simp [hk, closeLoop, Statement.isOpen_loop, hsplit, Functor.map, Except.map]

/-- The outcome of a closer of kind `b` whose opener is missing. -/
def withoutOpener (b : Block) (s : Statement) (stack : List Statement) :
    Except Fault (List Statement) :=
  match b.missing? with
  | none => .ok [Statement.emptyFrame.close (s :: stack).reverse]
  | some activity => .error (.stackUnderflow activity)

theorem place_of_no_opener {s : Statement} {b : Block} {stack : List Statement}
    (h : Block.ofCloser? s.keyword = some b) (hnone : ∀ x ∈ stack, x.open? ≠ some b) :
    place s stack = withoutOpener b s stack := by
  have hsplit : splitAtOpener (fun x => x.open? == some b) stack = none :=
    splitAtOpener_none (fun x hx => by simpa using hnone x hx)
  unfold place withoutOpener Block.missing?
  rcases Block.ofCloser?_eq_some h with
    ⟨hk, rfl⟩ | ⟨hk, rfl⟩ | ⟨hk | hk, rfl⟩ | ⟨hk, rfl⟩
  · simp [hk, closeReturn, Statement.isOpen_label, hsplit]
  · simp [hk, closeReturn, Statement.isOpen_word, hsplit]
  · simp [hk, closeConditional, Statement.isOpen_conditional, hsplit, Functor.map, Except.map]
  · simp [hk, closeConditional, Statement.isOpen_conditional, hsplit]
  · simp [hk, closeLoop, Statement.isOpen_loop, hsplit, Functor.map, Except.map]

/-- What placing a statement on a stack comes to. -/
inductive Placing (s : Statement) : List Statement → Except Fault (List Statement) → Prop where
  /-- It closes nothing and stays on top. -/
  | stays {stack : List Statement} (h : Block.ofCloser? s.keyword = none) :
      Placing s stack (.ok (s :: stack))
  /-- It closes the topmost open block of its kind. -/
  | closes {b : Block} {above below : List Statement} {frame : Statement}
      (h : Block.ofCloser? s.keyword = some b) (hf : frame.open? = some b)
      (ha : ∀ x ∈ above, x.open? ≠ some b) :
      Placing s (above ++ frame :: below)
        (.ok (s.leftAbove ++ frame.close (s.bodyFrom above) :: below))
  /-- A return without an opener: everything goes into an empty frame. -/
  | framed {b : Block} {stack : List Statement} (h : Block.ofCloser? s.keyword = some b)
      (hb : b.missing? = none) (hnone : ∀ x ∈ stack, x.open? ≠ some b) :
      Placing s stack (.ok [Statement.emptyFrame.close (s :: stack).reverse])
  /-- Another closer without an opener. -/
  | fails {b : Block} {activity : Activity} {stack : List Statement}
      (h : Block.ofCloser? s.keyword = some b) (hb : b.missing? = some activity)
      (hnone : ∀ x ∈ stack, x.open? ≠ some b) :
      Placing s stack (.error (.stackUnderflow activity))

theorem placing (s : Statement) (stack : List Statement) : Placing s stack (place s stack) := by
  cases h : Block.ofCloser? s.keyword with
  | none => rw [place_of_stays h]; exact .stays h
  | some b =>
    rcases topmost_or_none b stack with ⟨above, frame, below, rfl, hf, ha⟩ | hnone
    · rw [place_of_closes h hf ha]; exact .closes h hf ha
    · rw [place_of_no_opener h hnone]
      unfold withoutOpener
      cases hb : b.missing? with
      | none => exact .framed h hb hnone
      | some activity => exact .fails h hb hnone

/-- Everything that a statement placed with success can do. -/
theorem placing_of_ok {s : Statement} {stack out : List Statement}
    (h : place s stack = .ok out) : Placing s stack (.ok out) :=
  h ▸ placing s stack

end Nesting

end SceneScript
