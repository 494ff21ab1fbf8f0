import SceneScript.Proofs.Nesting.Stream

/-
  The shape of everything nesting can hold. `Reachable` is every state that
  pushing fresh statements leads to, with any labels and after any number of
  faults. Whatever is on the stack then, at any depth, has one shape
  (`shaped_of_reachable`):

  - only openers and empty frames are closed, and only closed statements have
    a body (`NodeShape.closed_keyword`, `NodeShape.open_bodiless`);
  - a branch end is nowhere, and a return only at the end of the body of what
    it closed, or of an empty frame (`NodeShape.not_branchEnd`,
    `NodeShape.returns`);
  - a closer took the innermost open block of its kind
    (`NodeShape.innermost`);
  - in source order a loop and its end, and a conditional and its end, stand
    side by side (`NodeShape.row`);
  - an empty frame is the first on the stack or the first in another empty
    frame, and holds no open block that its return would have closed
    (`NodeShape.frames`, `Shaped.frames`, `NodeShape.frame_opener`).
-/

namespace SceneScript

namespace Statement

/-- Whether this is a closed block with a given keyword. -/
def isClosed (s : Statement) (keyword : Keyword) : Bool :=
  s.closed && s.keyword == keyword

/-- Whether this is a body whose opener was missing. -/
def isFrame (s : Statement) : Bool := s.isClosed (.other "")

/-- Whether this is a return, of a label or of a word. -/
def isReturn (s : Statement) : Bool :=
  s.keyword == .labelReturn || s.keyword == .wordReturn

/-- The body in source order. -/
def body (s : Statement) : List Statement :=
  if s.isClosed .loop then s.children.reverse else s.children

/-- The returns that the body of a closed statement may end with; none for a
statement whose body ends with no return. -/
def lastReturns (s : Statement) : List Keyword :=
  if s.isClosed .label then [.labelReturn]
  else if s.isClosed .word then [.wordReturn]
  else if s.isFrame then [.labelReturn, .wordReturn]
  else []

end Statement

namespace Nesting

/-- The states that pushing fresh statements leads to, whether or not a push
succeeded. -/
inductive Reachable (labels : List Label) : Nesting → Prop where
  | start : Reachable labels (ofLabels labels)
  | push {n : Nesting} {s : Statement} (h : Reachable labels n) (hs : s.Fresh) :
      Reachable labels (n.push s).1

/-- `s` stands somewhere among some statements, at any depth. -/
inductive Occurs (s : Statement) : List Statement → Prop where
  | here {row : List Statement} (h : s ∈ row) : Occurs s row
  | deeper {row : List Statement} {t : Statement} (ht : t ∈ row) (h : Occurs s t.children) :
      Occurs s row

/-- What may follow what among neighbours, `none` being the border: a loop end
comes right after a closed loop and nothing else does, and a conditional end
comes right after a closed conditional or alternative. -/
structure Adjacent (x y : Option Statement) : Prop where
  loop : x.any (·.isClosed .loop) = y.any (·.keyword == .loopEnd)
  conditional : y.any (·.keyword == .conditionalEnd) = true →
    x.any (fun s => s.isClosed .conditional || s.isClosed .alternative) = true

/-- Neighbours fit from `x` through the row to `y`. -/
def RowBetween : Option Statement → List Statement → Option Statement → Prop
  | x, [], y => Adjacent x y
  | x, s :: rest, y => Adjacent x (some s) ∧ RowBetween (some s) rest y

/-- All neighbours of a row fit, its ends included. -/
def Row (row : List Statement) : Prop := RowBetween none row none

/-- The shape of one statement and its body. -/
structure NodeShape (t : Statement) : Prop where
  closed_keyword : t.closed = true →
    t.keyword ∈ [.label, .word, .conditional, .alternative, .loop, .other ""]
  open_bodiless : t.closed = false → t.children = []
  not_branchEnd : t.keyword ≠ .branchEnd
  returns : (t.lastReturns = [] → ∀ s ∈ t.body, s.isReturn = false) ∧
    (t.lastReturns ≠ [] → ∃ front last, t.body = front ++ [last] ∧
      last.keyword ∈ t.lastReturns ∧ ∀ s ∈ front, s.isReturn = false)
  innermost : t.closed = true → ∀ b, Block.ofOpener? t.keyword = some b →
    ∀ s ∈ t.children, s.open? ≠ some b
  row : Row t.body
  frames : (t.isFrame = false → ∀ s ∈ t.children, s.isFrame = false) ∧
    ∀ s ∈ t.body.tail, s.isFrame = false
  frame_opener : t.isFrame = true → ∀ last ∈ t.body.getLast?, ∀ b,
    Block.ofCloser? last.keyword = some b → ∀ s ∈ t.children, s.open? ≠ some b

/-- The shape of a stack in source order. -/
structure Shaped (forest : List Statement) : Prop where
  nodes : ∀ t, Occurs t forest → NodeShape t
  row : Row forest
  no_return : ∀ s ∈ forest, s.isReturn = false
  frames : ∀ s ∈ forest.tail, s.isFrame = false

/-! ## Standing somewhere -/

theorem occurs_iff {t : Statement} {row : List Statement} :
    Occurs t row ↔ ∃ s ∈ row, t = s ∨ Occurs t s.children := by
  constructor
  · intro h
    cases h with
    | here h => exact ⟨t, h, .inl rfl⟩
    | deeper ht h => exact ⟨_, ht, .inr h⟩
  · rintro ⟨s, hs, rfl | h⟩
    · exact .here hs
    · exact .deeper hs h

theorem eq_of_occurs_fresh {t s : Statement} (hs : s.Fresh) (h : t = s ∨ Occurs t s.children) :
    t = s := by
  rcases h with rfl | h
  · rfl
  · rw [hs.no_children] at h
    obtain ⟨x, hx, _⟩ := occurs_iff.mp h
    cases hx

/-! ## Neighbours -/

theorem rowBetween_append_cons {x y : Option Statement} {front rest : List Statement}
    {s : Statement} :
    RowBetween x (front ++ s :: rest) y ↔
      RowBetween x front (some s) ∧ RowBetween (some s) rest y := by
  induction front generalizing x with
  | nil => exact Iff.rfl
  | cons f front ih =>
    simp only [List.cons_append, RowBetween, ih, and_assoc]

theorem RowBetween.congr_left {x x' y : Option Statement} {row : List Statement}
    (h : RowBetween x row y) (hx : ∀ z, Adjacent x z → Adjacent x' z) :
    RowBetween x' row y := by
  cases row with
  | nil => exact hx y h
  | cons s rest => exact ⟨hx (some s) h.1, h.2⟩

theorem RowBetween.congr_right {x y y' : Option Statement} {row : List Statement}
    (h : RowBetween x row y) (hy : ∀ z, Adjacent z y → Adjacent z y') :
    RowBetween x row y' := by
  induction row generalizing x with
  | nil => exact hy x h
  | cons s rest ih => exact ⟨h.1, ih h.2⟩

/-- What is not closed is no more of a neighbour to the right than the border. -/
theorem adjacent_of_not_closed {s : Statement} (hs : s.closed = false) {z : Option Statement} :
    Adjacent (some s) z ↔ Adjacent none z := by
  constructor
  · rintro ⟨hl, hc⟩
    exact ⟨by simpa [Statement.isClosed, hs] using hl, by simpa [Statement.isClosed, hs] using hc⟩
  · rintro ⟨hl, hc⟩
    exact ⟨by simpa [Statement.isClosed, hs] using hl, by simpa [Statement.isClosed, hs] using hc⟩

/-- The neighbour to the left sees a keyword only. -/
theorem adjacent_of_keyword {s s' : Statement} (h : s.keyword = s'.keyword)
    {z : Option Statement} (ha : Adjacent z (some s)) : Adjacent z (some s') := by
  obtain ⟨hl, hc⟩ := ha
  exact ⟨by simpa [h] using hl, by simpa [h] using hc⟩

/-- What is no end of a conditional or a loop is no more of a neighbour to the
left than the border. -/
theorem adjacent_of_not_end {s : Statement} (hl : s.keyword ≠ .loopEnd)
    (hc : s.keyword ≠ .conditionalEnd) {z : Option Statement} (ha : Adjacent z none) :
    Adjacent z (some s) := by
  obtain ⟨hloop, _⟩ := ha
  have hl' : (s.keyword == .loopEnd) = false := beq_eq_false_iff_ne.mpr hl
  exact ⟨by simpa [hl'] using hloop, by simp [hc]⟩

theorem adjacent_none : Adjacent none none := ⟨rfl, by simp⟩

/-- A fresh statement that ends nothing may follow any row. -/
theorem row_append_fresh {s : Statement} {row : List Statement} (hs : s.Fresh)
    (hl : s.keyword ≠ .loopEnd) (hc : s.keyword ≠ .conditionalEnd) (h : Row row) :
    Row (row ++ [s]) := by
  refine rowBetween_append_cons.mpr ⟨h.congr_right (fun _ => adjacent_of_not_end hl hc), ?_⟩
  exact (adjacent_of_not_closed hs.not_closed).mpr adjacent_none

/-! ## The statements a closer makes -/

theorem nodeShape_of_fresh {s : Statement} (hs : s.Fresh) (hb : s.keyword ≠ .branchEnd) :
    NodeShape s := by
  have hclosed : ∀ k, s.isClosed k = false := by
    intro k
    simp [Statement.isClosed, hs.not_closed]
  have hbody : s.body = [] := by
    simp [Statement.body, hclosed, hs.no_children]
  have hlast : s.lastReturns = [] := by
    simp [Statement.lastReturns, Statement.isFrame, hclosed]
  refine ⟨?_, fun _ => hs.no_children, hb, ⟨?_, fun hne => absurd hlast hne⟩, ?_, ?_, ⟨?_, ?_⟩, ?_⟩
  · intro hc
    rw [hs.not_closed] at hc
    cases hc
  · simp [hbody]
  · intro hc
    rw [hs.not_closed] at hc
    cases hc
  · rw [hbody]
    exact adjacent_none
  · simp [hs.no_children]
  · simp [hbody]
  · simp [Statement.isFrame, hclosed]

theorem mem_bodyFrom {s x : Statement} {above : List Statement} (h : x ∈ s.bodyFrom above) :
    x ∈ above ∨ (x = s ∧ s.isReturn = true) := by
  unfold Statement.bodyFrom at h
  split at h
  · next hk =>
    rcases List.mem_cons.mp (List.mem_reverse.mp h) with rfl | hx
    · exact .inr ⟨rfl, by simp [Statement.isReturn, hk]⟩
    · exact .inl hx
  · next hk =>
    rcases List.mem_cons.mp (List.mem_reverse.mp h) with rfl | hx
    · exact .inr ⟨rfl, by simp [Statement.isReturn, hk]⟩
    · exact .inl hx
  · exact .inl h
  · exact .inl (List.mem_reverse.mp h)

/-- The body of a closed block in source order: what lay above the opener, and
the closer if it is a return. -/
theorem body_close {s frame : Statement} {b : Block} (above : List Statement)
    (hk : Block.ofCloser? s.keyword = some b) (hf : frame.open? = some b) :
    (frame.close (s.bodyFrom above)).body = above.reverse ++ [s].filter Statement.isReturn := by
  have ho := Block.ofOpener?_eq_some (Statement.opener_of_open? hf)
  rcases Block.ofCloser?_eq_some hk with
    ⟨hkey, rfl⟩ | ⟨hkey, rfl⟩ | ⟨hkey | hkey, rfl⟩ | ⟨hkey, rfl⟩
  all_goals simp at ho
  · simp [Statement.body, Statement.isClosed, Statement.bodyFrom, Statement.isReturn, hkey, ho]
  · simp [Statement.body, Statement.isClosed, Statement.bodyFrom, Statement.isReturn, hkey, ho]
  · rcases ho with ho | ho <;>
      simp [Statement.body, Statement.isClosed, Statement.bodyFrom, Statement.isReturn, hkey, ho]
  · rcases ho with ho | ho <;>
      simp [Statement.body, Statement.isClosed, Statement.bodyFrom, Statement.isReturn, hkey, ho]
  · simp [Statement.body, Statement.isClosed, Statement.bodyFrom, Statement.isReturn, hkey, ho]

/-- The row of a body that ends with a return, or of one that does not. -/
theorem row_body {s : Statement} {row : List Statement} (hs : s.Fresh) (h : Row row) :
    Row (row ++ [s].filter Statement.isReturn) := by
  cases hr : s.isReturn with
  | false => simpa [hr] using h
  | true =>
    have hkey : s.keyword = .labelReturn ∨ s.keyword = .wordReturn := by
      simpa [Statement.isReturn] using hr
    have hrow := row_append_fresh hs (by rcases hkey with hk | hk <;> rw [hk] <;> decide)
      (by rcases hkey with hk | hk <;> rw [hk] <;> decide) h
    simpa [hr] using hrow

/-- The body of a closed block ends with the return that closed it, and holds
no other. -/
theorem returns_close {s frame : Statement} {b : Block} {above : List Statement}
    (hk : Block.ofCloser? s.keyword = some b) (hf : frame.open? = some b)
    (hreturn : ∀ x ∈ above, x.isReturn = false) :
    let t := frame.close (s.bodyFrom above)
    (t.lastReturns = [] → ∀ x ∈ t.body, x.isReturn = false) ∧
      (t.lastReturns ≠ [] → ∃ front last, t.body = front ++ [last] ∧
        last.keyword ∈ t.lastReturns ∧ ∀ x ∈ front, x.isReturn = false) := by
  intro t
  have hbody : t.body = above.reverse ++ [s].filter Statement.isReturn := body_close above hk hf
  have hreturn' : ∀ x ∈ above.reverse, x.isReturn = false :=
    fun x hx => hreturn x (List.mem_reverse.mp hx)
  have ho := Block.ofOpener?_eq_some (Statement.opener_of_open? hf)
  -- A return leaves itself at the end; any other closer leaves no return at all.
  cases hr : s.isReturn with
  | true =>
    have hlast : s.keyword ∈ t.lastReturns := by
      rcases Block.ofCloser?_eq_some hk with
        ⟨hkey, rfl⟩ | ⟨hkey, rfl⟩ | ⟨hkey | hkey, rfl⟩ | ⟨hkey, rfl⟩
      all_goals simp at ho
      · simp [t, Statement.lastReturns, Statement.isClosed, ho, hkey]
      · simp [t, Statement.lastReturns, Statement.isClosed, ho, hkey]
      all_goals simp [Statement.isReturn, hkey] at hr
    refine ⟨fun hnil => absurd hlast (by simp [hnil]), fun _ => ?_⟩
    exact ⟨above.reverse, s, by simpa [hr] using hbody, hlast, hreturn'⟩
  | false =>
    have hnone : t.lastReturns = [] := by
      rcases Block.ofCloser?_eq_some hk with
        ⟨hkey, rfl⟩ | ⟨hkey, rfl⟩ | ⟨_, rfl⟩ | ⟨_, rfl⟩
      · simp [Statement.isReturn, hkey] at hr
      · simp [Statement.isReturn, hkey] at hr
      · simp at ho
        rcases ho with ho | ho <;>
          simp [t, Statement.lastReturns, Statement.isClosed, Statement.isFrame, ho]
      · simp at ho
        simp [t, Statement.lastReturns, Statement.isClosed, Statement.isFrame, ho]
    refine ⟨fun _ x hx => ?_, fun hne => absurd hnone hne⟩
    rw [hbody] at hx
    exact hreturn' x (by simpa [hr] using hx)

theorem isFrame_of_fresh {s : Statement} (hs : s.Fresh) : s.isFrame = false := by
  simp [Statement.isFrame, Statement.isClosed, hs.not_closed]

theorem isFrame_of_opener {s : Statement} {b : Block} (h : Block.ofOpener? s.keyword = some b) :
    s.isFrame = false := by
  have hne : s.keyword ≠ .other "" := by
    intro hk
    rw [hk] at h
    cases h
  simp [Statement.isFrame, Statement.isClosed, hne]

theorem mem_of_mem_tail_append {x : Statement} {front rest : List Statement}
    (h : x ∈ (front ++ rest).tail) : x ∈ front.tail ∨ x ∈ rest := by
  cases front with
  | nil => exact .inr (List.mem_of_mem_tail h)
  | cons f front => exact List.mem_append.mp h

theorem nodeShape_close {s frame : Statement} {b : Block} {above : List Statement}
    (hs : s.Fresh) (hk : Block.ofCloser? s.keyword = some b) (hf : frame.open? = some b)
    (ha : ∀ x ∈ above, x.open? ≠ some b) (hrow : Row above.reverse)
    (hreturn : ∀ x ∈ above, x.isReturn = false) (hframe : ∀ x ∈ above, x.isFrame = false) :
    NodeShape (frame.close (s.bodyFrom above)) := by
  have hopener := Statement.opener_of_open? hf
  have hbody := body_close above hk hf
  have hmem : ∀ x ∈ s.bodyFrom above, x ∈ above ∨ x = s := by
    intro x hx
    rcases mem_bodyFrom hx with hx | ⟨hx, _⟩
    · exact .inl hx
    · exact .inr hx
  have hnoframe : ∀ x ∈ s.bodyFrom above, x.isFrame = false := by
    intro x hx
    rcases hmem x hx with hx | rfl
    · exact hframe x hx
    · exact isFrame_of_fresh hs
  have hnotframe : (frame.close (s.bodyFrom above)).isFrame = false :=
    isFrame_of_opener (b := b) hopener
  refine ⟨?_, ?_, ?_, returns_close hk hf hreturn, ?_, ?_, ⟨fun _ => hnoframe, ?_⟩, ?_⟩
  · intro _
    rcases Block.ofOpener?_eq_some hopener with
      ⟨h, _⟩ | ⟨h, _⟩ | ⟨h | h, _⟩ | ⟨h, _⟩ <;> simp [h]
  · intro hc
    cases hc
  · intro hbranch
    rw [Statement.keyword_close] at hbranch
    rw [hbranch] at hopener
    cases hopener
  · intro _ c hc x hx
    rw [Statement.keyword_close, hopener] at hc
    cases hc
    rcases hmem x hx with hx | rfl
    · exact ha x hx
    · rw [Statement.open?_of_fresh hs]
      rcases Block.ofCloser?_eq_some hk with
        ⟨hkey, rfl⟩ | ⟨hkey, rfl⟩ | ⟨hkey | hkey, rfl⟩ | ⟨hkey, rfl⟩ <;>
        simp [hkey, Block.ofOpener?]
  · rw [hbody]
    exact row_body hs hrow
  · intro x hx
    rw [hbody] at hx
    rcases List.mem_append.mp (List.mem_of_mem_tail hx) with hx | hx
    · exact hframe x (List.mem_reverse.mp hx)
    · rw [List.mem_singleton.mp (List.mem_filter.mp hx).1]
      exact isFrame_of_fresh hs
  · intro hc
    rw [hnotframe] at hc
    cases hc

theorem nodeShape_emptyFrame {s : Statement} {b : Block} {stack : List Statement}
    (hs : s.Fresh) (hk : Block.ofCloser? s.keyword = some b) (hb : b.missing? = none)
    (hnone : ∀ x ∈ stack, x.open? ≠ some b) (hrow : Row stack.reverse)
    (hreturn : ∀ x ∈ stack, x.isReturn = false)
    (hframe : ∀ x ∈ stack.reverse.tail, x.isFrame = false) :
    NodeShape (Statement.emptyFrame.close (s :: stack).reverse) := by
  have hkey : s.keyword = .labelReturn ∨ s.keyword = .wordReturn := by
    rcases Block.ofCloser?_eq_some hk with
      ⟨h, rfl⟩ | ⟨h, rfl⟩ | ⟨_, rfl⟩ | ⟨_, rfl⟩
    · exact .inl h
    · exact .inr h
    · cases hb
    · cases hb
  have hopen : s.open? ≠ some b := by
    rw [Statement.open?_of_fresh hs]
    rcases hkey with h | h <;> simp [h, Block.ofOpener?]
  have hbody : (Statement.emptyFrame.close (s :: stack).reverse).body = stack.reverse ++ [s] := by
    simp [Statement.body, Statement.isClosed, Statement.emptyFrame, Statement.ofKeyword]
  have hlast : (Statement.emptyFrame.close (s :: stack).reverse).lastReturns =
      [.labelReturn, .wordReturn] := by
    simp [Statement.lastReturns, Statement.isClosed, Statement.isFrame, Statement.emptyFrame,
      Statement.ofKeyword]
  refine ⟨?_, ?_, ?_, ⟨?_, ?_⟩, ?_, ?_, ⟨?_, ?_⟩, ?_⟩
  · intro _
    simp [Statement.emptyFrame, Statement.ofKeyword]
  · intro hc
    cases hc
  · simp [Statement.emptyFrame, Statement.ofKeyword]
  · intro hnil
    rw [hlast] at hnil
    cases hnil
  · intro _
    refine ⟨stack.reverse, s, hbody, ?_, fun x hx => hreturn x (List.mem_reverse.mp hx)⟩
    rw [hlast]
    simpa using hkey
  · intro _ c hc
    cases hc
  · rw [hbody]
    refine row_append_fresh hs ?_ ?_ hrow
    · rcases hkey with h | h <;> rw [h] <;> decide
    · rcases hkey with h | h <;> rw [h] <;> decide
  · intro hnot
    simp [Statement.isFrame, Statement.isClosed, Statement.emptyFrame, Statement.ofKeyword] at hnot
  · intro x hx
    rw [hbody] at hx
    rcases mem_of_mem_tail_append hx with hx | hx
    · exact hframe x hx
    · rw [List.mem_singleton.mp hx]
      exact isFrame_of_fresh hs
  · -- The last statement is the return, which found no opener on the stack.
    intro _ last hmem c hc x hx
    rw [hbody, List.getLast?_append] at hmem
    have hls : s = last := by simpa using hmem
    rw [← hls, hk] at hc
    cases hc
    rcases List.mem_cons.mp (List.mem_reverse.mp hx) with rfl | hx
    · exact hopen
    · exact hnone x hx

/-! ## One statement keeps the shape -/

/-- What a closer leaves above the block it closed fits there. -/
theorem row_leftAbove {s frame : Statement} {b : Block} (body : List Statement) (hs : s.Fresh)
    (hk : Block.ofCloser? s.keyword = some b) (hf : frame.open? = some b) :
    RowBetween (some (frame.close body)) s.leftAbove none := by
  have ho := Block.ofOpener?_eq_some (Statement.opener_of_open? hf)
  -- What stays is the end of a conditional or a loop, right after its block; a closed loop
  -- would need an end there, but its closer is always one.
  have hend : Adjacent (some s) none := (adjacent_of_not_closed hs.not_closed).mpr adjacent_none
  have hafter : frame.keyword ≠ .loop → Adjacent (some (frame.close body)) none :=
    fun hne => ⟨by simpa [Statement.isClosed] using hne, by simp⟩
  rcases Block.ofCloser?_eq_some hk with
    ⟨hkey, rfl⟩ | ⟨hkey, rfl⟩ | ⟨hkey | hkey, rfl⟩ | ⟨hkey, rfl⟩
  all_goals
    simp at ho
    simp only [Statement.leftAbove, hkey, RowBetween]
  · exact hafter (by simp [ho])
  · exact hafter (by simp [ho])
  · have hloop : (frame.close body).isClosed .loop = false := by
      rcases ho with ho | ho <;> simp [Statement.isClosed, ho]
    refine ⟨⟨?_, ?_⟩, hend⟩
    · simp [hloop, hkey]
    · rcases ho with ho | ho <;> simp [Statement.isClosed, ho, hkey]
  · exact hafter (by rcases ho with ho | ho <;> simp [ho])
  · exact ⟨⟨by simp [Statement.isClosed, ho, hkey], by simp [hkey]⟩, hend⟩

theorem shaped_stays {s : Statement} {row : List Statement} (hs : s.Fresh)
    (hk : Block.ofCloser? s.keyword = none) (h : Shaped row) : Shaped (row ++ [s]) := by
  have hne : ∀ k, Block.ofCloser? k ≠ none → s.keyword ≠ k :=
    fun k hk' heq => hk' (heq ▸ hk)
  refine ⟨?_, row_append_fresh hs (hne _ (by decide)) (hne _ (by decide)) h.row, ?_, ?_⟩
  · intro t ht
    obtain ⟨x, hx, htx⟩ := occurs_iff.mp ht
    rcases List.mem_append.mp hx with hx | hx
    · exact h.nodes t (occurs_iff.mpr ⟨x, hx, htx⟩)
    · rw [List.mem_singleton.mp hx] at htx
      rw [eq_of_occurs_fresh hs htx]
      exact nodeShape_of_fresh hs (hne _ (by decide))
  · intro x hx
    rcases List.mem_append.mp hx with hx | hx
    · exact h.no_return x hx
    · rw [List.mem_singleton.mp hx]
      simp [Statement.isReturn, hne .labelReturn (by decide), hne .wordReturn (by decide)]
  · intro x hx
    rcases mem_of_mem_tail_append hx with hx | hx
    · exact h.frames x hx
    · rw [List.mem_singleton.mp hx]
      exact isFrame_of_fresh hs

theorem shaped_closes {s frame : Statement} {b : Block} {above below : List Statement}
    (hs : s.Fresh) (hk : Block.ofCloser? s.keyword = some b) (hf : frame.open? = some b)
    (ha : ∀ x ∈ above, x.open? ≠ some b)
    (h : Shaped (below.reverse ++ frame :: above.reverse)) :
    Shaped (below.reverse ++ frame.close (s.bodyFrom above) :: s.leftAbove) := by
  obtain ⟨hbefore, hafter⟩ := rowBetween_append_cons.mp h.row
  have habove : ∀ x ∈ above, x ∈ below.reverse ++ frame :: above.reverse :=
    fun x hx => List.mem_append_right _ (List.mem_cons_of_mem _ (List.mem_reverse.mpr hx))
  have hopener := Statement.opener_of_open? hf
  have hframe : (frame.close (s.bodyFrom above)).isFrame = false :=
    isFrame_of_opener (b := b) hopener
  have hnode : NodeShape (frame.close (s.bodyFrom above)) := by
    refine nodeShape_close hs hk hf ha ?_ (fun x hx => h.no_return x (habove x hx)) ?_
    · -- The open frame was no neighbour that mattered: the row is cut right after it.
      exact hafter.congr_left
        (fun _ => (adjacent_of_not_closed (Statement.not_closed_of_open? hf)).mp)
    · intro x hx
      refine h.frames x ?_
      cases below.reverse with
      | nil => exact List.mem_reverse.mpr hx
      | cons y rest =>
        exact List.mem_append_right _ (List.mem_cons_of_mem _ (List.mem_reverse.mpr hx))
  refine ⟨?_, ?_, ?_, ?_⟩
  · -- Below the block nothing changed, in it is what lay above the opener and a return, above
    -- it the closer.
    intro t ht
    obtain ⟨x, hx, htx⟩ := occurs_iff.mp ht
    rcases List.mem_append.mp hx with hx | hx
    · exact h.nodes t (occurs_iff.mpr ⟨x, List.mem_append_left _ hx, htx⟩)
    · rcases List.mem_cons.mp hx with rfl | hx
      · rcases htx with rfl | htx
        · exact hnode
        · obtain ⟨y, hy, hty⟩ := occurs_iff.mp htx
          rcases mem_bodyFrom hy with hy | ⟨rfl, hr⟩
          · exact h.nodes t (occurs_iff.mpr ⟨y, habove y hy, hty⟩)
          · rw [eq_of_occurs_fresh hs hty]
            refine nodeShape_of_fresh hs ?_
            intro hbranch
            simp [Statement.isReturn, hbranch] at hr
      · obtain ⟨rfl, hkey⟩ := Statement.mem_leftAbove hx
        rw [eq_of_occurs_fresh hs htx]
        refine nodeShape_of_fresh hs ?_
        rcases hkey with hkey | hkey <;> rw [hkey] <;> decide
  · refine rowBetween_append_cons.mpr ⟨?_, row_leftAbove _ hs hk hf⟩
    exact hbefore.congr_right (fun _ => adjacent_of_keyword (Statement.keyword_close frame _).symm)
  · intro x hx
    rcases List.mem_append.mp hx with hx | hx
    · exact h.no_return x (List.mem_append_left _ hx)
    · rcases List.mem_cons.mp hx with rfl | hx
      · rcases Block.ofOpener?_eq_some hopener with
          ⟨ho, _⟩ | ⟨ho, _⟩ | ⟨ho | ho, _⟩ | ⟨ho, _⟩ <;> simp [Statement.isReturn, ho]
      · obtain ⟨rfl, hkey⟩ := Statement.mem_leftAbove hx
        rcases hkey with hkey | hkey <;> simp [Statement.isReturn, hkey]
  · intro x hx
    rcases mem_of_mem_tail_append hx with hx | hx
    · refine h.frames x ?_
      cases hb : below.reverse with
      | nil => rw [hb] at hx; cases hx
      | cons y rest => rw [hb] at hx; exact List.mem_append_left _ hx
    · rcases List.mem_cons.mp hx with rfl | hx
      · exact hframe
      · rw [(Statement.mem_leftAbove hx).1]
        exact isFrame_of_fresh hs

theorem shaped_framed {s : Statement} {b : Block} {stack : List Statement} (hs : s.Fresh)
    (hk : Block.ofCloser? s.keyword = some b) (hb : b.missing? = none)
    (hnone : ∀ x ∈ stack, x.open? ≠ some b) (h : Shaped stack.reverse) :
    Shaped [Statement.emptyFrame.close (s :: stack).reverse] := by
  refine ⟨?_, ?_, ?_, ?_⟩
  · intro t ht
    obtain ⟨x, hx, htx⟩ := occurs_iff.mp ht
    rw [List.mem_singleton.mp hx] at htx
    rcases htx with rfl | htx
    · exact nodeShape_emptyFrame hs hk hb hnone h.row
        (fun x hx => h.no_return x (List.mem_reverse.mpr hx)) h.frames
    · obtain ⟨y, hy, hty⟩ := occurs_iff.mp htx
      rcases List.mem_cons.mp (List.mem_reverse.mp hy) with rfl | hy
      · rw [eq_of_occurs_fresh hs hty]
        refine nodeShape_of_fresh hs ?_
        intro hbranch
        rw [hbranch] at hk
        cases hk
        cases hb
      · exact h.nodes t (occurs_iff.mpr ⟨y, List.mem_reverse.mpr hy, hty⟩)
  · refine ⟨⟨rfl, by simp [Statement.emptyFrame, Statement.ofKeyword]⟩, ⟨?_, by simp⟩⟩
    simp [Statement.isClosed, Statement.emptyFrame, Statement.ofKeyword]
  · intro x hx
    rw [List.mem_singleton.mp hx]
    rfl
  · intro x hx
    cases hx

theorem shaped_nil : Shaped [] := by
  refine ⟨?_, adjacent_none, ?_, ?_⟩
  · intro t ht
    obtain ⟨x, hx, _⟩ := occurs_iff.mp ht
    cases hx
  · intro s hs
    cases hs
  · intro s hs
    cases hs

/-- Placing a fresh statement keeps the shape of the stack. -/
theorem shaped_place {s : Statement} {stack out : List Statement} (hs : s.Fresh)
    (h : Shaped stack.reverse) (hp : place s stack = .ok out) : Shaped out.reverse := by
  cases placing_of_ok hp with
  | stays hk =>
    rw [List.reverse_cons]
    exact shaped_stays hs hk h
  | @closes b above below frame hk hf ha =>
    rw [List.reverse_append, List.reverse_cons, List.append_assoc] at h
    rw [List.reverse_append, List.reverse_cons, Statement.leftAbove_reverse, List.append_assoc]
    exact shaped_closes hs hk hf ha h
  | framed hk hb hnone => exact shaped_framed hs hk hb hnone h

theorem shaped_placeAll {stream stack out : List Statement} (hs : ∀ s ∈ stream, s.Fresh)
    (h : Shaped stack.reverse) (hp : placeAll stream stack = .ok out) : Shaped out.reverse := by
  induction stream generalizing stack with
  | nil =>
    rw [← Except.ok.inj hp]
    exact h
  | cons s rest ih =>
    rw [placeAll] at hp
    cases hstep : place s stack with
    | error f => rw [hstep] at hp; cases hp
    | ok next =>
      rw [hstep] at hp
      exact ih (fun x hx => hs x (List.mem_cons_of_mem s hx))
        (shaped_place (hs s List.mem_cons_self) h hstep) hp

/-! ## Every reachable stack -/

/-- The labels that are due are placed like any other statements. -/
theorem shaped_placeLabels {n : Nesting} (h : Shaped n.stack.reverse) :
    Shaped n.placeLabels.stack.reverse := by
  refine shaped_placeAll ?_ h (placeAll_labels (n.pending.takeWhile (isDue n.count)) n.stack)
  intro s hs
  obtain ⟨l, _, rfl⟩ := List.mem_map.mp hs
  exact Statement.fresh_ofLabel l.name

/-- **One shape.** Whatever was pushed, and whatever failed on the way, the
stack in source order and everything in it is as `Shaped` and `NodeShape`
say. -/
theorem shaped_of_reachable {labels : List Label} {n : Nesting} (h : Reachable labels n) :
    Shaped n.stack.reverse := by
  induction h with
  | start => exact shaped_nil
  | @push n s _ hs ih =>
    have hlabels := shaped_placeLabels ih
    unfold push
    simp only
    cases hp : place s n.placeLabels.stack with
    | ok stack => exact shaped_place hs hlabels hp
    | error f => exact shaped_nil -- a fault leaves no stack behind

/-- Pushing one fresh statement after another, whatever each push says, leads
to a reachable state. -/
theorem Reachable.pushEach {labels : List Label} {flat : List Statement} {n : Nesting}
    (h : Reachable labels n) (hs : ∀ s ∈ flat, s.Fresh) :
    Reachable labels (flat.foldl (fun n s => (n.push s).1) n) := by
  induction flat generalizing n with
  | nil => exact h
  | cons s rest ih =>
    have hnext : Reachable labels (n.push s).1 := .push h (hs s List.mem_cons_self)
    exact ih hnext (fun x hx => hs x (List.mem_cons_of_mem s hx))

/-- A loop end that has no loop, then blocks that overlap, then returns that
have no opener. -/
def brokenScript : List Statement :=
  [.conditional, .loopEnd, .loop, .conditional, .loopEnd, .wordReturn, .conditional, .alternative,
    .conditionalEnd, .labelReturn].map Statement.ofKeyword

def brokenLabels : List Label := [⟨"LOST", 0, 0, 0⟩, ⟨"INNER", 1, 2, 0⟩]

/-- Where the broken script leads, its fault passed over. -/
def afterBroken : Nesting :=
  brokenScript.foldl (fun n s => (n.push s).1) (ofLabels brokenLabels)

theorem shaped_of_reachable_broken :
    ((ofLabels brokenLabels).push (Statement.ofKeyword .conditional)).1.push
        (Statement.ofKeyword .loopEnd) =
      (⟨[], 1, [⟨"INNER", 1, 2, 0⟩]⟩, .error (.stackUnderflow .loopClose)) ∧
    Reachable brokenLabels afterBroken ∧ afterBroken.stack.length = 1 ∧
    Shaped afterBroken.stack.reverse := by
  have h : Reachable brokenLabels afterBroken :=
    Reachable.pushEach .start (Statement.fresh_ofKeywords _)
  exact ⟨rfl, h, rfl, shaped_of_reachable h⟩

end Nesting

end SceneScript
