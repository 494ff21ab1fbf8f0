import SceneScript.Proofs.Nesting.OpenBlocks
import SceneScript.Proofs.Nesting.Shape

/-
  Nesting as a machine on open blocks. The outline of a half nested script is
  the kinds of its open blocks, the count and the labels still to come; the
  trees are left out. What a push says and what it leaves open are decided by
  the outline alone (`outline_push`), and so is everything that a run of
  pushes says, faults and what comes after them included (`outline_feed`).
  After a fault nothing is left but the count and the labels to come
  (`push_of_fault`). `push_decided` says all of this of every reachable state.
-/

namespace SceneScript

/-- A half nested script without its statements: the kinds of the open blocks,
innermost first, the count and the labels still to come. -/
structure Outline where
  blocks : List Block
  count : Nat
  pending : List Label
  deriving DecidableEq, Repr

namespace Outline

/-- Open a block for each label that is due. -/
def placeLabels (o : Outline) : Outline :=
  { o with
    blocks := List.replicate (o.pending.takeWhile (Nesting.isDue o.count)).length .label ++ o.blocks
    pending := o.pending.dropWhile (Nesting.isDue o.count) }

/-- Take in a statement with keyword `k`. On a fault no block is left open, the
labels that were due are used up, and the count stands still. -/
def push (k : Keyword) (o : Outline) : Outline × Except Fault Unit :=
  let o := o.placeLabels
  match Nesting.stepBlocks k o.blocks with
  | .ok blocks => ({ o with blocks := blocks, count := o.count + 1 }, .ok ())
  | .error activity => ({ o with blocks := [] }, .error (.stackUnderflow activity))

/-- Take in one statement after the other, whatever each push says: what is
there at the end, and what the pushes said. -/
def feed : List Keyword → Outline → Outline × List (Except Fault Unit)
  | [], o => (o, [])
  | k :: rest, o =>
    let next := o.push k
    let last := feed rest next.1
    (last.1, next.2 :: last.2)

end Outline

namespace Nesting

def outline (n : Nesting) : Outline := ⟨openBlocks n.stack, n.count, n.pending⟩

/-- Take in one statement after the other, whatever each push says: what is
there at the end, and what the pushes said. -/
def feed : List Statement → Nesting → Nesting × List (Except Fault Unit)
  | [], n => (n, [])
  | s :: rest, n =>
    let next := n.push s
    let last := feed rest next.1
    (last.1, next.2 :: last.2)

/-! ## The labels that are due -/

theorem openBlocks_labels (labels : List Label) :
    openBlocks (labels.map (fun l => Statement.ofLabel l.name)) =
      List.replicate labels.length .label := by
  induction labels with
  | nil => rfl
  | cons l rest ih =>
    have hopen : (Statement.ofLabel l.name).open? = some .label := rfl
    rw [List.map_cons, openBlocks, List.filterMap_cons_some hopen, List.length_cons,
      List.replicate_succ]
    exact congrArg (Block.label :: ·) ih

theorem outline_placeLabels (n : Nesting) : n.placeLabels.outline = n.outline.placeLabels := by
  have hdue := openBlocks_labels (n.pending.takeWhile (isDue n.count))
  unfold openBlocks at hdue
  simp only [outline, placeLabels, Outline.placeLabels, openBlocks, List.filterMap_append,
    List.filterMap_reverse, hdue, List.reverse_replicate]

/-- With labels by ascending offset, no label to come is behind the count. -/
theorem Reachable.ahead {labels : List Label} {n : Nesting} (h : Reachable labels n)
    (hs : Sorted labels) : Sorted n.pending ∧ ∀ l ∈ n.pending, n.count ≤ l.offset.toNat := by
  induction h with
  | start => exact ⟨hs, fun _ _ => Nat.zero_le _⟩
  | @push n s _ _ ih =>
    obtain ⟨hsorted, hlater, _⟩ := dropWhile_isDue ih.1 ih.2
    unfold Nesting.push
    simp only
    -- Whether or not the statement is placed, the labels that were due are gone.
    cases place s n.placeLabels.stack with
    | ok stack => exact ⟨hsorted, hlater⟩
    | error f => exact ⟨hsorted, fun l hl => Nat.le_of_succ_le (hlater l hl)⟩

/-! ## One push and a run of pushes -/

/-- The outline goes where the machine goes, and both say the same. -/
theorem outline_push {s : Statement} (hs : s.Fresh) (n : Nesting) :
    (n.push s).1.outline = (n.outline.push s.keyword).1 ∧
      (n.push s).2 = (n.outline.push s.keyword).2 := by
  have hplace := openBlocks_place hs n.placeLabels.stack
  have hblocks : openBlocks n.placeLabels.stack = n.outline.placeLabels.blocks :=
    congrArg Outline.blocks (outline_placeLabels n)
  rw [hblocks] at hplace
  unfold push Outline.push
  simp only
  cases hp : place s n.placeLabels.stack with
  | ok stack =>
    cases hb : stepBlocks s.keyword n.outline.placeLabels.blocks with
    | error activity => rw [hp, hb] at hplace; cases hplace
    | ok blocks =>
      rw [hp, hb] at hplace
      have hout : openBlocks stack = blocks := Except.ok.inj hplace
      exact ⟨by rw [← hout]; rfl, rfl⟩
  | error f =>
    cases hb : stepBlocks s.keyword n.outline.placeLabels.blocks with
    | ok blocks => rw [hp, hb] at hplace; cases hplace
    | error activity =>
      rw [hp, hb] at hplace
      have hfault : f = .stackUnderflow activity := Except.error.inj hplace
      exact ⟨rfl, by rw [hfault]⟩

/-- A run of pushes takes the outline where the machine goes, and both say the
same all the way. -/
theorem outline_feed {flat : List Statement} (hs : ∀ s ∈ flat, s.Fresh) (n : Nesting) :
    (n.feed flat).1.outline = (n.outline.feed (flat.map (·.keyword))).1 ∧
      (n.feed flat).2 = (n.outline.feed (flat.map (·.keyword))).2 := by
  induction flat generalizing n with
  | nil => exact ⟨rfl, rfl⟩
  | cons s rest ih =>
    obtain ⟨hnext, hsaid⟩ := outline_push (hs s List.mem_cons_self) n
    have hrest := ih (fun x hx => hs x (List.mem_cons_of_mem s hx)) (n.push s).1
    rw [hnext] at hrest
    refine ⟨hrest.1, ?_⟩
    show (n.push s).2 :: (feed rest (n.push s).1).2 = _
    rw [hsaid, hrest.2]
    rfl

/-- A fault leaves the count and the labels to come, and nothing else. -/
theorem push_of_fault {n : Nesting} {s : Statement} {f : Fault} (h : (n.push s).2 = .error f) :
    (n.push s).1 = { ofLabels n.placeLabels.pending with count := n.count } := by
  unfold push at h ⊢
  simp only at h ⊢
  cases hp : place s n.placeLabels.stack with
  | ok stack => rw [hp] at h; cases h
  | error g => rfl

/-! ## What is decided -/

/-- The machine is at a loss exactly for an end of a conditional or of a loop
without a block of its kind. -/
theorem stepBlocks_eq_error_iff {k : Keyword} {blocks : List Block} {activity : Activity} :
    stepBlocks k blocks = .error activity ↔
      ((k = .conditionalEnd ∨ k = .branchEnd) ∧ .conditional ∉ blocks ∧
        activity = .conditionalClose) ∨
      (k = .loopEnd ∧ .loop ∉ blocks ∧ activity = .loopClose) := by
  constructor
  · intro h
    cases hc : Block.ofCloser? k with
    | none =>
      rw [stepBlocks_of_stays hc] at h
      cases h
    | some b =>
      cases hf : fromBlock b blocks with
      | cons c around =>
        rw [stepBlocks_of_found hc hf] at h
        cases h
      | nil =>
        have habsent : b ∉ blocks := fromBlock_eq_nil.mp hf
        -- A return makes do without an opener; the other closers report their own activity.
        cases hb : b.missing? with
        | none =>
          rw [stepBlocks_of_return hc hf hb] at h
          cases h
        | some missing =>
          rw [stepBlocks_of_missing hc hf hb] at h
          obtain rfl := Except.error.inj h
          rcases Block.ofCloser?_eq_some hc with
            ⟨_, rfl⟩ | ⟨_, rfl⟩ | ⟨hk, rfl⟩ | ⟨hk, rfl⟩
          · cases hb
          · cases hb
          · exact .inl ⟨hk, habsent, (Option.some.inj hb).symm⟩
          · exact .inr ⟨hk, habsent, (Option.some.inj hb).symm⟩
  · rintro (⟨hk, habsent, rfl⟩ | ⟨rfl, habsent, rfl⟩)
    · have hc : Block.ofCloser? k = some .conditional := by
        rcases hk with rfl | rfl <;> rfl
      exact stepBlocks_of_missing hc (fromBlock_eq_nil.mpr habsent) rfl
    · exact stepBlocks_of_missing rfl (fromBlock_eq_nil.mpr habsent) rfl

/-- A push fails when the machine does. -/
theorem push_fails_iff {s : Statement} (hs : s.Fresh) (n : Nesting) (f : Fault) :
    (n.push s).2 = .error f ↔ ∃ activity,
      stepBlocks s.keyword n.outline.placeLabels.blocks = .error activity ∧
        f = .stackUnderflow activity := by
  rw [(outline_push hs n).2]
  unfold Outline.push
  simp only
  cases stepBlocks s.keyword n.outline.placeLabels.blocks with
  | ok blocks => simp
  | error activity => simp [eq_comm]

/-- **Open blocks decide.** In every reachable state, what a fresh statement
does depends on the outline alone. The labels that are due open their blocks
first: by ascending offset these are all labels to come at the count. That order
is the condition under which labels are given to the machine, and only this part
needs it; the rest holds for labels in any order. Then the statement does what
the machine does with its keyword. A push fails exactly for an end of a
conditional or of a loop that finds no open block of its kind. After that no
statement is left, the count stands still, only the labels that were due are
used up, and whatever comes next is answered as the machine answers it without
open blocks. -/
theorem push_decided {labels : List Label} {n : Nesting} {s : Statement}
    (hn : Reachable labels n) (hs : s.Fresh) :
    (Sorted labels → n.outline.placeLabels =
      ⟨List.replicate (n.pending.filter (isDue n.count)).length .label ++ openBlocks n.stack,
        n.count, n.pending.filter (fun l => !isDue n.count l)⟩) ∧
    ((n.push s).1.outline = (n.outline.push s.keyword).1 ∧
      (n.push s).2 = (n.outline.push s.keyword).2) ∧
    (∀ f, (n.push s).2 = .error f ↔
      ((s.keyword = .conditionalEnd ∨ s.keyword = .branchEnd) ∧
        .conditional ∉ n.outline.placeLabels.blocks ∧ f = .stackUnderflow .conditionalClose) ∨
      (s.keyword = .loopEnd ∧ .loop ∉ n.outline.placeLabels.blocks ∧
        f = .stackUnderflow .loopClose)) ∧
    (Activity.conditionalClose.phrase = "closing a conditional block" ∧
      Activity.loopClose.phrase = "closing a loop block") ∧
    ∀ f, (n.push s).2 = .error f →
      (n.push s).1 = { ofLabels n.outline.placeLabels.pending with count := n.count } ∧
      ∀ rest : List Statement, (∀ x ∈ rest, x.Fresh) →
        ((n.push s).1.feed rest).1.outline =
          (Outline.feed (rest.map (·.keyword)) ⟨[], n.count, n.outline.placeLabels.pending⟩).1 ∧
        ((n.push s).1.feed rest).2 =
          (Outline.feed (rest.map (·.keyword)) ⟨[], n.count, n.outline.placeLabels.pending⟩).2 := by
  refine ⟨?_, outline_push hs n, ?_, ⟨rfl, rfl⟩, ?_⟩
  · intro hsorted
    obtain ⟨hpending, hahead⟩ := hn.ahead hsorted
    obtain ⟨htake, hdrop⟩ := span_isDue hpending hahead
    simp only [outline, Outline.placeLabels, htake, hdrop]
  · intro f
    rw [push_fails_iff hs]
    constructor
    · rintro ⟨activity, hstep, rfl⟩
      rcases stepBlocks_eq_error_iff.mp hstep with ⟨hk, habsent, rfl⟩ | ⟨hk, habsent, rfl⟩
      · exact .inl ⟨hk, habsent, rfl⟩
      · exact .inr ⟨hk, habsent, rfl⟩
    · rintro (⟨hk, habsent, rfl⟩ | ⟨hk, habsent, rfl⟩)
      · exact ⟨_, stepBlocks_eq_error_iff.mpr (.inl ⟨hk, habsent, rfl⟩), rfl⟩
      · exact ⟨_, stepBlocks_eq_error_iff.mpr (.inr ⟨hk, habsent, rfl⟩), rfl⟩
  · intro f hf
    have hleft := push_of_fault hf
    refine ⟨hleft, fun rest hrest => ?_⟩
    have hrun := outline_feed hrest (n.push s).1
    rw [hleft] at hrun ⊢
    exact hrun

/-- One conditional is open, and a label is still to come. -/
def oneConditional : Nesting := ((ofLabels brokenLabels).push (.ofKeyword .conditional)).1

/-- A loop end fails there. What follows is answered without the conditional:
its end fails as well, and a return goes into an empty frame. -/
theorem push_decided_oneConditional :
    Reachable brokenLabels oneConditional ∧ (Statement.ofKeyword .loopEnd).Fresh ∧
      Sorted brokenLabels ∧ oneConditional.outline.blocks = [.conditional, .label] ∧
      (oneConditional.push (.ofKeyword .loopEnd)).2 = .error (.stackUnderflow .loopClose) ∧
      ((oneConditional.push (.ofKeyword .loopEnd)).1.feed
          ([.conditionalEnd, .loop, .wordReturn, .labelReturn].map Statement.ofKeyword)).2 =
        [.error (.stackUnderflow .conditionalClose), .ok (), .ok (), .ok ()] := by
  have hreach : Reachable brokenLabels oneConditional :=
    .push .start (Statement.fresh_ofKeywords [.conditional] _ List.mem_cons_self)
  have hfresh : (Statement.ofKeyword .loopEnd).Fresh := ⟨rfl, rfl⟩
  have hsorted : Sorted brokenLabels := by
    unfold Sorted brokenLabels
    decide
  obtain ⟨_, _, hfails, _, hafter⟩ := push_decided hreach hfresh
  have hfault : (oneConditional.push (.ofKeyword .loopEnd)).2 =
      .error (.stackUnderflow .loopClose) := (hfails _).mpr (.inr ⟨rfl, by decide, rfl⟩)
  refine ⟨hreach, hfresh, hsorted, rfl, hfault, ?_⟩
  rw [((hafter _ hfault).2 _ (Statement.fresh_ofKeywords _)).2]
  rfl

end Nesting

end SceneScript
