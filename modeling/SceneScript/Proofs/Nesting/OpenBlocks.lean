import Mathlib.Data.List.TakeWhile
import SceneScript.Proofs.Nesting.Stream

/-
  Which blocks are open. Nesting handles whole trees, but what it does next
  depends on nothing but the kinds of the blocks that are still open and
  their order. `stepBlocks` is the machine on those kinds alone, innermost
  block first; `openBlocks_place` and `openBlocks_placeAll` say that the kinds
  of the real stack follow it, and that both fail at the same statement for
  the same reason.
-/

namespace SceneScript

namespace Nesting

/-- The kinds of the open blocks of a stack, innermost first. -/
def openBlocks (stack : List Statement) : List Block :=
  stack.filterMap Statement.open?

/-- The blocks opened inside the innermost block of kind `b`; all blocks if
none of that kind is open. -/
def inside (b : Block) (blocks : List Block) : List Block :=
  blocks.takeWhile (· ≠ b)

/-- The innermost block of kind `b` and the blocks around it. -/
def fromBlock (b : Block) (blocks : List Block) : List Block :=
  blocks.dropWhile (· ≠ b)

/-- The open blocks after a statement with keyword `k`. -/
def stepBlocks (k : Keyword) (blocks : List Block) : Except Activity (List Block) :=
  match Block.ofCloser? k with
  | none => .ok ((Block.ofOpener? k).toList ++ blocks)
  | some b =>
    match fromBlock b blocks, b.missing? with
    | _ :: around, _ => .ok around
    | [], none => .ok []
    | [], some activity => .error activity

/-- The open blocks after statements with keywords `ks`. -/
def runBlocks : List Keyword → List Block → Except Activity (List Block)
  | [], blocks => .ok blocks
  | k :: rest, blocks => (stepBlocks k blocks).bind (runBlocks rest)

theorem runBlocks_append (first second : List Keyword) (blocks : List Block) :
    runBlocks (first ++ second) blocks = (runBlocks first blocks).bind (runBlocks second) := by
  induction first generalizing blocks with
  | nil => rfl
  | cons k rest ih =>
    simp only [List.cons_append, runBlocks]
    cases stepBlocks k blocks with
    | error a => rfl
    | ok next => exact ih next

theorem inside_append_fromBlock (b : Block) (blocks : List Block) :
    inside b blocks ++ fromBlock b blocks = blocks :=
  List.takeWhile_append_dropWhile

/-- What `fromBlock` finds is a block of the kind looked for. -/
theorem head_fromBlock {b c : Block} {blocks around : List Block}
    (h : fromBlock b blocks = c :: around) : c = b := by
  have hhead := List.head?_dropWhile_not (· ≠ b) blocks
  unfold fromBlock at h
  rw [h] at hhead
  simpa using hhead

theorem fromBlock_eq_nil {b : Block} {blocks : List Block} :
    fromBlock b blocks = [] ↔ b ∉ blocks := by
  unfold fromBlock
  rw [List.dropWhile_eq_nil_iff]
  constructor
  · intro h hb
    simpa using h b hb
  · intro h x hx
    have hne : x ≠ b := fun heq => h (heq ▸ hx)
    simpa using hne

theorem fromBlock_append {b : Block} {blocks around : List Block} (h : b ∉ blocks) :
    fromBlock b (blocks ++ b :: around) = b :: around := by
  unfold fromBlock
  rw [List.dropWhile_append_of_pos]
  · simp
  · intro x hx
    have hne : x ≠ b := fun heq => h (heq ▸ hx)
    simpa using hne

theorem stepBlocks_of_stays {k : Keyword} (h : Block.ofCloser? k = none)
    (blocks : List Block) :
    stepBlocks k blocks = .ok ((Block.ofOpener? k).toList ++ blocks) := by
  simp [stepBlocks, h]

theorem stepBlocks_of_found {k : Keyword} {b c : Block} {blocks around : List Block}
    (h : Block.ofCloser? k = some b) (hf : fromBlock b blocks = c :: around) :
    stepBlocks k blocks = .ok around := by
  simp [stepBlocks, h, hf]

theorem stepBlocks_of_return {k : Keyword} {b : Block} {blocks : List Block}
    (h : Block.ofCloser? k = some b) (hf : fromBlock b blocks = [])
    (hb : b.missing? = none) : stepBlocks k blocks = .ok [] := by
  simp [stepBlocks, h, hf, hb]

theorem stepBlocks_of_missing {k : Keyword} {b : Block} {activity : Activity}
    {blocks : List Block} (h : Block.ofCloser? k = some b) (hf : fromBlock b blocks = [])
    (hb : b.missing? = some activity) : stepBlocks k blocks = .error activity := by
  simp [stepBlocks, h, hf, hb]

/-! ## The stack follows the machine -/

theorem mem_openBlocks {b : Block} {stack : List Statement} :
    b ∈ openBlocks stack ↔ ∃ s ∈ stack, s.open? = some b :=
  List.mem_filterMap

theorem openBlocks_eq_nil_of_leftAbove {s : Statement} (hs : s.Fresh) {b : Block}
    (h : Block.ofCloser? s.keyword = some b) : openBlocks s.leftAbove = [] := by
  have hopen := Statement.open?_of_fresh hs
  unfold openBlocks Statement.leftAbove
  rcases Block.ofCloser?_eq_some h with
    ⟨hk, rfl⟩ | ⟨hk, rfl⟩ | ⟨hk | hk, rfl⟩ | ⟨hk, rfl⟩ <;>
    simp [hk, hopen, Block.ofOpener?]

/-- One statement takes the open blocks where the machine does. -/
theorem openBlocks_place {s : Statement} (hs : s.Fresh) (stack : List Statement) :
    (place s stack).map openBlocks =
      (stepBlocks s.keyword (openBlocks stack)).mapError .stackUnderflow := by
  cases h : Block.ofCloser? s.keyword with
  | none =>
    have hopen := Statement.open?_of_fresh hs
    rw [place_of_stays h, stepBlocks_of_stays h]
    cases ho : Block.ofOpener? s.keyword <;>
      simp [ho, openBlocks, hopen, Except.map, Except.mapError]
  | some b =>
    rcases topmost_or_none b stack with ⟨above, frame, below, rfl, hf, ha⟩ | hnone
    · -- Nothing above the opener is open to the closer, so the machine finds the same block.
      have habove : b ∉ openBlocks above := by
        rintro hmem
        obtain ⟨x, hx, hxb⟩ := mem_openBlocks.mp hmem
        exact ha x hx hxb
      have hstack : openBlocks (above ++ frame :: below) =
          openBlocks above ++ b :: openBlocks below := by
        simp [openBlocks, hf]
      have hout : openBlocks (s.leftAbove ++ frame.close (s.bodyFrom above) :: below) =
          openBlocks below := by
        have hleft := openBlocks_eq_nil_of_leftAbove hs h
        unfold openBlocks at hleft ⊢
        rw [List.filterMap_append, hleft, List.nil_append,
          List.filterMap_cons_none (Statement.open?_close frame _)]
      rw [place_of_closes h hf ha, hstack, stepBlocks_of_found h (fromBlock_append habove)]
      simp only [Except.map, Except.mapError, hout]
    · have hfrom : fromBlock b (openBlocks stack) = [] := by
        rw [fromBlock_eq_nil]
        intro hmem
        obtain ⟨x, hx, hxb⟩ := mem_openBlocks.mp hmem
        exact hnone x hx hxb
      rw [place_of_no_opener h hnone, withoutOpener]
      cases hb : b.missing? with
      | none =>
        rw [stepBlocks_of_return h hfrom hb]
        simp [Except.map, Except.mapError, openBlocks]
      | some activity =>
        rw [stepBlocks_of_missing h hfrom hb]
        rfl

/-- A run takes the open blocks where the machine does. -/
theorem openBlocks_placeAll {stream : List Statement} (hs : ∀ s ∈ stream, s.Fresh)
    (stack : List Statement) :
    (placeAll stream stack).map openBlocks =
      (runBlocks (stream.map (·.keyword)) (openBlocks stack)).mapError .stackUnderflow := by
  induction stream generalizing stack with
  | nil => rfl
  | cons s rest ih =>
    have hstep := openBlocks_place (hs s List.mem_cons_self) stack
    simp only [placeAll, List.map_cons, runBlocks]
    cases hp : place s stack with
    | error f =>
      cases hb : stepBlocks s.keyword (openBlocks stack) with
      | error a =>
        rw [hp, hb] at hstep
        exact hstep
      | ok blocks => rw [hp, hb] at hstep; cases hstep
    | ok next =>
      cases hb : stepBlocks s.keyword (openBlocks stack) with
      | error a => rw [hp, hb] at hstep; cases hstep
      | ok blocks =>
        rw [hp, hb] at hstep
        have hblocks : openBlocks next = blocks := by
          simpa [Except.map, Except.mapError] using hstep
        rw [← hblocks]
        exact ih (fun x hx => hs x (List.mem_cons_of_mem s hx)) next

/-- A script is nested if the machine gets through its keywords, and fails for
the machine's reason if not. -/
theorem nest_follows_runBlocks {labels : List Label} {flat : List Statement}
    (hfresh : ∀ s ∈ flat, s.Fresh) (hsorted : Sorted labels) :
    (∃ nested blocks, (nest labels flat).outcome = .ok nested ∧
      runBlocks ((withLabels labels 0 flat).map (·.keyword)) [] = .ok blocks) ∨
    ∃ activity, (nest labels flat).outcome = .error (.stackUnderflow activity) ∧
      runBlocks ((withLabels labels 0 flat).map (·.keyword)) [] = .error activity := by
  have hrun : (placeAll (withLabels labels 0 flat) []).map openBlocks =
      (runBlocks ((withLabels labels 0 flat).map (·.keyword)) []).mapError .stackUnderflow :=
    openBlocks_placeAll (fresh_withLabels 0 hfresh) []
  rw [nest_outcome flat hsorted]
  cases hp : placeAll (withLabels labels 0 flat) [] with
  | ok stack =>
    cases hb : runBlocks ((withLabels labels 0 flat).map (·.keyword)) [] with
    | ok blocks => exact .inl ⟨_, blocks, rfl, rfl⟩
    | error activity => rw [hp, hb] at hrun; cases hrun
  | error f =>
    cases hb : runBlocks ((withLabels labels 0 flat).map (·.keyword)) [] with
    | ok blocks => rw [hp, hb] at hrun; cases hrun
    | error activity =>
      rw [hp, hb] at hrun
      cases hrun
      exact .inr ⟨activity, rfl, rfl⟩

end Nesting

end SceneScript
