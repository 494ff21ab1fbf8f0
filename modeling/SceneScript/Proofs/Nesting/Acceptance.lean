import SceneScript.Proofs.Nesting.OpenBlocks

/-
  Which scripts are nested without a fault. Conditionals and loops that open
  and close in pairs (`Balanced`) are not enough: a return takes everything
  above its label or word as a body, and a conditional or a loop still open
  there is gone when its own end comes (`early_return_underflows`). It is the
  only way to go wrong: a script with balanced conditionals and loops is nested
  without a fault exactly if no return closes over an open one
  (`nest_of_balanced_iff`).
-/

namespace SceneScript

/-- Whether a block is a branch of the control flow: a conditional or a loop. -/
def Block.isBranch : Block → Bool
  | .conditional | .loop => true
  | .label | .word => false

/-- Whether a keyword opens or closes a conditional or a loop. -/
def Keyword.isBranching : Keyword → Bool
  | .conditional | .alternative | .branchEnd | .conditionalEnd | .loop | .loopEnd => true
  | _ => false

namespace Nesting

mutual

/-- Conditionals and loops, properly nested, one after the other. -/
inductive Balanced : List Keyword → Prop where
  | nil : Balanced []
  | conditional {body alternatives rest : List Keyword} (hb : Balanced body)
      (ha : Alternatives alternatives) (hr : Balanced rest) :
      Balanced (.conditional :: (body ++ (alternatives ++ .conditionalEnd :: rest)))
  | loop {body rest : List Keyword} (hb : Balanced body) (hr : Balanced rest) :
      Balanced (.loop :: (body ++ .loopEnd :: rest))

/-- The alternatives of a conditional. -/
inductive Alternatives : List Keyword → Prop where
  | nil : Alternatives []
  | cons {body rest : List Keyword} (hb : Balanced body) (hr : Alternatives rest) :
      Alternatives (.branchEnd :: .alternative :: (body ++ rest))

end

/-- The conditionals and loops among some blocks. -/
def branches (blocks : List Block) : List Block := blocks.filter Block.isBranch

/-- Whenever a return is reached after some of `ks`, no conditional or loop
that was opened inside the block it closes is still open; none at all, if it
finds no block to close. -/
def KeepsBranches (ks : List Keyword) (blocks : List Block) : Prop :=
  ∀ before k after b now, ks = before ++ k :: after → Block.ofCloser? k = some b →
    b.isBranch = false → runBlocks before blocks = .ok now → branches (inside b now) = []

/-- No return of a script closes over an open conditional or loop. -/
def ReturnsInside (labels : List Label) (flat : List Statement) : Prop :=
  KeepsBranches ((withLabels labels 0 flat).map (·.keyword)) []

/-! ## Balanced scripts empty a stack of their own -/

/-- The conditionals and loops open after one more keyword, each closer taking
the innermost. -/
def matchStep (k : Keyword) (waiting : List Block) : Option (List Block) :=
  match Block.ofCloser? k with
  | none => some ((Block.ofOpener? k).toList ++ waiting)
  | some b =>
    match waiting with
    | [] => none
    | c :: rest => if c = b then some rest else none

/-- The conditionals and loops open after keywords. -/
def matchRun : List Keyword → List Block → Option (List Block)
  | [], waiting => some waiting
  | k :: rest, waiting => (matchStep k waiting).bind (matchRun rest)

theorem matchStep_of_stays {k : Keyword} (h : Block.ofCloser? k = none)
    (waiting : List Block) :
    matchStep k waiting = some ((Block.ofOpener? k).toList ++ waiting) := by
  simp [matchStep, h]

theorem matchStep_of_closes {k : Keyword} {b : Block} {waiting next : List Block}
    (h : Block.ofCloser? k = some b) (hm : matchStep k waiting = some next) :
    waiting = b :: next := by
  unfold matchStep at hm
  rw [h] at hm
  cases waiting with
  | nil => cases hm
  | cons c rest =>
    by_cases hcb : c = b
    · simp only [if_pos hcb] at hm
      rw [hcb, Option.some.inj hm]
    · simp only [if_neg hcb] at hm
      cases hm

theorem matchRun_append (first second : List Keyword) (waiting : List Block) :
    matchRun (first ++ second) waiting = (matchRun first waiting).bind (matchRun second) := by
  induction first generalizing waiting with
  | nil => rfl
  | cons k rest ih =>
    simp only [List.cons_append, matchRun]
    cases matchStep k waiting with
    | none => rfl
    | some next => exact ih next

mutual

theorem matchRun_of_balanced : ∀ {ks : List Keyword}, Balanced ks → ∀ waiting,
    matchRun ks waiting = some waiting
  | _, .nil, _ => rfl
  | _, .conditional hb ha hr, waiting => by
    have hbody := matchRun_of_balanced hb (.conditional :: waiting)
    have halternatives := matchRun_of_alternatives ha waiting
    have hrest := matchRun_of_balanced hr waiting
    simp [matchRun, matchRun_append, matchStep, Block.ofCloser?, Block.ofOpener?, hbody,
      halternatives, hrest]
  | _, .loop hb hr, waiting => by
    have hbody := matchRun_of_balanced hb (.loop :: waiting)
    have hrest := matchRun_of_balanced hr waiting
    simp [matchRun, matchRun_append, matchStep, Block.ofCloser?, Block.ofOpener?, hbody, hrest]

theorem matchRun_of_alternatives : ∀ {ks : List Keyword}, Alternatives ks → ∀ waiting,
    matchRun ks (.conditional :: waiting) = some (.conditional :: waiting)
  | _, .nil, _ => rfl
  | _, .cons hb hr, waiting => by
    have hbody := matchRun_of_balanced hb (.conditional :: waiting)
    have hrest := matchRun_of_alternatives hr waiting
    simp [matchRun, matchRun_append, matchStep, Block.ofCloser?, Block.ofOpener?, hbody, hrest]

end

/-! ## What one statement does to the open branches -/

theorem isBranch_of_isBranching {k : Keyword} {b : Block} (h : Block.ofCloser? k = some b) :
    b.isBranch = k.isBranching := by
  rcases Block.ofCloser?_eq_some h with
    ⟨rfl, rfl⟩ | ⟨rfl, rfl⟩ | ⟨rfl | rfl, rfl⟩ | ⟨rfl, rfl⟩ <;> rfl

theorem branches_opener {k : Keyword} (h : k.isBranching = false) :
    branches (Block.ofOpener? k).toList = [] := by
  cases k <;> first | rfl | cases h

theorem branches_opener_of_isBranching {k : Keyword} (h : k.isBranching = true) :
    branches (Block.ofOpener? k).toList = (Block.ofOpener? k).toList := by
  cases k <;> first | rfl | cases h

theorem missing?_eq_none {b : Block} (h : b.isBranch = false) : b.missing? = none := by
  cases b <;> first | rfl | cases h

theorem missing?_of_isBranch {b : Block} (h : b.isBranch = true) :
    ∃ activity, b.missing? = some activity := by
  cases b <;> first | exact ⟨_, rfl⟩ | cases h

theorem branches_append (first second : List Block) :
    branches (first ++ second) = branches first ++ branches second :=
  List.filter_append ..

theorem branches_parts (b : Block) (blocks : List Block) :
    branches (inside b blocks) ++ branches (fromBlock b blocks) = branches blocks := by
  rw [← branches_append, inside_append_fromBlock]

/-- As long as the open branches are those waiting, the closer that is waited
for finds its opener. -/
theorem stepBlocks_of_match {k : Keyword} {blocks waiting next : List Block}
    (hk : k.isBranching = true) (hb : branches blocks = waiting)
    (hm : matchStep k waiting = some next) :
    ∃ out, stepBlocks k blocks = .ok out ∧ branches out = next := by
  cases hc : Block.ofCloser? k with
  | none =>
    rw [matchStep_of_stays hc] at hm
    refine ⟨_, stepBlocks_of_stays hc blocks, ?_⟩
    rw [branches_append, branches_opener_of_isBranching hk, hb]
    exact Option.some.inj hm
  | some b =>
    have hbranch : b.isBranch = true := (isBranch_of_isBranching hc).trans hk
    have hw := matchStep_of_closes hc hm
    -- The closer passes over labels and words only: the first branch is the one waited for.
    rw [hw] at hb
    obtain ⟨before, around, hsplit, hnone, _, hrest⟩ := List.filter_eq_cons_iff.mp hb
    have hnot : b ∉ before := fun hmem => hnone b hmem hbranch
    rw [hsplit]
    exact ⟨around, stepBlocks_of_found hc (fromBlock_append hnot), hrest⟩

/-- A statement that is no part of a conditional or a loop leaves the open
branches alone, unless it is a return that closes over one. -/
theorem stepBlocks_of_other {k : Keyword} {blocks : List Block}
    (hk : k.isBranching = false)
    (hreturn : ∀ b, Block.ofCloser? k = some b → branches (inside b blocks) = []) :
    ∃ out, stepBlocks k blocks = .ok out ∧ branches out = branches blocks := by
  cases hc : Block.ofCloser? k with
  | none =>
    refine ⟨_, stepBlocks_of_stays hc blocks, ?_⟩
    rw [branches_append, branches_opener hk, List.nil_append]
  | some b =>
    have hbranch : b.isBranch = false := (isBranch_of_isBranching hc).trans hk
    have hparts := branches_parts b blocks
    rw [hreturn b hc, List.nil_append] at hparts
    cases hf : fromBlock b blocks with
    | nil =>
      rw [hf] at hparts
      exact ⟨[], stepBlocks_of_return hc hf (missing?_eq_none hbranch), hparts⟩
    | cons c around =>
      have hcb := head_fromBlock hf
      rw [hf] at hparts
      refine ⟨around, stepBlocks_of_found hc hf, ?_⟩
      rw [← hparts]
      simp [branches, hcb, hbranch]

/-- If more is waited for than is open, it stays so. -/
theorem length_branches_of_match {k : Keyword} {blocks out waiting next : List Block}
    {gap : Nat} (hk : k.isBranching = true) (hm : matchStep k waiting = some next)
    (hs : stepBlocks k blocks = .ok out)
    (hgap : (branches blocks).length + gap ≤ waiting.length) :
    (branches out).length + gap ≤ next.length := by
  cases hc : Block.ofCloser? k with
  | none =>
    rw [matchStep_of_stays hc] at hm
    rw [stepBlocks_of_stays hc] at hs
    rw [← Except.ok.inj hs, ← Option.some.inj hm, branches_append,
      branches_opener_of_isBranching hk, List.length_append, List.length_append]
    omega
  | some b =>
    have hbranch : b.isBranch = true := (isBranch_of_isBranching hc).trans hk
    rw [matchStep_of_closes hc hm, List.length_cons] at hgap
    cases hf : fromBlock b blocks with
    | nil =>
      obtain ⟨activity, hmissing⟩ := missing?_of_isBranch hbranch
      rw [stepBlocks_of_missing hc hf hmissing] at hs
      cases hs
    | cons c around =>
      rw [stepBlocks_of_found hc hf] at hs
      have hcb := head_fromBlock hf
      -- One branch less is waited for, and at least one less is open.
      have hparts := congrArg List.length (branches_parts b blocks)
      have hcons : branches (c :: around) = c :: branches around := by
        simp [branches, hcb, hbranch]
      rw [hf, hcons, List.length_append, List.length_cons, Except.ok.inj hs] at hparts
      omega

/-- A return that closes over open branches loses them. -/
theorem length_branches_of_other {k : Keyword} {blocks out : List Block}
    (hk : k.isBranching = false) (hs : stepBlocks k blocks = .ok out) :
    (branches out).length ≤ (branches blocks).length ∧
      ∀ b, Block.ofCloser? k = some b → branches (inside b blocks) ≠ [] →
        (branches out).length < (branches blocks).length := by
  cases hc : Block.ofCloser? k with
  | none =>
    rw [stepBlocks_of_stays hc] at hs
    rw [← Except.ok.inj hs, branches_append, branches_opener hk, List.nil_append]
    exact ⟨Nat.le_refl _, fun b hb => by cases hb⟩
  | some b =>
    have hparts := congrArg List.length (branches_parts b blocks)
    rw [List.length_append] at hparts
    have hrest : (branches out).length ≤ (branches (fromBlock b blocks)).length := by
      cases hf : fromBlock b blocks with
      | nil =>
        have hbranch : b.isBranch = false := (isBranch_of_isBranching hc).trans hk
        rw [stepBlocks_of_return hc hf (missing?_eq_none hbranch)] at hs
        simp [← Except.ok.inj hs, branches]
      | cons c around =>
        rw [stepBlocks_of_found hc hf] at hs
        rw [← Except.ok.inj hs]
        exact (List.Sublist.filter _ (List.sublist_cons_self c around)).length_le
    refine ⟨by omega, ?_⟩
    intro b' hb' hne
    cases hb'
    have hpos := List.length_pos_iff.mpr hne
    omega

/-! ## What a run does to the open branches -/

theorem keepsBranches_cons {k : Keyword} {rest : List Keyword} {blocks : List Block}
    (h : KeepsBranches (k :: rest) blocks) :
    (k.isBranching = false → ∀ b, Block.ofCloser? k = some b → branches (inside b blocks) = []) ∧
      ∀ next, stepBlocks k blocks = .ok next → KeepsBranches rest next := by
  refine ⟨?_, ?_⟩
  · intro hk b hb
    exact h [] k rest b blocks rfl hb ((isBranch_of_isBranching hb).trans hk) rfl
  · intro next hnext before k' after b now heq hb hbranch hrun
    refine h (k :: before) k' after b now (by rw [heq]; rfl) hb hbranch ?_
    rw [runBlocks, hnext]
    exact hrun

/-- Without a return that closes over a branch, the open branches are those
waiting, all the way. -/
theorem runBlocks_of_keepsBranches {ks : List Keyword} {blocks waiting final : List Block}
    (hb : branches blocks = waiting)
    (hm : matchRun (ks.filter Keyword.isBranching) waiting = some final)
    (hkeep : KeepsBranches ks blocks) :
    ∃ out, runBlocks ks blocks = .ok out ∧ branches out = final := by
  -- The invariant is `hb`: the branches that are open are those that are waited for.
  induction ks generalizing blocks waiting with
  | nil => exact ⟨blocks, rfl, hb.trans (Option.some.inj hm)⟩
  | cons k rest ih =>
    obtain ⟨hreturn, hnext⟩ := keepsBranches_cons hkeep
    cases hk : k.isBranching with
    | true =>
      rw [List.filter_cons_of_pos hk, matchRun] at hm
      obtain ⟨next, hstep, hrest⟩ := Option.bind_eq_some_iff.mp hm
      obtain ⟨out, hout, hbranches⟩ := stepBlocks_of_match hk hb hstep
      obtain ⟨last, hlast⟩ := ih hbranches hrest (hnext out hout)
      exact ⟨last, by rw [runBlocks, hout]; exact hlast.1, hlast.2⟩
    | false =>
      rw [List.filter_cons_of_neg (by simp [hk])] at hm
      obtain ⟨out, hout, hbranches⟩ := stepBlocks_of_other hk (hreturn hk)
      obtain ⟨last, hlast⟩ := ih (hbranches.trans hb) hm (hnext out hout)
      exact ⟨last, by rw [runBlocks, hout]; exact hlast.1, hlast.2⟩

theorem length_branches_of_run {ks : List Keyword} {blocks out waiting final : List Block}
    {gap : Nat} (hm : matchRun (ks.filter Keyword.isBranching) waiting = some final)
    (hr : runBlocks ks blocks = .ok out)
    (hgap : (branches blocks).length + gap ≤ waiting.length) :
    (branches out).length + gap ≤ final.length := by
  induction ks generalizing blocks waiting with
  | nil =>
    rw [← Except.ok.inj hr, ← Option.some.inj hm]
    exact hgap
  | cons k rest ih =>
    rw [runBlocks] at hr
    cases hs : stepBlocks k blocks with
    | error a => rw [hs] at hr; cases hr
    | ok next =>
      rw [hs] at hr
      cases hk : k.isBranching with
      | true =>
        rw [List.filter_cons_of_pos hk, matchRun] at hm
        obtain ⟨later, hstep, hrest⟩ := Option.bind_eq_some_iff.mp hm
        exact ih hrest hr (length_branches_of_match hk hstep hs hgap)
      | false =>
        rw [List.filter_cons_of_neg (by simp [hk])] at hm
        have hle := (length_branches_of_other hk hs).1
        exact ih hm hr (by omega)

/-- Once a return has closed over a branch, some later closer is at a loss. -/
theorem keepsBranches_of_run {ks : List Keyword} {out : List Block}
    (hm : matchRun (ks.filter Keyword.isBranching) [] = some [])
    (hr : runBlocks ks [] = .ok out) : KeepsBranches ks [] := by
  intro before k after b now heq hb hbranch hnow
  subst heq
  have hk : k.isBranching = false := (isBranch_of_isBranching hb).symm.trans hbranch
  rw [List.filter_append, List.filter_cons_of_neg (by simp [hk]), matchRun_append] at hm
  obtain ⟨waiting, hbefore, hafter⟩ := Option.bind_eq_some_iff.mp hm
  rw [runBlocks_append, hnow] at hr
  replace hr : (stepBlocks k now).bind (runBlocks after) = .ok out := hr
  cases hs : stepBlocks k now with
  | error a => rw [hs] at hr; cases hr
  | ok next =>
    rw [hs] at hr
    -- Up to the return no more is open than is waited for. The return makes it one less, and
    -- at the end nothing is waited for.
    have hwaiting : (branches now).length + 0 ≤ waiting.length :=
      length_branches_of_run hbefore hnow (by simp [branches])
    by_contra hne
    have hlost := (length_branches_of_other hk hs).2 b hb hne
    have hlast : (branches out).length + 1 ≤ 0 :=
      length_branches_of_run hafter hr (by omega)
    omega

/-- Labels are no part of a conditional or a loop. -/
theorem branching_withLabels (labels : List Label) (flat : List Statement) (i : Nat) :
    ((withLabels labels i flat).map (·.keyword)).filter Keyword.isBranching =
      (flat.map (·.keyword)).filter Keyword.isBranching := by
  have hlabels : ∀ j, ((labelsAt labels j).map (·.keyword)).filter Keyword.isBranching = [] := by
    intro j
    rw [List.filter_eq_nil_iff]
    intro k hk
    obtain ⟨s, hs, rfl⟩ := List.mem_map.mp hk
    obtain ⟨l, _, rfl⟩ := List.mem_map.mp hs
    simp [Keyword.isBranching]
  induction flat generalizing i with
  | nil => exact hlabels i
  | cons s rest ih =>
    rw [withLabels, List.map_append, List.filter_append, hlabels, List.nil_append,
      List.map_cons, List.map_cons, List.filter_cons, List.filter_cons, ih]

end Nesting

/-! ## Acceptance -/

/-- **What balanced scripts need.** A script whose conditionals and loops are
properly nested is nested without a fault exactly if no return closes over an
open one; otherwise some closer finds no opener. -/
theorem nest_of_balanced_iff {labels : List Label} {flat : List Statement}
    (hfresh : ∀ s ∈ flat, s.Fresh) (hsorted : Nesting.Sorted labels)
    (hbalanced : Nesting.Balanced ((flat.map (·.keyword)).filter Keyword.isBranching)) :
    ((∃ nested, (nest labels flat).outcome = .ok nested) ↔
      Nesting.ReturnsInside labels flat) ∧
    (¬ Nesting.ReturnsInside labels flat →
      ∃ activity, (nest labels flat).outcome = .error (.stackUnderflow activity)) := by
  have hmatch := Nesting.matchRun_of_balanced hbalanced []
  rw [← Nesting.branching_withLabels labels flat 0] at hmatch
  rcases Nesting.nest_follows_runBlocks hfresh hsorted with
    ⟨nested, blocks, hnest, hrun⟩ | ⟨activity, hnest, hrun⟩
  · have hkeeps : Nesting.ReturnsInside labels flat :=
      Nesting.keepsBranches_of_run hmatch hrun
    exact ⟨⟨fun _ => hkeeps, fun _ => ⟨nested, hnest⟩⟩, fun hnot => absurd hkeeps hnot⟩
  · have hloses : ¬ Nesting.ReturnsInside labels flat := by
      intro hkeeps
      obtain ⟨blocks, hblocks, _⟩ := Nesting.runBlocks_of_keepsBranches rfl hmatch hkeeps
      rw [hrun] at hblocks
      cases hblocks
    refine ⟨⟨?_, fun hkeeps => absurd hkeeps hloses⟩, fun _ => ⟨activity, hnest⟩⟩
    rintro ⟨nested, hok⟩
    rw [hnest] at hok
    cases hok

/-- Everything a balanced script may hold: a label with its return inside a
branch, a word with its return inside another, a label around it all. -/
def callScript : List Statement :=
  [.conditional, .assignment, .labelReturn, .branchEnd, .alternative, .word, .loop, .loopEnd,
    .wordReturn, .conditionalEnd, .labelReturn].map Statement.ofKeyword

def callLabels : List Label := [⟨"MAIN", 0, 0, 0⟩, ⟨"SUB", 1, 1, 0⟩]

theorem nest_of_balanced_iff_call :
    (∀ s ∈ callScript, s.Fresh) ∧ Nesting.Sorted callLabels ∧
      Nesting.Balanced ((callScript.map (·.keyword)).filter Keyword.isBranching) ∧
      Nesting.ReturnsInside callLabels callScript := by
  have hfresh : ∀ s ∈ callScript, s.Fresh := Statement.fresh_ofKeywords _
  have hsorted : Nesting.Sorted callLabels := by
    unfold Nesting.Sorted callLabels
    decide
  have hbalanced : Nesting.Balanced ((callScript.map (·.keyword)).filter Keyword.isBranching) :=
    .conditional .nil (.cons (.loop .nil .nil) .nil) .nil
  exact ⟨hfresh, hsorted, hbalanced,
    (nest_of_balanced_iff hfresh hsorted hbalanced).1.mp ⟨_, rfl⟩⟩

/-- A label whose block may return early. -/
def earlyReturnScript : List Statement :=
  [.conditional, .labelReturn, .conditionalEnd, .labelReturn].map Statement.ofKeyword

def earlyReturnLabels : List Label := [⟨"MAIN", 0, 0, 0⟩]

/-- The early return closes the label over the open conditional, whose end then
finds no opener. -/
theorem early_return_underflows :
    (∀ s ∈ earlyReturnScript, s.Fresh) ∧ Nesting.Sorted earlyReturnLabels ∧
      Nesting.Balanced ((earlyReturnScript.map (·.keyword)).filter Keyword.isBranching) ∧
      (nest earlyReturnLabels earlyReturnScript).outcome =
        .error (.stackUnderflow .conditionalClose) := by
  have hsorted : Nesting.Sorted earlyReturnLabels := by
    unfold Nesting.Sorted earlyReturnLabels
    decide
  exact ⟨Statement.fresh_ofKeywords _, hsorted, .conditional .nil .nil .nil, rfl⟩

end SceneScript
