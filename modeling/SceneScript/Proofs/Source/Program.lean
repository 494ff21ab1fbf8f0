import SceneScript.Proofs.Files.LabelFile
import SceneScript.Proofs.Nesting.Stream

/-
  Well-nested programs over any type of commands, of which only the keyword
  matters here. A program is written out as its tokens, the commands in order
  with the labels among them, and as the statements it should be listed as.
  Nesting the commands of a program with its labels gives its statements
  (`nest_program`), by two facts:

  1. the labels of a program, written out before the commands they point at,
     give its tokens again (`withLabels_tokens`);
  2. placing the tokens of a program on any stack puts its statements on it
     (`places_tokens`): what a block holds has no open block that the end of
     the block would take for its opener (`open?_statements`).
-/

namespace SceneScript

inductive Token (α : Type) where
  | label (name : String)
  | command (c : α)

namespace Token

variable {α : Type}

def commands : List (Token α) → List α
  | [] => []
  | .label _ :: rest => commands rest
  | .command c :: rest => c :: commands rest

/-- The labels among some tokens, each with the number of the command that
comes next, the first being number `i`. -/
def marks : Nat → List (Token α) → List (String × Nat)
  | _, [] => []
  | i, .label name :: rest => (name, i) :: marks i rest
  | i, .command _ :: rest => marks (i + 1) rest

/-- The statement of a token before any nesting. -/
def statement (render : α → Statement) : Token α → Statement
  | .label name => Statement.ofLabel name
  | .command c => render c

/-- A label stands at the count it is read at or later, and right after the last
command at the latest. -/
theorem bounds_of_mem_marks {tokens : List (Token α)} {i : Nat} :
    ∀ m ∈ marks i tokens, i ≤ m.2 ∧ m.2 ≤ i + (commands tokens).length := by
  induction tokens generalizing i with
  | nil =>
    intro m hm
    cases hm
  | cons t rest ih =>
    cases t with
    | label name =>
      intro m hm
      rcases List.mem_cons.mp hm with rfl | hm
      · exact ⟨Nat.le_refl i, Nat.le_add_right i _⟩
      · exact ih m hm
    | command c =>
      intro m hm
      obtain ⟨hlow, hhigh⟩ := ih m hm
      rw [commands, List.length_cons]
      exact ⟨Nat.le_of_succ_le hlow, by omega⟩

theorem sorted_marks (tokens : List (Token α)) (i : Nat) :
    (marks i tokens).Pairwise (fun a b => a.2 ≤ b.2) := by
  induction tokens generalizing i with
  | nil => exact List.Pairwise.nil
  | cons t rest ih =>
    cases t with
    | label name => exact List.pairwise_cons.mpr ⟨fun m hm => (bounds_of_mem_marks m hm).1, ih i⟩
    | command c => exact ih (i + 1)

end Token

namespace Nesting

variable {α : Type}

theorem withLabels_cons {l : Label} {i : Nat} (hl : l.offset.toNat = i) (labels : List Label)
    (flat : List Statement) :
    withLabels (l :: labels) i flat = Statement.ofLabel l.name :: withLabels labels i flat := by
  have hnow : labelsAt (l :: labels) i = Statement.ofLabel l.name :: labelsAt labels i := by
    rw [labelsAt, List.filter_cons_of_pos (isDue_iff.mpr hl)]
    rfl
  cases flat with
  | nil => exact hnow
  | cons s rest =>
    have hlater : withLabels (l :: labels) (i + 1) rest = withLabels labels (i + 1) rest := by
      refine withLabels_congr rest (fun j hj => congrArg (List.map _) ?_)
      refine List.filter_cons_of_neg ?_
      rw [isDue_iff]
      omega
    rw [withLabels, hnow, hlater]
    rfl

/-- Labels with the marks of some tokens, written out among their commands, are
these tokens. -/
theorem withLabels_tokens (render : α → Statement) {tokens : List (Token α)} {i : Nat}
    {labels : List Label} (h : labels.map Label.mark = Token.marks i tokens) :
    withLabels labels i ((Token.commands tokens).map render) =
      tokens.map (Token.statement render) := by
  induction tokens generalizing i labels with
  | nil =>
    rw [List.map_eq_nil_iff.mp h]
    rfl
  | cons t rest ih =>
    cases t with
    | label name =>
      obtain ⟨l, labels, rfl, hl, hrest⟩ := List.map_eq_cons_iff.mp h
      obtain ⟨rfl, hi⟩ := Prod.mk.inj hl
      show withLabels (l :: labels) i ((Token.commands rest).map render) = _
      rw [withLabels_cons hi, ih hrest]
      rfl
    | command c =>
      -- The marks of what follows are past `i`, so no label stands before this command.
      have hnone : labelsAt labels i = [] := by
        rw [labelsAt, List.filter_eq_nil_iff.mpr]
        · rfl
        · intro l hl hdue
          have hmem : l.mark ∈ Token.marks (i + 1) rest := by
            have hmap := List.mem_map_of_mem (f := Label.mark) hl
            rw [h] at hmap
            exact hmap
          have hle := (Token.bounds_of_mem_marks l.mark hmem).1
          have hi := isDue_iff.mp hdue
          simp only [Label.mark] at hle
          omega
      show labelsAt labels i ++ render c :: withLabels labels (i + 1) _ = _
      rw [hnone, ih h]
      rfl

end Nesting

/-! ## Programs -/

section

variable {α : Type} (keyword : α → Keyword)

mutual

/-- A well-nested program. `free` says whether a label without a return may
stand in it: not right inside the block of another label, whose return would
close it. -/
inductive Program : Bool → Type where
  | done {free : Bool} : Program free
  | plain {free : Bool} (c : α) (hopener : Block.ofOpener? (keyword c) = none)
      (hcloser : Block.ofCloser? (keyword c) = none) (rest : Program free) : Program free
  /-- A label without a return. -/
  | mark (name : String) (rest : Program true) : Program true
  | label {free : Bool} (name : String) (body : Program false) (last : α)
      (hlast : keyword last = .labelReturn) (rest : Program free) : Program free
  | word {free : Bool} (first : α) (hfirst : keyword first = .word) (body : Program true)
      (last : α) (hlast : keyword last = .wordReturn) (rest : Program free) : Program free
  | loop {free : Bool} (first : α) (hfirst : keyword first = .loop) (body : Program true)
      (last : α) (hlast : keyword last = .loopEnd) (rest : Program free) : Program free
  | branches {free : Bool} (first : α) (hfirst : keyword first = .conditional) (chain : Chain)
      (rest : Program free) : Program free

/-- The blocks of a conditional after its first command. -/
inductive Chain : Type where
  | last (body : Program true) (last : α) (hlast : keyword last = .conditionalEnd) : Chain
  | next (body : Program true) (blend : α) (hblend : keyword blend = .branchEnd) (first : α)
      (hfirst : keyword first = .alternative) (rest : Chain) : Chain

end

end

variable {α : Type} {keyword : α → Keyword}

mutual

/-- A program written out. -/
def Program.tokens {free : Bool} : Program keyword free → List (Token α)
  | .done => []
  | .plain c _ _ rest => .command c :: rest.tokens
  | .mark name rest => .label name :: rest.tokens
  | .label name body last _ rest =>
    .label name :: (body.tokens ++ .command last :: rest.tokens)
  | .word first _ body last _ rest | .loop first _ body last _ rest =>
    .command first :: (body.tokens ++ .command last :: rest.tokens)
  | .branches first _ chain rest => .command first :: (chain.tokens ++ rest.tokens)

/-- The blocks of a conditional written out. -/
def Chain.tokens : Chain keyword → List (Token α)
  | .last body last _ => body.tokens ++ [.command last]
  | .next body blend _ first _ rest =>
    body.tokens ++ .command blend :: .command first :: rest.tokens

end

mutual

/-- The statements a program is listed as: a block is the body of its opener,
last statement first in a loop. The return of a block ends its body, the ends
of a loop and of a conditional follow it, and the ends of the other branches
are not listed. -/
def Program.statements (render : α → Statement) {free : Bool} :
    Program keyword free → List Statement
  | .done => []
  | .plain c _ _ rest => render c :: rest.statements render
  | .mark name rest => Statement.ofLabel name :: rest.statements render
  | .label name body last _ rest =>
    (Statement.ofLabel name).close (body.statements render ++ [render last]) ::
      rest.statements render
  | .word first _ body last _ rest =>
    (render first).close (body.statements render ++ [render last]) :: rest.statements render
  | .loop first _ body last _ rest =>
    (render first).close (body.statements render).reverse :: render last ::
      rest.statements render
  | .branches first _ chain rest =>
    chain.statements render (render first) ++ rest.statements render

/-- The statements of a conditional, `opener` being that of the first block. -/
def Chain.statements (render : α → Statement) (opener : Statement) :
    Chain keyword → List Statement
  | .last body last _ => [opener.close (body.statements render), render last]
  | .next body _ _ first _ rest =>
    opener.close (body.statements render) :: rest.statements render (render first)

end

/-! ## Nesting a program -/

/-- Commands are shown as statements with their keyword and no body. -/
structure Renders (keyword : α → Keyword) (render : α → Statement) : Prop where
  fresh : ∀ c, (render c).Fresh
  keyword_eq : ∀ c, (render c).keyword = keyword c

namespace Renders

variable {render : α → Statement}

theorem open?_eq (h : Renders keyword render) (c : α) :
    (render c).open? = Block.ofOpener? (keyword c) := by
  rw [Statement.open?_of_fresh (h.fresh c), h.keyword_eq]

theorem opens (h : Renders keyword render) {c : α} {k : Keyword} {b : Block}
    (hk : keyword c = k) (hb : Block.ofOpener? k = some b) : (render c).open? = some b := by
  rw [h.open?_eq, hk, hb]

theorem stays (h : Renders keyword render) {c : α} {k : Keyword} (hk : keyword c = k)
    (hnone : Block.ofCloser? k = none) : Block.ofCloser? (render c).keyword = none := by
  rw [h.keyword_eq, hk, hnone]

theorem closes (h : Renders keyword render) {c : α} {k : Keyword} {b : Block}
    (hk : keyword c = k) (hb : Block.ofCloser? k = some b) :
    Block.ofCloser? (render c).keyword = some b := by
  rw [h.keyword_eq, hk, hb]

mutual

/-- The statements of a program hold no open block but labels, and no label
either where none may stand. -/
theorem open?_statements (h : Renders keyword render) : {free : Bool} →
    (p : Program keyword free) → ∀ s ∈ p.statements render,
      s.open? = none ∨ free = true ∧ s.open? = some .label
  | _, .done, s, hs => by
    rw [Program.statements] at hs
    cases hs
  | _, .plain c hopener _ rest, s, hs => by
    rw [Program.statements] at hs
    rcases List.mem_cons.mp hs with rfl | hs
    · exact .inl ((h.open?_eq c).trans hopener)
    · exact h.open?_statements rest s hs
  | _, .mark name rest, s, hs => by
    rw [Program.statements] at hs
    rcases List.mem_cons.mp hs with rfl | hs
    · exact .inr ⟨rfl, rfl⟩
    · exact h.open?_statements rest s hs
  | _, .label name body last _ rest, s, hs => by
    rw [Program.statements] at hs
    rcases List.mem_cons.mp hs with rfl | hs
    · exact .inl rfl
    · exact h.open?_statements rest s hs
  | _, .word first _ body last _ rest, s, hs => by
    rw [Program.statements] at hs
    rcases List.mem_cons.mp hs with rfl | hs
    · exact .inl rfl
    · exact h.open?_statements rest s hs
  | _, .loop first _ body last hlast rest, s, hs => by
    rw [Program.statements] at hs
    rcases List.mem_cons.mp hs with rfl | hs
    · exact .inl rfl
    · rcases List.mem_cons.mp hs with rfl | hs
      · exact .inl (by rw [h.open?_eq, hlast]; rfl)
      · exact h.open?_statements rest s hs
  | _, .branches first _ chain rest, s, hs => by
    rw [Program.statements] at hs
    rcases List.mem_append.mp hs with hs | hs
    · exact .inl (h.open?_chain chain (render first) s hs)
    · exact h.open?_statements rest s hs

theorem open?_chain (h : Renders keyword render) : (chain : Chain keyword) →
    (opener : Statement) → ∀ s ∈ chain.statements render opener, s.open? = none
  | .last body last hlast, opener, s, hs => by
    rw [Chain.statements] at hs
    rcases List.mem_cons.mp hs with rfl | hs
    · rfl
    · rw [List.mem_singleton.mp hs, h.open?_eq, hlast]
      rfl
  | .next body _ _ first _ rest, opener, s, hs => by
    rw [Chain.statements] at hs
    rcases List.mem_cons.mp hs with rfl | hs
    · rfl
    · exact h.open?_chain rest (render first) s hs

end

/-- The end of a block finds no opener in what the block holds. -/
theorem open?_ne (h : Renders keyword render) {free : Bool} (p : Program keyword free) {b : Block}
    (hb : free = true → b ≠ .label) : ∀ s ∈ p.statements render, s.open? ≠ some b := by
  intro s hs hopen
  rcases h.open?_statements p s hs with hnone | ⟨hfree, hlabel⟩
  · rw [hnone] at hopen
    cases hopen
  · rw [hlabel] at hopen
    exact hb hfree (Option.some.inj hopen).symm

end Renders

namespace Nesting

/-- Placing `stream` puts `statements` on any stack. -/
def Places (stream statements : List Statement) : Prop :=
  ∀ rest stack, placeAll (stream ++ rest) stack = placeAll rest (statements.reverse ++ stack)

namespace Places

theorem nil : Places [] [] := fun _ _ => rfl

theorem append {first second firsts seconds : List Statement} (hf : Places first firsts)
    (hs : Places second seconds) : Places (first ++ second) (firsts ++ seconds) := by
  intro rest stack
  rw [List.append_assoc, hf, hs, List.reverse_append, List.append_assoc]

theorem cons {s : Statement} {stream statements : List Statement}
    (h : Block.ofCloser? s.keyword = none) (hs : Places stream statements) :
    Places (s :: stream) (s :: statements) := by
  intro rest stack
  rw [List.cons_append, placeAll, place_of_stays h, List.reverse_cons, List.append_assoc]
  exact hs rest (s :: stack)

/-- A block: nothing in its body is open to its end, so the end finds the
opener. -/
theorem block (opener : Statement) {last : Statement} {b : Block}
    {stream body : List Statement} (hstays : Block.ofCloser? opener.keyword = none)
    (hopen : opener.open? = some b) (hbody : Places stream body)
    (hnone : ∀ x ∈ body, x.open? ≠ some b) (hlast : Block.ofCloser? last.keyword = some b) :
    Places (opener :: (stream ++ [last]))
      (opener.close (last.bodyFrom body.reverse) :: last.leftAbove) := by
  intro rest stack
  have hplace : place last (body.reverse ++ opener :: stack) =
      .ok (last.leftAbove ++ opener.close (last.bodyFrom body.reverse) :: stack) :=
    place_of_closes hlast hopen (fun x hx => hnone x (List.mem_reverse.mp hx))
  -- The opener waits below the statements of the body until the end comes.
  rw [List.cons_append, List.append_assoc, placeAll, place_of_stays hstays, List.reverse_cons,
    Statement.leftAbove_reverse, List.append_assoc]
  show placeAll (stream ++ ([last] ++ rest)) (opener :: stack) = _
  rw [hbody, List.singleton_append, placeAll, hplace]
  rfl

end Places

variable {render : α → Statement}

mutual

/-- Placing the tokens of a program puts its statements on the stack. -/
theorem places_tokens (h : Renders keyword render) : {free : Bool} →
    (p : Program keyword free) →
    Places (p.tokens.map (Token.statement render)) (p.statements render)
  | _, .done => by
    rw [Program.tokens, Program.statements]
    exact .nil
  | _, .plain c _ hcloser rest => by
    rw [Program.tokens, Program.statements]
    exact (places_tokens h rest).cons (h.stays rfl hcloser)
  | _, .mark name rest => by
    rw [Program.tokens, Program.statements]
    exact (places_tokens h rest).cons rfl
  | _, .label name body last hlast rest => by
    have hkey : (render last).keyword = .labelReturn := (h.keyword_eq last).trans hlast
    have hblock := Places.block (Statement.ofLabel name) rfl rfl (places_tokens h body)
      (h.open?_ne body (fun hfree => by cases hfree)) (h.closes hlast rfl)
    rw [Program.tokens, Program.statements]
    simpa [Token.statement, Statement.leftAbove, Statement.bodyFrom, hkey] using
      hblock.append (places_tokens h rest)
  | _, .word first hfirst body last hlast rest => by
    have hkey : (render last).keyword = .wordReturn := (h.keyword_eq last).trans hlast
    have hblock := Places.block (render first) (h.stays hfirst rfl) (h.opens hfirst rfl)
      (places_tokens h body) (h.open?_ne body (fun _ => by decide)) (h.closes hlast rfl)
    rw [Program.tokens, Program.statements]
    simpa [Token.statement, Statement.leftAbove, Statement.bodyFrom, hkey] using
      hblock.append (places_tokens h rest)
  | _, .loop first hfirst body last hlast rest => by
    have hkey : (render last).keyword = .loopEnd := (h.keyword_eq last).trans hlast
    have hblock := Places.block (render first) (h.stays hfirst rfl) (h.opens hfirst rfl)
      (places_tokens h body) (h.open?_ne body (fun _ => by decide)) (h.closes hlast rfl)
    rw [Program.tokens, Program.statements]
    simpa [Token.statement, Statement.leftAbove, Statement.bodyFrom, hkey] using
      hblock.append (places_tokens h rest)
  | _, .branches first hfirst chain rest => by
    have hchain := places_chain h chain (render first) (h.stays hfirst rfl) (h.opens hfirst rfl)
    rw [Program.tokens, Program.statements, List.map_cons, List.map_append]
    exact hchain.append (places_tokens h rest)

theorem places_chain (h : Renders keyword render) : (chain : Chain keyword) →
    (opener : Statement) → Block.ofCloser? opener.keyword = none →
    opener.open? = some .conditional →
    Places (opener :: chain.tokens.map (Token.statement render)) (chain.statements render opener)
  | .last body last hlast, opener, hstays, hopen => by
    have hkey : (render last).keyword = .conditionalEnd := (h.keyword_eq last).trans hlast
    have hblock := Places.block opener hstays hopen (places_tokens h body)
      (h.open?_ne body (fun _ => by decide)) (h.closes hlast rfl)
    rw [Chain.tokens, Chain.statements]
    simpa [Token.statement, Statement.leftAbove, Statement.bodyFrom, hkey] using hblock
  | .next body blend hblend first hfirst chain, opener, hstays, hopen => by
    have hkey : (render blend).keyword = .branchEnd := (h.keyword_eq blend).trans hblend
    have hblock := Places.block opener hstays hopen (places_tokens h body)
      (h.open?_ne body (fun _ => by decide)) (h.closes hblend rfl)
    -- The alternative opens a block of its own: the rest of the chain starts there.
    have hchain := places_chain h chain (render first) (h.stays hfirst rfl) (h.opens hfirst rfl)
    rw [Chain.tokens, Chain.statements]
    simpa [Token.statement, Statement.leftAbove, Statement.bodyFrom, hkey] using
      hblock.append hchain

end

end Nesting

/-- The commands of a program, in order. -/
def Program.commands {free : Bool} (p : Program keyword free) : List α := Token.commands p.tokens

/-- The labels of a program, each with the number of the command after it. -/
def Program.marks {free : Bool} (p : Program keyword free) : List (String × Nat) :=
  Token.marks 0 p.tokens

/-- Labels that stand at the marks of a program are by ascending offset. -/
theorem Program.sorted_of_marks {free : Bool} {p : Program keyword free} {labels : List Label}
    (h : labels.map Label.mark = p.marks) : Nesting.Sorted labels := by
  have hmarks := Token.sorted_marks p.tokens 0
  rw [← Program.marks, ← h] at hmarks
  exact (List.pairwise_map.mp hmarks).imp (fun hle => UInt32.le_iff_toNat_le.mpr hle)

/-- **Nesting undoes flattening.** The commands of a program, nested with its
labels, are its statements. -/
theorem nest_program {render : α → Statement} (h : Renders keyword render) {free : Bool}
    (p : Program keyword free) {labels : List Label} (hlabels : labels.map Label.mark = p.marks) :
    (nest labels (p.commands.map render)).outcome = .ok (p.statements render) := by
  have hplace := Nesting.places_tokens h p [] []
  rw [List.append_nil, List.append_nil] at hplace
  calc (nest labels (p.commands.map render)).outcome
      = (Nesting.placeAll (Nesting.withLabels labels 0 (p.commands.map render)) []).map
          List.reverse := nest_outcome _ (Program.sorted_of_marks hlabels)
    _ = (Nesting.placeAll (p.tokens.map (Token.statement render)) []).map List.reverse := by
          rw [Program.commands, Nesting.withLabels_tokens render hlabels]
    _ = .ok (p.statements render).reverse.reverse := by
          rw [hplace]
          rfl
    _ = .ok (p.statements render) := by rw [List.reverse_reverse]

end SceneScript
