import SceneScript.Proofs.Text.Split
import SceneScript.Statement.Listing

/-
  A listing can be read in one way only. What it shows of a statement is its
  `Skeleton`: the text of its line and the skeletons of its body. The listing
  is the lines of the skeletons (`listing_eq`, `scriptListing_eq`), and
  skeletons are found again in their lines. Two facts carry this:

  - a brace is the line of no statement (`headText_ne_opening`), so the line
    after a statement tells whether it has a body;
  - what ends a body stands two columns before it (`Stops`), so no line of the
    body is taken for its end, and no end for a line of the body.

  Whatever else the texts hold, braces and blanks in front included, is
  nothing but text (`scriptListing_unambiguous`).
-/

namespace SceneScript

/-- What a listing shows of a statement. -/
structure Skeleton where
  /-- The text of its line. -/
  head : String
  body : List Skeleton

namespace Statement

mutual

def skeleton (s : Statement) : Skeleton :=
  match s with
  | ⟨keyword, names, values, children, closed⟩ =>
    ⟨headText ⟨keyword, names, values, [], closed⟩, skeletons children⟩

def skeletons (statements : List Statement) : List Skeleton :=
  match statements with
  | [] => []
  | s :: rest => skeleton s :: skeletons rest

end

end Statement

namespace Skeleton

mutual

/-- The texts of all statements, at every depth. -/
def heads : Skeleton → List String
  | ⟨head, body⟩ => head :: allHeads body

def allHeads : List Skeleton → List String
  | [] => []
  | s :: rest => s.heads ++ allHeads rest

end

def opening (n : Nat) : String := Statement.blanks n ++ "\x7b"

def closing (n : Nat) : String := Statement.blanks n ++ "\x7d"

/-- The lines of a body between braces at column `n`; none if there is no body. -/
def braced (n : Nat) : List String → List String
  | [] => []
  | line :: rest => opening n :: line :: (rest ++ [closing n])

mutual

/-- The lines of a statement that stands at column `n`. -/
def lines (n : Nat) : Skeleton → List String
  | ⟨head, body⟩ => (Statement.blanks n ++ head) :: braced n (allLines (n + 2) body)

/-- The lines of statements at column `n`. -/
def allLines (n : Nat) : List Skeleton → List String
  | [] => []
  | s :: rest => s.lines n ++ allLines n rest

end

/-- The lines of a script. -/
def scriptLines : List Skeleton → List String
  | [] => []
  | s :: rest => s.lines 0 ++ "" :: scriptLines rest

/-! ## Lines are read in one way -/

/-- No statement is taken for the brace of another one. -/
def Braceless (heads : List String) : Prop := "\x7b" ∉ heads

theorem Braceless.of_append {a b : List String} (h : Braceless (a ++ b)) :
    Braceless a ∧ Braceless b := by
  simpa [Braceless] using h

theorem Braceless.of_cons {head : String} {rest : List String} (h : Braceless (head :: rest)) :
    Braceless rest :=
  fun hmem => h (List.mem_cons_of_mem head hmem)

/-- The statements at column `n` end here: the next line, if there is one, does
not begin so far right. -/
def Stops (n : Nat) (tail : List String) : Prop :=
  ∀ text, tail.head? ≠ some (Statement.blanks n ++ text)

theorem blanks_add (n k : Nat) :
    Statement.blanks (n + k) = Statement.blanks n ++ Statement.blanks k := by
  rw [Statement.blanks, List.replicate_add, String.ofList_append, Statement.blanks,
    Statement.blanks]

/-- The end of a body stands before the body. -/
theorem stops_closing (n : Nat) (rest : List String) : Stops (n + 2) (closing n :: rest) := by
  intro text h
  have heq : Statement.blanks n ++ "\x7d" =
      Statement.blanks n ++ (Statement.blanks 2 ++ text) := by
    rw [← String.append_assoc, ← blanks_add]
    exact Option.some.inj h
  have hbrace := congrArg String.toList ((String.append_right_inj _).mp heq)
  simp [Statement.blanks] at hbrace

theorem head_mem_heads (s : Skeleton) : s.head ∈ s.heads := by
  obtain ⟨head, body⟩ := s
  rw [heads]
  exact List.mem_cons_self

theorem allLines_cons (n : Nat) (s : Skeleton) (rest : List Skeleton) :
    allLines n (s :: rest) = (Statement.blanks n ++ s.head) ::
      (braced n (allLines (n + 2) s.body) ++ allLines n rest) := by
  obtain ⟨head, body⟩ := s
  rw [allLines, lines, List.cons_append]

/-- Statements show where they begin. -/
theorem not_stops_allLines (n : Nat) (s : Skeleton) (rest : List Skeleton) (tail : List String) :
    ¬ Stops n (allLines n (s :: rest) ++ tail) := by
  intro h
  apply h s.head
  rw [allLines_cons, List.cons_append, List.head?_cons]

/-- After a statement comes the next one, or its end, but no brace that opens. -/
theorem head?_allLines_append {n : Nat} {rest : List Skeleton} {tail : List String}
    (h : Braceless (allHeads rest)) (hstop : Stops n tail) :
    (allLines n rest ++ tail).head? ≠ some (opening n) := by
  cases rest with
  | nil => exact hstop _
  | cons s more =>
    intro heq
    rw [allLines_cons, List.cons_append, List.head?_cons] at heq
    have hhead : s.head = "\x7b" := (String.append_right_inj _).mp (Option.some.inj heq)
    exact h.of_append.1 (hhead ▸ s.head_mem_heads)

/-- A body is told from what follows it, if its statements are. -/
theorem braced_inj {n : Nat} {body body' : List Skeleton} {a b : List String}
    (hinj : ∀ {c d : List String}, allLines (n + 2) body ++ c = allLines (n + 2) body' ++ d →
      Stops (n + 2) c → Stops (n + 2) d → body = body' ∧ c = d)
    (heq : braced n (allLines (n + 2) body) ++ a = braced n (allLines (n + 2) body') ++ b)
    (ha : body = [] → a.head? ≠ some (opening n))
    (hb : body' = [] → b.head? ≠ some (opening n)) : body = body' ∧ a = b := by
  cases body with
  | nil =>
    cases body' with
    | nil => exact ⟨rfl, heq⟩
    | cons t more =>
      apply absurd _ (ha rfl)
      rw [allLines, braced, List.nil_append, allLines_cons, braced] at heq
      rw [heq, List.cons_append, List.head?_cons]
  | cons s rest =>
    cases body' with
    | nil =>
      apply absurd _ (hb rfl)
      rw [allLines, braced, List.nil_append, allLines_cons, braced] at heq
      rw [← heq, List.cons_append, List.head?_cons]
    | cons t more =>
      have hlines : allLines (n + 2) (s :: rest) ++ closing n :: a =
          allLines (n + 2) (t :: more) ++ closing n :: b := by
        simpa [allLines_cons, braced] using heq
      obtain ⟨hbody, hrest⟩ := hinj hlines (stops_closing n a) (stops_closing n b)
      exact ⟨hbody, (List.cons.inj hrest).2⟩

mutual

/-- A statement is told from what follows it, which may begin with an opening
brace only if the statement has a body. -/
theorem lines_inj {n : Nat} : (s t : Skeleton) → {a b : List String} →
    Braceless s.heads → Braceless t.heads → s.lines n ++ a = t.lines n ++ b →
    (s.body = [] → a.head? ≠ some (opening n)) → (t.body = [] → b.head? ≠ some (opening n)) →
    s = t ∧ a = b
  | ⟨head, body⟩, ⟨head', body'⟩, a, b, hs, ht, heq, ha, hb => by
    rw [heads] at hs ht
    rw [lines, lines, List.cons_append, List.cons_append] at heq
    obtain ⟨hline, hlines⟩ := List.cons.inj heq
    obtain rfl := (String.append_right_inj _).mp hline
    obtain ⟨rfl, hrest⟩ := braced_inj (allLines_inj body body' hs.of_cons ht.of_cons) hlines ha hb
    exact ⟨rfl, hrest⟩

theorem allLines_inj {n : Nat} : (xs ys : List Skeleton) → Braceless (allHeads xs) →
    Braceless (allHeads ys) → ∀ {a b : List String}, allLines n xs ++ a = allLines n ys ++ b →
    Stops n a → Stops n b → xs = ys ∧ a = b
  | [], [], _, _, a, b, heq, _, _ => ⟨rfl, heq⟩
  | [], y :: ys, _, _, a, b, heq, ha, _ => by
    rw [allLines, List.nil_append] at heq
    exact absurd (heq ▸ ha) (not_stops_allLines n y ys b)
  | x :: xs, [], _, _, a, b, heq, _, hb => by
    rw [allLines, List.nil_append] at heq
    exact absurd (heq ▸ hb) (not_stops_allLines n x xs a)
  | x :: xs, y :: ys, hx, hy, a, b, heq, ha, hb => by
    rw [allHeads] at hx hy
    rw [allLines, allLines, List.append_assoc, List.append_assoc] at heq
    obtain ⟨rfl, hrest⟩ := lines_inj x y hx.of_append.1 hy.of_append.1 heq
      (fun _ => head?_allLines_append hx.of_append.2 ha)
      (fun _ => head?_allLines_append hy.of_append.2 hb)
    obtain ⟨rfl, htail⟩ := allLines_inj xs ys hx.of_append.2 hy.of_append.2 hrest ha hb
    exact ⟨rfl, htail⟩

end

theorem scriptLines_inj (xs ys : List Skeleton) (hx : Braceless (allHeads xs))
    (hy : Braceless (allHeads ys)) (heq : scriptLines xs = scriptLines ys) : xs = ys := by
  induction xs generalizing ys with
  | nil =>
    cases ys with
    | nil => rfl
    | cons y rest => simp [scriptLines] at heq
  | cons x more ih =>
    cases ys with
    | nil => simp [scriptLines] at heq
    | cons y rest =>
      -- The blank line after a statement of the top level is no brace.
      have hblank : ∀ tail : List String, ("" :: tail).head? ≠ some (opening 0) := by
        intro tail
        simp [opening, Statement.blanks]
      obtain ⟨rfl, hrest⟩ := lines_inj x y hx.of_append.1 hy.of_append.1 heq
        (fun _ => hblank _) (fun _ => hblank _)
      rw [ih rest hx.of_append.2 hy.of_append.2 (List.cons.inj hrest).2]

/-! ## No line is two lines -/

theorem notMem_append {s t : String} (hs : '\n' ∉ s.toList) (ht : '\n' ∉ t.toList) :
    '\n' ∉ (s ++ t).toList := by
  rw [String.toList_append, List.mem_append, not_or]
  exact ⟨hs, ht⟩

theorem notMem_blanks (n : Nat) : '\n' ∉ (Statement.blanks n).toList := by
  simp [Statement.blanks]

theorem notMem_braced {n : Nat} {inner : List String} (h : ∀ l ∈ inner, '\n' ∉ l.toList) :
    ∀ l ∈ braced n inner, '\n' ∉ l.toList := by
  have hopening : '\n' ∉ (opening n).toList := notMem_append (notMem_blanks n) (by decide)
  have hclosing : '\n' ∉ (closing n).toList := notMem_append (notMem_blanks n) (by decide)
  intro l hl
  cases inner with
  | nil => simp [braced] at hl
  | cons line rest =>
    have hmem : l = opening n ∨ l ∈ line :: rest ∨ l = closing n := by
      simpa [braced, or_assoc] using hl
    obtain rfl | hinner | rfl := hmem
    · exact hopening
    · exact h l hinner
    · exact hclosing

mutual

theorem notMem_lines (n : Nat) : (s : Skeleton) → (∀ t ∈ s.heads, '\n' ∉ t.toList) →
    ∀ l ∈ s.lines n, '\n' ∉ l.toList
  | ⟨head, body⟩, h, l, hl => by
    rw [heads] at h
    rw [lines] at hl
    have hbody := notMem_allLines (n + 2) body (fun t ht => h t (List.mem_cons_of_mem head ht))
    cases hl with
    | head => exact notMem_append (notMem_blanks n) (h head List.mem_cons_self)
    | tail _ hl => exact notMem_braced hbody l hl

theorem notMem_allLines (n : Nat) : (xs : List Skeleton) →
    (∀ t ∈ allHeads xs, '\n' ∉ t.toList) → ∀ l ∈ allLines n xs, '\n' ∉ l.toList
  | [], _, l, hl => by simp [allLines] at hl
  | s :: rest, h, l, hl => by
    rw [allHeads] at h
    rw [allLines] at hl
    cases List.mem_append.mp hl with
    | inl hl => exact notMem_lines n s (fun t ht => h t (List.mem_append_left _ ht)) l hl
    | inr hl => exact notMem_allLines n rest (fun t ht => h t (List.mem_append_right _ ht)) l hl

end

theorem notMem_scriptLines (xs : List Skeleton) (h : ∀ t ∈ allHeads xs, '\n' ∉ t.toList) :
    ∀ l ∈ scriptLines xs, '\n' ∉ l.toList := by
  induction xs with
  | nil => simp [scriptLines]
  | cons s rest ih =>
    rw [allHeads] at h
    intro l hl
    rw [scriptLines, List.mem_append, List.mem_cons] at hl
    obtain hl | rfl | hl := hl
    · exact notMem_lines 0 s (fun t ht => h t (List.mem_append_left _ ht)) l hl
    · decide
    · exact ih (fun t ht => h t (List.mem_append_right _ ht)) l hl

end Skeleton

/-! ## The listing as lines -/

namespace Statement

open Skeleton

theorem skeleton_eq (s : Statement) : s.skeleton = ⟨s.headText, skeletons s.children⟩ := by
  obtain ⟨keyword, names, values, children, closed⟩ := s
  rw [skeleton]
  rfl

theorem skeletons_eq_map (statements : List Statement) :
    skeletons statements = statements.map skeleton := by
  induction statements with
  | nil => rfl
  | cons s rest ih => rw [skeletons, ih, List.map_cons]

/-- Every statement is written with a character that is no brace. -/
theorem headText_ne_opening (s : Statement) : s.headText ≠ "\x7b" := by
  have hmark : ' ' ∈ s.headText.toList ∨ '#' ∈ s.headText.toList ∨ '[' ∈ s.headText.toList := by
    obtain ⟨keyword, names, values, children, closed⟩ := s
    cases keyword with
    | loop =>
      rw [headText]
      simp only
      split
      · split <;> simp
      · simp
    | _ => simp [headText]
  intro h
  rw [h] at hmark
  simp at hmark

mutual

theorem braceless_heads : (s : Statement) → Braceless s.skeleton.heads
  | ⟨keyword, names, values, children, closed⟩ => by
    rw [skeleton, heads, Braceless, List.mem_cons, not_or]
    exact ⟨(headText_ne_opening _).symm, braceless_allHeads children⟩

theorem braceless_allHeads : (statements : List Statement) →
    Braceless (allHeads (skeletons statements))
  | [] => by simp [skeletons, allHeads, Braceless]
  | s :: rest => by
    rw [skeletons, allHeads, Braceless, List.mem_append, not_or]
    exact ⟨braceless_heads s, braceless_allHeads rest⟩

end

theorem written_braced_cons (n : Nat) (line : String) (rest : List String) :
    written (braced n (line :: rest)) =
      blanks n ++ "\x7b\n" ++ written (line :: rest) ++ blanks n ++ "\x7d\n" := by
  have hopening : opening n ++ "\n" = blanks n ++ "\x7b\n" := String.append_assoc ..
  have hclosing : written [closing n] = blanks n ++ "\x7d\n" := by
    rw [written_cons, written, List.map_nil, String.join_nil, String.append_empty]
    exact String.append_assoc ..
  rw [braced, ← List.cons_append, written_cons, written_append, hopening, hclosing]
  simp only [String.append_assoc]

mutual

theorem listing_eq (n : Nat) : (s : Statement) → listing n s = written (s.skeleton.lines n)
  | ⟨keyword, names, values, children, closed⟩ => by
    rw [listing, skeleton, lines, written_cons, listings_eq (n + 2) children]
    cases children with
    | nil =>
      rw [skeletons, allLines]
      simp [braced, written]
    | cons c rest =>
      rw [skeletons, allLines_cons, written_braced_cons]
      simp [String.append_assoc]

theorem listings_eq (n : Nat) : (statements : List Statement) →
    listings n statements = written (allLines n (skeletons statements))
  | [] => by
    rw [listings, skeletons, allLines]
    rfl
  | s :: rest => by
    rw [listings, skeletons, allLines, written_append, listing_eq n s, listings_eq n rest]

end

theorem scriptListing_eq (statements : List Statement) :
    scriptListing statements = written (scriptLines (skeletons statements)) := by
  induction statements with
  | nil => rfl
  | cons s rest ih =>
    rw [scriptListing, List.map_cons, String.join_cons, ← scriptListing, ih, skeletons, scriptLines,
      written_append, written_cons, listing_eq, String.empty_append, String.append_assoc]

/-- No statement, at any depth, has a line end in its text. -/
def OneLine (statements : List Statement) : Prop :=
  ∀ t ∈ allHeads (skeletons statements), '\n' ∉ t.toList

instance (statements : List Statement) : Decidable (OneLine statements) :=
  inferInstanceAs (Decidable (∀ t ∈ allHeads (skeletons statements), '\n' ∉ t.toList))

theorem skeletons_of_scriptListing {xs ys : List Statement} (hx : OneLine xs) (hy : OneLine ys)
    (h : scriptListing xs = scriptListing ys) : skeletons xs = skeletons ys := by
  rw [scriptListing_eq, scriptListing_eq] at h
  have hlines := congrArg (fun text => textLines (text ++ "")) h
  simp only [textLines_written (notMem_scriptLines _ hx),
    textLines_written (notMem_scriptLines _ hy)] at hlines
  exact scriptLines_inj _ _ (braceless_allHeads xs) (braceless_allHeads ys)
    (List.append_cancel_right hlines)

/-- A block ends where its text says. -/
theorem skeleton_of_listing {n : Nat} {s t : Statement} {a b : String} (hs : OneLine [s])
    (ht : OneLine [t]) (hbody : s.children ≠ []) (hbody' : t.children ≠ [])
    (h : listing n s ++ a = listing n t ++ b) : s.skeleton = t.skeleton ∧ a = b := by
  have hline : ∀ l ∈ s.skeleton.lines n, '\n' ∉ l.toList :=
    notMem_lines n s.skeleton (by simpa [OneLine, skeletons, allHeads] using hs)
  have hline' : ∀ l ∈ t.skeleton.lines n, '\n' ∉ l.toList :=
    notMem_lines n t.skeleton (by simpa [OneLine, skeletons, allHeads] using ht)
  have hlines := congrArg textLines h
  rw [listing_eq, listing_eq, textLines_written hline, textLines_written hline'] at hlines
  have hne : s.skeleton.body ≠ [] := by simpa [skeleton_eq, skeletons_eq_map] using hbody
  have hne' : t.skeleton.body ≠ [] := by simpa [skeleton_eq, skeletons_eq_map] using hbody'
  obtain ⟨hskeleton, hrest⟩ := lines_inj s.skeleton t.skeleton (braceless_heads s)
    (braceless_heads t) hlines (fun hnil => absurd hnil hne) (fun hnil => absurd hnil hne')
  exact ⟨hskeleton, textLines_injective hrest⟩

/-- **Unambiguous listings.** If no statement has a line end in its text, two
scripts have the same listing exactly if they have the same skeletons: the
same trees, with the same texts. Wherever two blocks begin at the same column
of the same text, they have the same skeleton and end at the same place. -/
theorem scriptListing_unambiguous :
    (∀ xs ys : List Statement, OneLine xs → OneLine ys →
      (scriptListing xs = scriptListing ys ↔ skeletons xs = skeletons ys)) ∧
    ∀ (n : Nat) (s t : Statement) (a b : String), OneLine [s] → OneLine [t] →
      s.children ≠ [] → t.children ≠ [] → listing n s ++ a = listing n t ++ b →
      s.skeleton = t.skeleton ∧ a = b := by
  constructor
  · intro xs ys hx hy
    constructor
    · exact skeletons_of_scriptListing hx hy
    · intro h
      rw [scriptListing_eq, h, scriptListing_eq]
  · intro n s t a b hs ht hbody hbody' h
    exact skeleton_of_listing hs ht hbody hbody' h

end Statement

namespace Sample

/-- An assignment that reads like the end of a block and a statement after it. -/
def bracesLine : Statement :=
  ⟨.assignment, ["Operand1", "Operation", "Operand2"], ["\x7d", "  \x7b", "  END[]"], [], false⟩

def condition (names : List String) (body : List Statement) : Statement :=
  ⟨.conditional, names, ["@var1 == 1"], body, true⟩

end Sample

open Statement Sample in
/-- Braces in the text of an argument are not taken for those of a block, and
names that are not shown do not matter. -/
theorem Statement.scriptListing_unambiguous_braces :
    OneLine [condition ["A"] [bracesLine]] ∧ OneLine [condition ["A"] [], bracesLine] ∧
    scriptListing [condition ["A"] [bracesLine]] ≠
      scriptListing [condition ["A"] [], bracesLine] ∧
    OneLine [condition ["B"] [bracesLine]] ∧
    listing 2 (condition ["A"] [bracesLine]) ++ "\x7d\n" =
      listing 2 (condition ["B"] [bracesLine]) ++ "\x7d\n" ∧
    (condition ["A"] [bracesLine]).skeleton = (condition ["B"] [bracesLine]).skeleton := by
  have hblock : OneLine [condition ["A"] [bracesLine]] := by decide +kernel
  have hflat : OneLine [condition ["A"] [], bracesLine] := by decide +kernel
  have hother : OneLine [condition ["B"] [bracesLine]] := by decide +kernel
  have hsame : listing 2 (condition ["A"] [bracesLine]) ++ "\x7d\n" =
      listing 2 (condition ["B"] [bracesLine]) ++ "\x7d\n" := by decide +kernel
  refine ⟨hblock, hflat, ?_, hother, hsame, ?_⟩
  · intro h
    have hskeletons := (scriptListing_unambiguous.1 _ _ hblock hflat).mp h
    have hlength := congrArg List.length hskeletons
    simp [skeletons] at hlength
  · exact (scriptListing_unambiguous.2 2 _ _ _ _ hblock hother (by simp [condition])
      (by simp [condition]) hsame).1

end SceneScript
