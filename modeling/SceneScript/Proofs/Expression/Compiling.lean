import SceneScript.Proofs.Expression.Dissection
import SceneScript.Proofs.Expression.Doubles
import SceneScript.Text.Encoding

/-
  Expressions as trees, their postfix code and their infix text.

    Tree.instrs           operands first, an index between its ends
    Tree.text             what the listing shows

  The instructions of a tree put its text on any stack (`applyAll_instrs`), so
  its code reads back as its text (`text_of_code`), and the code of several
  trees in a row as the text of the last one (`text_of_codes`). The operators
  are spelled out in `Tree.text`, and what is written for a double is told from
  the number it stands for (`Double.Shows`).
-/

namespace SceneScript.Expression

/-- An expression. -/
inductive Tree where
  | leaf (l : Leaf)
  | indexed (sigil : UInt8) (id : Int16) (args : List Tree)
  | unary (op : UnaryOperator) (x : Tree)
  | binary (op : BinaryOperator) (x y : Tree)

/-! ## Text -/

mutual

/-- The infix text of an expression. -/
def Tree.text (d : TextDecoder) : Tree → String
  | .leaf l => l.spelling d
  | .indexed sigil id args =>
    variableName d sigil id ++ "(" ++ String.intercalate ", " (Tree.texts d args) ++ ")"
  | .unary .negate x => "-" ++ x.text d
  | .unary .toNumber x => "@(" ++ x.text d ++ ")"
  | .unary .toText x => "$(" ++ x.text d ++ ")"
  | .binary op x y => x.text d ++ " " ++ sign op ++ " " ++ y.text d

/-- The texts of the parts of an index. -/
def Tree.texts (d : TextDecoder) : List Tree → List String
  | [] => []
  | t :: rest => t.text d :: Tree.texts d rest

end

/-! ## Code -/

mutual

/-- The instructions of an expression. -/
def Tree.instrs : Tree → List Instr
  | .leaf l => [.leaf l]
  | .indexed sigil id args =>
    .openIndex sigil id :: ([Instr.separator].intercalate (Tree.parts args) ++ [.closeIndex])
  | .unary op x => x.instrs ++ [.unary op]
  | .binary op x y => x.instrs ++ (y.instrs ++ [.binary op])

/-- The instructions of each part of an index. -/
def Tree.parts : List Tree → List (List Instr)
  | [] => []
  | t :: rest => t.instrs :: Tree.parts rest

end

/-! ## Running a tree -/

mutual

/-- The code of a tree puts its text on the stack. -/
theorem applyAll_instrs (d : TextDecoder) : (t : Tree) → (stack : Stack) →
    applyAll (t.instrs.map (·.action d)) stack = .ok (.text (t.text d) :: stack)
  | .leaf l, stack => by
    rw [Tree.instrs, Tree.text]
    rfl
  | .indexed sigil id args, stack => by
    -- The parts leave the opening where it is: closing the index takes what lies above it.
    obtain ⟨filled, hpop, hrun⟩ := applyAll_parts d args
      (.opening :: .text (variableName d sigil id) :: stack) rfl
    rw [Tree.instrs, Tree.text, List.map_cons, List.map_append, applyAll]
    show applyAll _ _ = _
    rw [applyAll_append, hrun]
    show (Action.closeIndex.apply filled).bind _ = _
    simp only [Action.apply, hpop]
    rw [String.empty_append]
    rfl
  | .unary op x, stack => by
    rw [Tree.instrs, List.map_append, applyAll_append, applyAll_instrs d x]
    cases op <;> rw [Tree.text] <;> rfl
  | .binary op x y, stack => by
    rw [Tree.instrs, Tree.text, ← symbol_eq_sign, List.map_append, applyAll_append,
      applyAll_instrs d x, List.map_append]
    show applyAll _ _ = _
    rw [applyAll_append, applyAll_instrs d y]
    rfl

/-- The parts of an index, run above its opening, are what closing it finds. -/
theorem applyAll_parts (d : TextDecoder) : (args : List Tree) → (stack : Stack) →
    {front : String} → {below : Stack} → popIndex stack = .ok (front, below) →
    ∃ filled, popIndex filled = .ok (front ++ String.intercalate ", " (Tree.texts d args), below) ∧
      applyAll (([Instr.separator].intercalate (Tree.parts args)).map (·.action d)) stack =
        .ok filled
  | [], stack, front, below, h => by
    refine ⟨stack, ?_, rfl⟩
    rw [Tree.texts, String.intercalate_nil, String.append_empty, h]
  | [t], stack, front, below, h => by
    refine ⟨.text (t.text d) :: stack, ?_, ?_⟩
    · rw [Tree.texts, Tree.texts, String.intercalate_singleton, popIndex, h]
      rfl
    · simp only [Tree.parts, List.intercalate_singleton]
      exact applyAll_instrs d t stack
  | t :: u :: rest, stack, front, below, h => by
    -- `front` is what the index holds so far; a part and its separator are added to it.
    have hnext : popIndex (.text ", " :: .text (t.text d) :: stack) =
        .ok (front ++ t.text d ++ ", ", below) := by
      rw [popIndex, popIndex, h]
      rfl
    obtain ⟨filled, hpop, hrun⟩ := applyAll_parts d (u :: rest) _ hnext
    refine ⟨filled, ?_, ?_⟩
    · have htexts : Tree.texts d (t :: u :: rest) =
          t.text d :: u.text d :: Tree.texts d rest := by
        rw [Tree.texts, Tree.texts]
      rw [hpop, htexts, String.intercalate_cons_cons, ← Tree.texts]
      simp only [String.append_assoc]
    · rw [Tree.parts, Tree.parts, List.intercalate_cons_cons, ← Tree.parts, List.map_append,
        applyAll_append, List.map_append, applyAll_append, applyAll_instrs d t stack]
      exact hrun

end

/-- **Code of a tree.** Reading the code of an expression gives its text. -/
theorem text_of_code (d : TextDecoder) {t : Tree} {code : List UInt8} (h : Code t.instrs code) :
    (Expression.text d code).outcome = .ok (t.text d) := by
  calc (Expression.text d code).outcome
      = (applyAll (t.instrs.map (·.action d)) []).bind result := outcome_text_of_code d h
    _ = result [.text (t.text d)] := by
          rw [applyAll_instrs]
          rfl
    _ = .ok (t.text d) := rfl

/-! ## Trees in a row -/

/-- Expressions in a row leave their texts on the stack, the last one on top. -/
theorem applyAll_trees (d : TextDecoder) (trees : List Tree) (stack : Stack) :
    applyAll ((trees.flatMap Tree.instrs).map (·.action d)) stack =
      .ok ((trees.map (fun t => Fragment.text (t.text d))).reverse ++ stack) := by
  induction trees generalizing stack with
  | nil => rfl
  | cons t rest ih =>
    rw [List.flatMap_cons, List.map_append, applyAll_append, applyAll_instrs]
    show applyAll _ _ = _
    rw [ih, List.map_cons, List.reverse_cons, List.append_assoc, List.singleton_append]

theorem code_flatMap {codes : List (Tree × List UInt8)} (h : ∀ c ∈ codes, Code c.1.instrs c.2) :
    Code ((codes.map Prod.fst).flatMap Tree.instrs) (codes.flatMap Prod.snd) := by
  induction codes with
  | nil => exact .nil
  | cons c rest ih =>
    exact (h c List.mem_cons_self).append (ih (fun x hx => h x (List.mem_cons_of_mem c hx)))

/-- **Reading inverts writing.** The code of an expression reads as its infix
text, in which doubles have their six decimals, and the code of several in a row
as the text of the last one. -/
theorem text_of_codes (d : TextDecoder) :
    (∀ (t : Tree) (code : List UInt8), Code t.instrs code →
      (Expression.text d code).outcome = .ok (t.text d)) ∧
    (∀ bits, Double.Shows bits ((Leaf.double bits).spelling d)) ∧
    ∀ (codes : List (Tree × List UInt8)) (hne : codes ≠ []), (∀ c ∈ codes, Code c.1.instrs c.2) →
      (Expression.text d (codes.flatMap Prod.snd)).outcome =
        .ok ((codes.getLast hne).1.text d) := by
  refine ⟨fun t code => text_of_code d, Double.shows_fixed, fun codes hne h => ?_⟩
  -- What lies on top of the stack at the end was put there by the last of the expressions.
  obtain ⟨first, last, rfl⟩ : ∃ first last, codes = first ++ [last] :=
    ⟨_, _, (List.dropLast_concat_getLast hne).symm⟩
  have hstack : ((first ++ [last]).map Prod.fst).map (fun t => Fragment.text (t.text d)) =
      (first.map Prod.fst).map (fun t => Fragment.text (t.text d)) ++
        [.text (last.1.text d)] := by simp
  rw [outcome_text_of_code d (code_flatMap h), applyAll_trees, hstack, List.reverse_append,
    List.getLast_concat]
  rfl

/-- A literal that looks like the start of an index, before an index in an index
and two doubles that lie halfway between millionths. -/
def nestedIndexes : List Tree :=
  [.leaf .parenthesis,
    .indexed 0x24 2
      [.unary .negate (.leaf (.int16 (-3))),
        .binary .logicalOr (.indexed 0x40 (-1) []) (.unary .toText (.leaf (.scalar 0x40 31))),
        .binary .lessEqual (.unary .toNumber (.leaf (.double 0xBF80000000000000)))
          (.leaf (.double 0x3F98000000000000))]]

def nestedIndexesCode : List UInt8 :=
  [0x4D, 0x01, 0x00, 0x28,
    0x56, 0x03, 0x00, 0x24, 0x02, 0x00,
    0x57, 0x02, 0x00, 0xFD, 0xFF, 0x52, 0x00, 0x00,
    0x2C, 0x00, 0x00,
    0x56, 0x03, 0x00, 0x40, 0xFF, 0xFF, 0x29, 0x01, 0x00, 0x00,
    0x48, 0x03, 0x00, 0x40, 0x1F, 0x00, 0x73, 0x00, 0x00, 0x7C, 0x00, 0x00,
    0x2C, 0x00, 0x00,
    0x46, 0x08, 0x00, 0x00, 0x00, 0x00, 0x00, 0x00, 0x00, 0x80, 0xBF, 0x69, 0x00, 0x00,
    0x46, 0x08, 0x00, 0x00, 0x00, 0x00, 0x00, 0x00, 0x00, 0x98, 0x3F, 0x53, 0x00, 0x00,
    0x29, 0x01, 0x00, 0x00]

theorem text_of_codes_nestedIndexes :
    (Expression.text Encoding.utf8.decoder nestedIndexesCode).outcome =
      .ok "$var2(--3, @var-1() || $(@var1f), @(-0.007812) <= 0.023438)" := by
  have hcode : (nestedIndexes.map (fun t => (t, t.instrs.flatMap Instr.write))).flatMap Prod.snd =
      nestedIndexesCode := by
    decide +kernel
  rw [← hcode]
  refine ((text_of_codes Encoding.utf8.decoder).2.2 _ (by decide) ?_).trans ?_
  · intro c hc
    obtain ⟨t, _, rfl⟩ := List.mem_map.mp hc
    exact code_write t.instrs
  · exact congrArg Except.ok (by decide +kernel)

end SceneScript.Expression
