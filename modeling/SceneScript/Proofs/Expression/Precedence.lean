import Mathlib.Algebra.Ring.Int.Defs
import SceneScript.Proofs.Expression.Compiling
import SceneScript.Proofs.Text.Split

/-
  Arithmetic in expression text. No brackets are written, so the text of an
  expression shows its numbers and operators in order (`Arithmetic.inOrder`)
  and nothing of how they were put together: different groupings of different
  values can have the same text (`text_forgets_grouping`). Read in the usual
  way, products before sums and from left to right (`reading`), the text has
  the value of the expression if no sum or difference stands where brackets
  would be needed (`reading_inOrder`).
-/

namespace SceneScript.Expression

inductive ArithmeticOperator where
  | add
  | subtract
  | multiply
  deriving DecidableEq, Repr

def ArithmeticOperator.operator : ArithmeticOperator → BinaryOperator
  | .add => .add
  | .subtract => .subtract
  | .multiply => .multiply

def ArithmeticOperator.apply : ArithmeticOperator → Int → Int → Int
  | .add, x, y => x + y
  | .subtract, x, y => x - y
  | .multiply, x, y => x * y

/-- An integer literal that is not negative. -/
inductive NumberLiteral where
  | int8 (n : UInt8)
  | int16 (n : Int16) (h : 0 ≤ n.toInt)
  | int32 (n : Int32) (h : 0 ≤ n.toInt)
  | int64 (n : Int64) (h : 0 ≤ n.toInt)

def NumberLiteral.leaf : NumberLiteral → Leaf
  | .int8 n => .int8 n
  | .int16 n _ => .int16 n
  | .int32 n _ => .int32 n
  | .int64 n _ => .int64 n

def NumberLiteral.value : NumberLiteral → Nat
  | .int8 n => n.toNat
  | .int16 n _ => n.toInt.toNat
  | .int32 n _ => n.toInt.toNat
  | .int64 n _ => n.toInt.toNat

/-- Sums, differences and products of numbers. -/
inductive Arithmetic where
  | number (n : NumberLiteral)
  | binary (op : ArithmeticOperator) (x y : Arithmetic)

namespace Arithmetic

/-- The expression as a tree. -/
def tree : Arithmetic → Tree
  | number n => .leaf n.leaf
  | binary op x y => .binary op.operator x.tree y.tree

def value : Arithmetic → Int
  | number n => n.value
  | binary op x y => op.apply x.value y.value

/-- Whether there are only products. -/
def isProduct : Arithmetic → Bool
  | number _ => true
  | binary .multiply x y => x.isProduct && y.isProduct
  | binary _ _ _ => false

/-- Whether the usual reading needs no brackets: no sum or difference is a
factor, or is subtracted. -/
def isUnbracketed : Arithmetic → Bool
  | number _ => true
  | binary .add x y => x.isUnbracketed && y.isUnbracketed
  | binary .subtract x y => x.isUnbracketed && y.isProduct
  | binary .multiply x y => x.isProduct && y.isProduct

end Arithmetic

/-! ## What the text shows -/

/-- A word of a text. -/
inductive Word where
  | number (n : Nat)
  | operator (op : ArithmeticOperator)
  deriving DecidableEq, Repr

def Word.text : Word → String
  | .number n => n.repr
  | .operator op => op.operator.symbol

/-- The numbers and operators from left to right. -/
def Arithmetic.inOrder : Arithmetic → List Word
  | number n => [.number n.value]
  | binary op x y => x.inOrder ++ .operator op :: y.inOrder

theorem isDigit_of_mem_repr {n : Nat} {c : Char} (h : c ∈ n.repr.toList) : c.isDigit = true := by
  rw [Nat.repr_eq_ofList_toDigits, String.toList_ofList] at h
  exact Nat.isDigit_of_mem_toDigits (by decide) (by decide) h

theorem repr_injective : Function.Injective Nat.repr := by
  intro m n h
  rw [Nat.repr_eq_ofList_toDigits, Nat.repr_eq_ofList_toDigits] at h
  have hvalue := congrArg (fun digits => Nat.ofDigitChars 10 digits 0) (String.ofList_inj.mp h)
  simpa [Nat.ofDigitChars_toDigits] using hvalue

/-- An operator is written with a character that is no digit. -/
theorem exists_mem_symbol (op : ArithmeticOperator) :
    ∃ c ∈ op.operator.symbol.toList, c.isDigit = false := by
  cases op with
  | add => exact ⟨'+', by decide, rfl⟩
  | subtract => exact ⟨'-', by decide, rfl⟩
  | multiply => exact ⟨'*', by decide, rfl⟩

theorem symbol_injective :
    Function.Injective (fun op : ArithmeticOperator => op.operator.symbol) := by
  intro op op' h
  revert h
  cases op <;> cases op' <;> decide

theorem repr_ne_symbol (n : Nat) (op : ArithmeticOperator) : n.repr ≠ op.operator.symbol := by
  intro h
  obtain ⟨c, hc, hdigit⟩ := exists_mem_symbol op
  rw [← h] at hc
  rw [isDigit_of_mem_repr hc] at hdigit
  cases hdigit

theorem Word.notMem_text (w : Word) : ' ' ∉ w.text.toList := by
  cases w with
  | number n =>
    intro h
    cases isDigit_of_mem_repr h
  | operator op => cases op <;> decide

theorem Word.text_injective : Function.Injective Word.text := by
  intro w w' h
  cases w with
  | number n =>
    cases w' with
    | number n' => rw [repr_injective h]
    | operator op' => exact absurd h (repr_ne_symbol n op')
  | operator op =>
    cases w' with
    | number n' => exact absurd h.symm (repr_ne_symbol n' op)
    | operator op' => rw [symbol_injective h]

/-- A number is written without a sign. -/
theorem spelling_leaf (d : TextDecoder) (n : NumberLiteral) : n.leaf.spelling d = n.value.repr := by
  have hint : ∀ i : Int, 0 ≤ i → toString i = i.toNat.repr := by
    intro i hi
    obtain ⟨k, rfl⟩ := Int.eq_ofNat_of_zero_le hi
    rfl
  cases n with
  | int8 n => rfl
  | int16 n h => exact hint n.toInt h
  | int32 n h => exact hint n.toInt h
  | int64 n h => exact hint n.toInt h

/-- Cut at its blanks, the text of an expression is its words in order. -/
theorem split_text (d : TextDecoder) (s : Arithmetic) (rest : List Char) :
    Path.split ' ' ((s.tree.text d).toList ++ ' ' :: rest) =
      s.inOrder.map (fun w => w.text.toList) ++ Path.split ' ' rest := by
  induction s generalizing rest with
  | number n =>
    have hn : ' ' ∉ n.value.repr.toList := Word.notMem_text (.number n.value)
    rw [Arithmetic.tree, Tree.text, spelling_leaf, Path.split_append hn]
    rfl
  | binary op x y ihx ihy =>
    have htext : ((Arithmetic.binary op x y).tree.text d).toList ++ ' ' :: rest =
        (x.tree.text d).toList ++ ' ' :: (op.operator.symbol.toList ++ ' ' ::
          ((y.tree.text d).toList ++ ' ' :: rest)) := by
      simp [Arithmetic.tree, Tree.text, symbol_eq_sign]
    have hop : ' ' ∉ op.operator.symbol.toList := Word.notMem_text (.operator op)
    rw [htext, ihx, Path.split_append hop, ihy, Arithmetic.inOrder]
    simp [Word.text]

/-- The text shows the words in order, and nothing else. -/
theorem text_eq_iff (d : TextDecoder) (s t : Arithmetic) :
    s.tree.text d = t.tree.text d ↔ s.inOrder = t.inOrder := by
  constructor
  · intro h
    have hsplit := split_text d s []
    rw [h, split_text] at hsplit
    have hwords := List.append_cancel_right hsplit
    refine List.map_injective_iff.mpr ?_ hwords.symm
    intro w w' hw
    exact Word.text_injective (String.toList_inj.mp hw)
  · intro h
    have hsplit : Path.split ' ' ((s.tree.text d).toList ++ [' ']) =
        Path.split ' ' ((t.tree.text d).toList ++ [' ']) := by
      rw [split_text, split_text, h]
    exact String.toList_inj.mp (List.append_cancel_right (Path.split_injective ' ' hsplit))

/-! ## The usual reading -/

/-- The value of words read from left to right, `done` being the sum of the
terms before and `factor` the product that is being read, with its sign. -/
def readFrom (done factor : Int) : List Word → Int
  | [] => done + factor
  | .number n :: rest => readFrom done (factor * n) rest
  | .operator .multiply :: rest => readFrom done factor rest
  | .operator .add :: rest => readFrom (done + factor) 1 rest
  | .operator .subtract :: rest => readFrom (done + factor) (-1) rest

/-- The value of words read in the usual way. -/
def reading (words : List Word) : Int := readFrom 0 1 words

/-- Whatever was read before, it is a term that is over. -/
def EndsTerm (rest : List Word) : Prop :=
  ∀ done factor, readFrom done factor rest = readFrom (done + factor) 0 rest

theorem endsTerm_nil : EndsTerm [] := by
  intro done factor
  simp [readFrom]

theorem endsTerm_operator {op : ArithmeticOperator} (h : op ≠ .multiply) (rest : List Word) :
    EndsTerm (.operator op :: rest) := by
  intro done factor
  cases op with
  | multiply => exact absurd rfl h
  | add => simp [readFrom]
  | subtract => simp [readFrom]

theorem readFrom_product {s : Arithmetic} (h : s.isProduct = true) (done factor : Int)
    (rest : List Word) :
    readFrom done factor (s.inOrder ++ rest) = readFrom done (factor * s.value) rest := by
  induction s generalizing factor rest with
  | number n => rfl
  | binary op x y ihx ihy =>
    cases op with
    | add => cases h
    | subtract => cases h
    | multiply =>
      rw [Arithmetic.isProduct, Bool.and_eq_true] at h
      rw [Arithmetic.inOrder, List.append_assoc, ihx h.1, List.cons_append, readFrom, ihy h.2,
        Int.mul_assoc]
      rfl

/-- A term after another one: its value is added to what was read before. -/
theorem readFrom_unbracketed {s : Arithmetic} (h : s.isUnbracketed = true) (done : Int)
    {rest : List Word} (hrest : EndsTerm rest) :
    readFrom done 1 (s.inOrder ++ rest) = readFrom (done + s.value) 0 rest := by
  induction s generalizing done rest with
  | number n =>
    rw [readFrom_product rfl, hrest, Int.one_mul]
  | binary op x y ihx ihy =>
    cases op with
    | add =>
      rw [Arithmetic.isUnbracketed, Bool.and_eq_true] at h
      have hplus := endsTerm_operator (show ArithmeticOperator.add ≠ .multiply by decide)
        (y.inOrder ++ rest)
      rw [Arithmetic.inOrder, List.append_assoc, List.cons_append, ihx h.1 done hplus, readFrom,
        ihy h.2 _ hrest, Int.add_zero, Int.add_assoc]
      rfl
    | subtract =>
      rw [Arithmetic.isUnbracketed, Bool.and_eq_true] at h
      have hminus := endsTerm_operator (show ArithmeticOperator.subtract ≠ .multiply by decide)
        (y.inOrder ++ rest)
      rw [Arithmetic.inOrder, List.append_assoc, List.cons_append, ihx h.1 done hminus, readFrom,
        readFrom_product h.2, hrest]
      congr 1
      show _ = done + (x.value - y.value)
      omega
    | multiply =>
      rw [readFrom_product (s := .binary .multiply x y) h, hrest, Int.one_mul]

/-- Where no brackets are needed, the usual reading finds the value. -/
theorem reading_inOrder {s : Arithmetic} (h : s.isUnbracketed = true) :
    reading s.inOrder = s.value := by
  have hread := readFrom_unbracketed h 0 endsTerm_nil
  simpa [reading, readFrom] using hread

/-- **Meaning of a text.** The text of an expression is that of its numbers and
operators in order. If neither of two expressions needs brackets and they have
the same text, they have the same value, the one that the text has in the
usual reading. -/
theorem value_of_text (d : TextDecoder) (s t : Arithmetic) {a b : List UInt8}
    (ha : Code s.tree.instrs a) (hb : Code t.tree.instrs b) :
    ((Expression.text d a).outcome = (Expression.text d b).outcome ↔ s.inOrder = t.inOrder) ∧
    (s.isUnbracketed = true → t.isUnbracketed = true →
      (Expression.text d a).outcome = (Expression.text d b).outcome →
      s.value = t.value ∧ s.value = reading s.inOrder) := by
  have hwords : (Expression.text d a).outcome = (Expression.text d b).outcome ↔
      s.inOrder = t.inOrder := by
    rw [text_of_code d ha, text_of_code d hb, Except.ok.injEq]
    exact text_eq_iff d s t
  refine ⟨hwords, fun hs ht h => ?_⟩
  have hs := reading_inOrder hs
  have ht := reading_inOrder ht
  exact ⟨by rw [← hs, ← ht, hwords.mp h], hs.symm⟩

/-! ## Brackets that are missing -/

namespace Sample

def number (n : UInt8) : Arithmetic := .number (.int8 n)

/-- (1 + 2) * 3 -/
def productOfSum : Arithmetic :=
  .binary .multiply (.binary .add (number 1) (number 2)) (number 3)

/-- 1 + 2 * 3 -/
def sumOfProduct : Arithmetic :=
  .binary .add (number 1) (.binary .multiply (number 2) (number 3))

/-- 1 + (2 - 3 * 4) -/
def sumOfDifference : Arithmetic :=
  .binary .add (number 1) (.binary .subtract (number 2) (.binary .multiply (number 3) (number 4)))

/-- (1 + 2) - 3 * 4, one of the numbers in two bytes -/
def differenceOfSum : Arithmetic :=
  .binary .subtract (.binary .add (number 1) (number 2))
    (.binary .multiply (.number (.int16 3 (by decide))) (number 4))

/-- The code of `productOfSum`. -/
def productOfSumCode : List UInt8 :=
  [0x42, 1, 0, 1, 0x42, 1, 0, 2, 0x2B, 0, 0, 0x42, 1, 0, 3, 0x2A, 0, 0]

/-- The code of `sumOfProduct`. -/
def sumOfProductCode : List UInt8 :=
  [0x42, 1, 0, 1, 0x42, 1, 0, 2, 0x42, 1, 0, 3, 0x2A, 0, 0, 0x2B, 0, 0]

end Sample

open Expression.Sample in
/-- The value is not in the text: nine and seven are both written `1 + 2 * 3`. -/
theorem text_forgets_grouping :
    Code productOfSum.tree.instrs productOfSumCode ∧
    Code sumOfProduct.tree.instrs sumOfProductCode ∧
    (Expression.text Encoding.shiftJis.decoder productOfSumCode).outcome = .ok "1 + 2 * 3" ∧
    (Expression.text Encoding.shiftJis.decoder sumOfProductCode).outcome = .ok "1 + 2 * 3" ∧
    productOfSum.value = 9 ∧ sumOfProduct.value = 7 := by
  have hproduct : Code productOfSum.tree.instrs productOfSumCode := code_write _
  have hsum : Code sumOfProduct.tree.instrs sumOfProductCode := code_write _
  exact ⟨hproduct, hsum, text_of_code _ hproduct, text_of_code _ hsum, rfl, rfl⟩

open Expression.Sample in
theorem value_of_text_regrouped :
    sumOfDifference.isUnbracketed = true ∧ differenceOfSum.isUnbracketed = true ∧
    (Expression.text Encoding.utf8.decoder
        (sumOfDifference.tree.instrs.flatMap Instr.write)).outcome =
      (Expression.text Encoding.utf8.decoder
        (differenceOfSum.tree.instrs.flatMap Instr.write)).outcome ∧
    sumOfDifference.value = differenceOfSum.value ∧
    sumOfDifference.value = reading sumOfDifference.inOrder := by
  have hmeaning := value_of_text Encoding.utf8.decoder sumOfDifference differenceOfSum
    (code_write _) (code_write _)
  have hsame := hmeaning.1.mpr rfl
  exact ⟨rfl, rfl, hsame, hmeaning.2 rfl rfl hsame⟩

end SceneScript.Expression
