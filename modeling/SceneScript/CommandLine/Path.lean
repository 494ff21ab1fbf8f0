import SceneScript.Decimal.Numeral
import SceneScript.Text.Utf8

/-
  File paths with the separator `/`, and the script index that the name of a
  scene file carries. A path is bytes, which need not be text: only the stem of
  a scene file has to be.
-/

namespace SceneScript

/-- A path as files are found by it. -/
structure Path where
  bytes : List UInt8
  deriving DecidableEq, Repr

namespace Path

/-- The name of a file or a folder. -/
abbrev Name := List UInt8

/-- The separator `/`. -/
def slash : UInt8 := 0x2F

def dot : UInt8 := 0x2E

/-- The name that stays where it is. -/
def here : Name := [dot]

/-- The name that leads upwards. -/
def above : Name := [dot, dot]

def ofText (text : String) : Path := ⟨Text.Utf8.encode text⟩

/-- A path in a message, with replacement characters for what is not text. -/
def display (path : Path) : String := (Text.Utf8.scan path.bytes).decoded.text

/-- The parts of a list between separators, the empty ones included. -/
def split {α : Type} [DecidableEq α] (separator : α) : List α → List (List α)
  | [] => [[]]
  | c :: rest =>
    if c = separator then [] :: split separator rest
    else
      match split separator rest with
      | [] => [[c]]
      | part :: parts => (c :: part) :: parts

/-- The parts of a path that lead somewhere: not the empty ones, and not a
single dot, which stays where it is. -/
def parts (path : Path) : List Name :=
  (split slash path.bytes).filter (fun p => p ≠ [] ∧ p ≠ here)

/-- Whether a path starts at the top of everything. -/
def isAbsolute (path : Path) : Bool := path.bytes.head? == some slash

/-- Whether a path can only be a folder's. -/
def endsInSeparator (path : Path) : Bool := path.bytes.getLast? == some slash

/-- The last part of a path, unless it leads upwards. -/
def fileName? (path : Path) : Option Name :=
  match path.parts.getLast? with
  | some name => if name = above then none else some name
  | none => none

/-- A file name without what follows its last dot; a dot in front does not
count. -/
def stem (name : Name) : Name :=
  match (name.reverse.dropWhile (· ≠ dot)).drop 1 with
  | [] => name
  | front => front.reverse

/-- The script index in the name of a scene file: the digits that end its
stem, with no digit before them. `ysbin/yst00042.ybn` is script 42. A stem that
is not text carries none. -/
def scriptIndex? (path : Path) : Option UInt16 := do
  let name ← path.fileName?
  let text ← Text.Utf8.text? (stem name)
  let digits := text.toList.dropWhile (fun c => !c.isDigit)
  if Decimal.isNumeral digits ∧ Decimal.value digits < 65536 then
    return UInt16.ofNat (Decimal.value digits)
  else none

end Path

end SceneScript
