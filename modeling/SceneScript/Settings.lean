import SceneScript.Text.Encoding

/-
  The settings of a run and how they are read from stored data. A stored
  record names both settings and may hold more; the two may also stand in a
  list, the script index first.
-/

namespace SceneScript

/-- What a listing depends on besides the resources. -/
structure Settings where
  /-- Which script of the game the scene is. -/
  scriptIndex : UInt16
  encoding : Encoding
  deriving DecidableEq, Repr, Inhabited

/-- Stored data. -/
inductive Stored where
  | null
  | bool (b : Bool)
  | integer (n : Int)
  /-- A number that is not written as an integer. -/
  | fraction
  | text (s : String)
  | list (items : List Stored)
  | record (fields : List (String × Stored))
  deriving Inhabited

namespace Settings

/-- A script index: an integer that fits. -/
def scriptIndex? : Stored → Option UInt16
  | .integer n => if 0 ≤ n ∧ n < 65536 then some (UInt16.ofNat n.toNat) else none
  | _ => none

/-- An encoding: its name, or a record with that name alone and nothing in it. -/
def encoding? : Stored → Option Encoding
  | .text s => Encoding.ofSettingName? s
  | .record [(s, .null)] => Encoding.ofSettingName? s
  | _ => none

def ofStored? : Stored → Option Settings
  | .record fields => do
    let scriptIndex ← scriptIndex? (← fields.lookup "script_index")
    let encoding ← encoding? (← fields.lookup "encoding")
    return ⟨scriptIndex, encoding⟩
  | .list [first, second] => do
    let scriptIndex ← scriptIndex? first
    let encoding ← encoding? second
    return ⟨scriptIndex, encoding⟩
  | _ => none

end Settings

end SceneScript
