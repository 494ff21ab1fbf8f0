import SceneScript.Bytes.Parser

/-
  The label index: every label of a game, with the script it belongs to and
  the instruction it stands before. After the header and a table of 1024
  bytes come the records, in no particular order. The index keeps them in
  ascending order of their offsets, and records of one offset in file order.
-/

namespace SceneScript

/-- A named place in a script. -/
structure Label where
  name : String
  id : UInt32
  /-- The instruction it stands before. -/
  offset : UInt32
  /-- The script it belongs to. -/
  scriptIndex : UInt16
  deriving DecidableEq, Repr

/-- The labels of all scripts, by ascending offset. -/
structure LabelIndex where
  version : UInt32
  labels : List Label
  deriving DecidableEq, Repr

namespace LabelIndex

/-- The size of the table between the header and the records. -/
def rangeTableSize : Nat := 0x400

/-- The labels of one script, still by ascending offset. -/
def ofScript (index : LabelIndex) (scriptIndex : UInt16) : List Label :=
  index.labels.filter (fun l => l.scriptIndex == scriptIndex)

def readLabel (d : TextDecoder) : Parser Label := do
  let len ← Parser.byte
  let name ← Parser.text d len.toNat
  let id ← Parser.word32
  let offset ← Parser.word32
  let scriptIndex ← Parser.word16
  Parser.skip 2
  return ⟨name, id, offset, scriptIndex⟩

/-- Put labels in ascending order of offset; equal offsets keep their order. -/
def sortByOffset (labels : List Label) : List Label :=
  labels.mergeSort (fun a b => decide (a.offset.toNat ≤ b.offset.toNat))

def read (d : TextDecoder) : Parser LabelIndex := do
  Parser.magic .labels
  let version ← Parser.word32
  let count ← Parser.word32
  Parser.skip rangeTableSize
  let labels ← Parser.times count.toNat (readLabel d)
  Traced.report (.labelsRead version labels.length)
  return ⟨version, sortByOffset labels⟩

def parse (d : TextDecoder) (bytes : List UInt8) : Traced LabelIndex :=
  Parser.runOn (read d) bytes

end LabelIndex

end SceneScript
