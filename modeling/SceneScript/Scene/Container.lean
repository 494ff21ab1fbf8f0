import SceneScript.Scene.Mask

/-
  The compiled scene. After a header of 32 bytes come the instructions, four
  bytes each, then the attribute descriptors, twelve bytes each, then the
  attribute values the descriptors point into. All three regions may be
  masked; the key stands where the first descriptor keeps the offset of its
  value, because that offset is zero before masking.

    0x00  magic                      0x10  size of the descriptors
    0x04  version                    0x14  size of the values
    0x08  number of instructions     0x18  size of the line numbers
    0x0C  size of the instructions   0x1C  unused
-/

namespace SceneScript

/-- One compiled instruction. Its place in the list is the offset that labels
point at. -/
structure Instruction where
  opcode : UInt8
  attributeCount : UInt8
  blockOffset : UInt8
  deriving DecidableEq, Repr

/-- One operand of an instruction, with its value still in bytecode. -/
structure Attribute where
  id : UInt16
  typeTag : UInt8 × UInt8
  value : List UInt8
  deriving DecidableEq, Repr

/-- The flavour of an assignment, on its destination. -/
def Attribute.subType (a : Attribute) : UInt8 := a.typeTag.2

/-- A compiled scene. -/
structure Scene where
  version : UInt32
  instructions : List Instruction
  attributes : List Attribute
  deriving DecidableEq, Repr

namespace Scene

structure Header where
  version : UInt32
  count : UInt32
  descriptorSize : UInt32
  deriving DecidableEq, Repr

namespace Header

/-- Where the descriptors start. -/
def descriptorsAt (h : Header) : Nat := dataStart + 4 * h.count.toNat

/-- Where the values start. -/
def valuesAt (h : Header) : Nat := h.descriptorsAt + h.descriptorSize.toNat

/-- How many descriptors begin before the values do. -/
def descriptorCount (h : Header) : Nat := (h.descriptorSize.toNat + 11) / 12

/-- Read the header. The size of the instructions has to be four times their
number. -/
def read : Parser Header := do
  Parser.magic .scene
  let version ← Parser.word32
  let count ← Parser.word32
  let size ← Parser.word32
  if 4 * count.toNat = size.toNat then
    let descriptorSize ← Parser.word32
    Parser.skip 4
    Parser.skip 4
    Parser.skip 4
    return ⟨version, count, descriptorSize⟩
  else Parser.fail (.sizeMismatch count size)

/-- Read the key: zero when there is no descriptor to keep it. -/
def readKey (h : Header) : Parser UInt32 := do
  if h.descriptorSize = 0 then return 0
  else
    Parser.seek (h.descriptorsAt + 8)
    Parser.word32

end Header

/-- Read one descriptor and fetch the value it points at. -/
def readAttribute (valuesAt : Nat) : Parser Attribute := do
  let id ← Parser.word16
  let tag ← Parser.take 2
  let len ← Parser.word32
  let offset ← Parser.word32
  let value ← Parser.aside do
    Parser.seek (valuesAt + offset.toNat)
    Parser.take len.toNat
  return ⟨id, (tag.getD 0 0, tag.getD 1 0), value⟩

def readInstruction : Parser Instruction := do
  let opcode ← Parser.byte
  let attributeCount ← Parser.byte
  let blockOffset ← Parser.byte
  Parser.skip 1
  return ⟨opcode, attributeCount, blockOffset⟩

/-- Read the attributes and the instructions of an unmasked buffer. -/
def readBody (h : Header) : Parser Scene := do
  Parser.seek h.descriptorsAt
  let attributes ← Parser.times h.descriptorCount (readAttribute h.valuesAt)
  Parser.seek dataStart
  let instructions ← Parser.times h.count.toNat readInstruction
  return ⟨h.version, instructions, attributes⟩

def parse (bytes : List UInt8) : Traced Scene := do
  let (h, r) ← Header.read (Reader.ofBytes bytes)
  if h.valuesAt ≤ bytes.length then
    let (key, _) ← h.readKey r
    Traced.report (.sceneHeader h.version h.count h.descriptorSize key)
    let plain := mask key bytes
    plain.report
    Parser.runOn (readBody h) plain.buffer
  else Traced.fail (.outOfBounds dataStart (h.valuesAt - dataStart) bytes.length)

end Scene

end SceneScript
