import SceneScript.Hex

/-
  The ways in which reading a compiled scene can fail, each a cause with the
  numbers that identify it. `Fault.message` is the only place that words them.
-/

namespace SceneScript

/-- The three compiled resources a listing is made from. -/
inductive Resource where
  | scene
  | labels
  | vocabulary
  deriving DecidableEq, Repr

def Resource.title : Resource → String
  | .scene => "script"
  | .labels => "label table"
  | .vocabulary => "compiler definition"

def Resource.magic : Resource → String
  | .scene => "YSTB"
  | .labels => "YSLB"
  | .vocabulary => "YSCD"

/-- The magic as the four bytes of the file, one per letter. -/
def Resource.magicBytes : Resource → List UInt8
  | .scene => [0x59, 0x53, 0x54, 0x42]
  | .labels => [0x59, 0x53, 0x4C, 0x42]
  | .vocabulary => [0x59, 0x53, 0x43, 0x44]

/-- What a stack was popped for when it ran empty. -/
inductive Activity where
  | binaryOperand
  | negation
  | toNumber
  | toText
  | indexClose
  | indexedVariable
  | expressionResult
  | conditionalClose
  | loopClose
  deriving DecidableEq, Repr

/-- The activity as a phrase that completes "stack underflow while". -/
def Activity.phrase : Activity → String
  | .binaryOperand => "reading a binary operand"
  | .negation => "negating"
  | .toNumber => "converting to number"
  | .toText => "converting to string"
  | .indexClose => "closing an index expression"
  | .indexedVariable => "reading an indexed variable"
  | .expressionResult => "reading the expression result"
  | .conditionalClose => "closing a conditional block"
  | .loopClose => "closing a loop block"

/-- Why a resource could not be turned into statements. -/
inductive Fault where
  /-- The first four bytes are not the resource's magic. -/
  | invalidMagic (resource : Resource) (found : List UInt8)
  /-- The instruction region is not four bytes per instruction. -/
  | sizeMismatch (count size : UInt32)
  /-- A read of `len` bytes at `offset` leaves a buffer of `size` bytes. -/
  | outOfBounds (offset len size : Nat)
  /-- A masked region leaves the buffer, so the key cannot be right. -/
  | badKey (key : UInt32) (offset len size : Nat)
  /-- An instruction asks for more attributes than are left. -/
  | missingAttribute (instruction : Nat)
  | stackUnderflow (activity : Activity)
  deriving DecidableEq, Repr

/-- The three classes of faults. -/
inductive Fault.Kind where
  /-- The input is not the resource it should be. -/
  | format
  /-- Something lies outside the data there is. -/
  | bounds
  /-- The bytecode or the block structure pops more than was pushed. -/
  | stackUnderflow
  deriving DecidableEq, Repr

def Fault.kind : Fault → Fault.Kind
  | .invalidMagic .. => .format
  | .sizeMismatch .. => .format
  | .outOfBounds .. => .bounds
  | .badKey .. => .bounds
  | .missingAttribute .. => .bounds
  | .stackUnderflow .. => .stackUnderflow

def Fault.message : Fault → String
  | .invalidMagic resource found =>
    "invalid magic in " ++ resource.title ++ ": expected \"" ++ resource.magic ++
      "\", found " ++ byteList found
  | .sizeMismatch count size =>
    "instruction size does not match instruction count: count=" ++ toString count.toNat ++
      ", size=0x" ++ upperHex size.toNat
  | .outOfBounds offset len size =>
    "read out of bounds: offset=0x" ++ upperHex offset ++ ", len=0x" ++ upperHex len ++
      ", buffer_len=0x" ++ upperHex size
  | .badKey key offset len size =>
    "script data cannot be decrypted with key 0x" ++ padZeros 8 (upperHex key.toNat) ++
      ": region 0x" ++ upperHex offset ++ "+0x" ++ upperHex len ++
      " exceeds buffer_len=0x" ++ upperHex size
  | .missingAttribute instruction =>
    "attribute stream exhausted at instruction " ++ toString instruction
  | .stackUnderflow activity => "stack underflow while " ++ activity.phrase

end SceneScript
