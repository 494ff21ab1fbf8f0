import SceneScript.Hex
import SceneScript.Text.Quoted

/-
  What a run reports on the side: one constructor per thing worth telling,
  with its level, the part of the program it speaks for and its wording.
-/

namespace SceneScript

/-- How much an event matters, least first. -/
inductive Level where
  | trace
  | debug
  | info
  | warn
  deriving DecidableEq, Repr

def Level.name : Level → String
  | .trace => "TRACE"
  | .debug => "DEBUG"
  | .info => "INFO"
  | .warn => "WARN"

def Level.rank : Level → Nat
  | .trace => 0
  | .debug => 1
  | .info => 2
  | .warn => 3

/-- Something a run reports without stopping. -/
inductive Event where
  /-- Bytes that are no text in the encoding named. -/
  | undecodable (encoding : String) (bytes : List UInt8)
  /-- A text with characters the encoding named does not have. -/
  | unencodable (encoding : String) (text : String)
  | sceneHeader (version count descriptorSize key : UInt32)
  /-- The regions of a scene are about to be unmasked. -/
  | unmasking (sizes : List Nat) (key : UInt32)
  | labelsRead (version : UInt32) (count : Nat)
  | vocabularyRead (version : UInt32) (count : Nat)
  /-- An expression holds an opcode with no meaning. -/
  | unknownOpcode (code : UInt8)
  /-- The vocabulary has no name for an attribute. -/
  | namelessAttribute (id : UInt16) (opcode : UInt8)
  /-- The vocabulary has no name for a command. -/
  | namelessCommand (opcode : UInt8)
  /-- An assignment does not have two attributes. -/
  | assignmentArity (instruction : Nat) (count : UInt8)
  /-- Attributes were left when every instruction had taken its own. -/
  | leftoverAttributes (count : Nat)
  /-- A label points past the last instruction. -/
  | strayLabel (name : String) (offset : UInt32) (instructions : Nat)
  /-- All three resources of a script were read. -/
  | resourcesRead (scriptIndex : UInt16) (commands attributes labels : Nat)
  | tablesWritten (path : String)
  | listingWritten (path : String)
  deriving DecidableEq, Repr

def Event.level : Event → Level
  | .undecodable .. => .warn
  | .unencodable .. => .warn
  | .sceneHeader .. => .debug
  | .unmasking .. => .debug
  | .labelsRead .. => .debug
  | .vocabularyRead .. => .debug
  | .unknownOpcode .. => .trace
  | .namelessAttribute .. => .warn
  | .namelessCommand .. => .warn
  | .assignmentArity .. => .warn
  | .leftoverAttributes .. => .warn
  | .strayLabel .. => .warn
  | .resourcesRead .. => .info
  | .tablesWritten .. => .info
  | .listingWritten .. => .info

/-- The part of the program an event is shown under. -/
def Event.origin : Event → String
  | .undecodable .. => "yuris_nls"
  | .unencodable .. => "yuris_nls"
  | .sceneHeader .. => "yuris_script::format::yst"
  | .unmasking .. => "yuris_script::crypt"
  | .labelsRead .. => "yuris_script::format::ysl"
  | .vocabularyRead .. => "yuris_script::format::ycd"
  | .unknownOpcode .. => "yuris_script::expr"
  | .namelessAttribute .. => "yuris_script::resolve"
  | .namelessCommand .. => "yuris_script::resolve"
  | .assignmentArity .. => "yuris_script::resolve"
  | .leftoverAttributes .. => "yuris_script::resolve"
  | .strayLabel .. => "yuris_script::reconstruct"
  | .resourcesRead .. => "yuris_script"
  | .tablesWritten .. => "ybn2txt_decompiler"
  | .listingWritten .. => "ybn2txt_decompiler"

def Event.message : Event → String
  | .undecodable encoding bytes => encoding ++ " decode error in " ++ byteList bytes
  | .unencodable encoding text => encoding ++ " encode error: " ++ Text.quoted text
  | .sceneHeader version count descriptorSize key =>
    "YSTB v" ++ toString version.toNat ++ " instructions=" ++ toString count.toNat ++
      " descriptors=0x" ++ upperHex descriptorSize.toNat ++
      " key=0x" ++ padZeros 8 (upperHex key.toNat)
  | .unmasking sizes key =>
    "decrypting script regions " ++ bracketed (sizes.map upperHex) ++
      " with key 0x" ++ padZeros 8 (upperHex key.toNat)
  | .labelsRead version count =>
    "YSLB v" ++ toString version.toNat ++ " labels=" ++ toString count
  | .vocabularyRead version count =>
    "YSCD v" ++ toString version.toNat ++ " commands=" ++ toString count
  | .unknownOpcode code =>
    "skipping unknown expression opcode 0x" ++ padZeros 2 (upperHex code.toNat)
  | .namelessAttribute id opcode =>
    "no name for attribute " ++ toString id.toNat ++ " of opcode 0x" ++
      padZeros 2 (upperHex opcode.toNat)
  | .namelessCommand opcode =>
    "opcode 0x" ++ padZeros 2 (upperHex opcode.toNat) ++
      " is missing from the compiler definition"
  | .assignmentArity instruction count =>
    "LET at instruction " ++ toString instruction ++ " declares " ++
      toString count.toNat ++ " attributes"
  | .leftoverAttributes count =>
    toString count ++ " attributes were not consumed by any command"
  | .strayLabel name offset instructions =>
    "label " ++ name ++ " at offset " ++ toString offset.toNat ++
      " is past the end of the script (" ++ toString instructions ++ " instructions)"
  | .resourcesRead scriptIndex commands attributes labels =>
    "script " ++ toString scriptIndex.toNat ++ ": " ++ toString commands ++ " commands, " ++
      toString attributes ++ " attributes, " ++ toString labels ++ " labels"
  | .tablesWritten path => "tables written to " ++ path
  | .listingWritten path => "wrote " ++ path

/-- An event as one line with its level in front. -/
def Event.line (e : Event) : String :=
  e.level.name ++ " " ++ e.message

end SceneScript
