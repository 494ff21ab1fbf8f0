import SceneScript.Bytes.Parser

/-
  The vocabulary of a compiled game: the name of every command and of each of
  its attributes. A command is known by its place in the list, an attribute by
  its place in its command.
-/

namespace SceneScript

/-- The names of one command. -/
structure CommandNames where
  name : String
  attributes : List String
  deriving DecidableEq, Repr

/-- The names of all commands, by opcode. -/
structure Vocabulary where
  version : UInt32
  commands : List CommandNames
  deriving DecidableEq, Repr

namespace Vocabulary

def commandName? (v : Vocabulary) (opcode : UInt8) : Option String :=
  v.commands[opcode.toNat]?.map (·.name)

def attributeName? (v : Vocabulary) (opcode : UInt8) (id : UInt16) : Option String :=
  v.commands[opcode.toNat]?.bind (·.attributes[id.toNat]?)

/-- Read an attribute's name and the four bytes after it. -/
def readAttributeName (d : TextDecoder) : Parser String := do
  let name ← Parser.terminated d
  Parser.skip 4
  return name

def readCommand (d : TextDecoder) : Parser CommandNames := do
  let name ← Parser.terminated d
  let count ← Parser.byte
  let attributes ← Parser.times count.toNat (readAttributeName d)
  return ⟨name, attributes⟩

def read (d : TextDecoder) : Parser Vocabulary := do
  Parser.magic .vocabulary
  let version ← Parser.word32
  let count ← Parser.word32
  Parser.skip 4
  let commands ← Parser.times count.toNat (readCommand d)
  Traced.report (.vocabularyRead version commands.length)
  return ⟨version, commands⟩

def parse (d : TextDecoder) (bytes : List UInt8) : Traced Vocabulary :=
  Parser.runOn (read d) bytes

end Vocabulary

end SceneScript
