/-
  The opcodes of expression bytecode. The sixteen binary operators and the
  three unary ones form types of their own; the other opcodes push something
  or open and close an index.
-/

namespace SceneScript

inductive BinaryOperator where
  | notEqual
  | modulo
  | logicalAnd
  | multiply
  | add
  | subtract
  | divide
  | less
  | equal
  | greater
  | bitAnd
  | bitOr
  | lessEqual
  | greaterEqual
  | bitXor
  | logicalOr
  deriving DecidableEq, Repr

def BinaryOperator.symbol : BinaryOperator → String
  | .notEqual => "!="
  | .modulo => "%"
  | .logicalAnd => "&&"
  | .multiply => "*"
  | .add => "+"
  | .subtract => "-"
  | .divide => "/"
  | .less => "<"
  | .equal => "=="
  | .greater => ">"
  | .bitAnd => "&"
  | .bitOr => "|"
  | .lessEqual => "<="
  | .greaterEqual => ">="
  | .bitXor => "^"
  | .logicalOr => "||"

inductive UnaryOperator where
  | negate
  /-- Text read as a number. -/
  | toNumber
  /-- A number written as text. -/
  | toText
  deriving DecidableEq, Repr

/-- How a unary operator is written around its operand. -/
def UnaryOperator.wrap : UnaryOperator → String → String
  | .negate, x => "-" ++ x
  | .toNumber, x => "@(" ++ x ++ ")"
  | .toText, x => "$(" ++ x ++ ")"

/-- What an expression instruction does. -/
inductive Opcode where
  | binary (op : BinaryOperator)
  | unary (op : UnaryOperator)
  /-- An unsigned byte. -/
  | int8
  | int16
  | int32
  | int64
  /-- A floating-point number of eight bytes. -/
  | double
  /-- A string literal, its length in the length field. -/
  | text
  | scalar
  | array
  /-- An array whose index follows. -/
  | startIndex
  /-- The comma between the parts of an index. -/
  | separator
  /-- The end of an index. -/
  | endIndex
  deriving DecidableEq, Repr

namespace Opcode

def code : Opcode → UInt8
  | .binary .notEqual => 0x21
  | .binary .modulo => 0x25
  | .binary .logicalAnd => 0x26
  | .endIndex => 0x29
  | .binary .multiply => 0x2A
  | .binary .add => 0x2B
  | .separator => 0x2C
  | .binary .subtract => 0x2D
  | .binary .divide => 0x2F
  | .binary .less => 0x3C
  | .binary .equal => 0x3D
  | .binary .greater => 0x3E
  | .binary .bitAnd => 0x41
  | .int8 => 0x42
  | .double => 0x46
  | .scalar => 0x48
  | .int32 => 0x49
  | .int64 => 0x4C
  | .text => 0x4D
  | .binary .bitOr => 0x4F
  | .unary .negate => 0x52
  | .binary .lessEqual => 0x53
  | .startIndex => 0x56
  | .int16 => 0x57
  | .binary .greaterEqual => 0x5A
  | .binary .bitXor => 0x5E
  | .unary .toNumber => 0x69
  | .unary .toText => 0x73
  | .array => 0x76
  | .binary .logicalOr => 0x7C

/-- Every opcode, by ascending code. -/
def all : List Opcode :=
  [.binary .notEqual, .binary .modulo, .binary .logicalAnd, .endIndex,
    .binary .multiply, .binary .add, .separator, .binary .subtract, .binary .divide,
    .binary .less, .binary .equal, .binary .greater, .binary .bitAnd, .int8, .double,
    .scalar, .int32, .int64, .text, .binary .bitOr, .unary .negate, .binary .lessEqual,
    .startIndex, .int16, .binary .greaterEqual, .binary .bitXor, .unary .toNumber,
    .unary .toText, .array, .binary .logicalOr]

def ofCode? (b : UInt8) : Option Opcode :=
  all.find? (fun op => op.code == b)

/-- The spelling of a binary operator; other opcodes have none. -/
def symbol? : Opcode → Option String
  | .binary op => some op.symbol
  | _ => none

end Opcode

end SceneScript
