import SceneScript.Bytes.Parser
import SceneScript.Decimal.Fixed
import SceneScript.Expression.Opcode

/-
  Expression bytecode as text. The value of an attribute is a small postfix
  program: each instruction is an opcode byte, a length of two bytes that only
  string literals use, and an operand. The program runs on a stack of text
  fragments, and the fragment on top at the end is the expression.

  Reading an instruction (`Action.read`) and its effect on the stack
  (`Action.apply`) are kept apart: an instruction is read whole before it
  touches the stack.
-/

namespace SceneScript.Expression

/-- What lies on the stack. -/
inductive Fragment where
  | text (t : String)
  /-- The place where an index was opened. -/
  | opening
  deriving DecidableEq, Repr

/-- The fragment as operand text: a stray opening is its parenthesis. -/
def Fragment.spelling : Fragment → String
  | .text t => t
  | .opening => "("

inductive Action where
  | push (t : String)
  /-- Push an array's name and open its index. -/
  | openIndex (name : String)
  | closeIndex
  | unary (op : UnaryOperator)
  | binary (op : BinaryOperator)
  | ignore
  deriving DecidableEq, Repr

/-- A stack of fragments, the topmost first. -/
abbrev Stack := List Fragment

/-- Take the topmost fragment. -/
def pop (activity : Activity) : Stack → Except Fault (String × Stack)
  | [] => .error (.stackUnderflow activity)
  | f :: rest => .ok (f.spelling, rest)

/-- Take everything above the innermost opening, and the opening; the result
is the fragments joined in the order they were pushed. -/
def popIndex : Stack → Except Fault (String × Stack)
  | [] => .error (.stackUnderflow .indexClose)
  | .opening :: rest => .ok ("", rest)
  | .text t :: rest => do
    let (front, below) ← popIndex rest
    return (front ++ t, below)

def unaryActivity : UnaryOperator → Activity
  | .negate => .negation
  | .toNumber => .toNumber
  | .toText => .toText

def Action.apply (action : Action) (stack : Stack) : Except Fault Stack :=
  match action with
  | .push t => .ok (.text t :: stack)
  | .openIndex name => .ok (.opening :: .text name :: stack)
  | .closeIndex => do
    let (index, below) ← popIndex stack
    let (name, rest) ← pop .indexedVariable below
    return .text (name ++ "(" ++ index ++ ")") :: rest
  | .unary op => do
    let (x, rest) ← pop (unaryActivity op) stack
    return .text (op.wrap x) :: rest
  | .binary op => do
    let (second, below) ← pop .binaryOperand stack
    let (first, rest) ← pop .binaryOperand below
    return .text (first ++ " " ++ op.symbol ++ " " ++ second) :: rest
  | .ignore => .ok stack

/-- The number of a variable in signed hexadecimal. -/
def variableNumber (id : Int16) : String :=
  (if id.toInt < 0 then "-" else "") ++ lowerHex id.toInt.natAbs

/-- Read a variable: a sigil of one byte and a number. -/
def readVariable (d : TextDecoder) : Parser String := do
  let sigil ← Parser.text d 1
  let id ← Parser.int16
  return sigil ++ "var" ++ variableNumber id

/-- Read the operand of an opcode, `len` being its length field. -/
def readOperand (d : TextDecoder) (len : Nat) : Opcode → Parser Action
  | .binary op => return .binary op
  | .unary op => return .unary op
  | .int8 => return .push (toString (← Parser.byte).toNat)
  | .int16 => return .push (toString (← Parser.int16).toInt)
  | .int32 => return .push (toString (← Parser.int32).toInt)
  | .int64 => return .push (toString (← Parser.int64).toInt)
  | .double => return .push (Decimal.fixed 6 (← Parser.word64))
  | .text => return .push (← Parser.text d len)
  | .scalar => return .push (← readVariable d)
  | .array => return .push ((← readVariable d) ++ "()")
  | .startIndex => return .openIndex (← readVariable d)
  | .separator => return .push ", "
  | .endIndex => do
    Parser.skip 1
    return .closeIndex

def Action.read (d : TextDecoder) : Parser Action := do
  let code ← Parser.byte
  let len ← Parser.word16
  match Opcode.ofCode? code with
  | some op => readOperand d len.toNat op
  | none =>
    Traced.report (.unknownOpcode code)
    return .ignore

/-- The text on top of the final stack. -/
def result (stack : Stack) : Except Fault String := do
  let (text, _) ← pop .expressionResult stack
  return text

/-- Run at most `fuel` instructions. Each takes three bytes at least, so the
number of bytes left is fuel enough to reach the end. -/
def run (d : TextDecoder) : Nat → Stack → Parser String
  | 0, stack => Traced.ofExcept (result stack)
  | fuel + 1, stack => do
    if (← get).atEnd then Traced.ofExcept (result stack)
    else
      let action ← Action.read d
      let next ← Traced.ofExcept (action.apply stack)
      run d fuel next

/-- The text of an expression. -/
def text (d : TextDecoder) (bytes : List UInt8) : Traced String :=
  Parser.runOn (run d bytes.length []) bytes

end SceneScript.Expression
