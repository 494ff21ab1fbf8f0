import SceneScript.Expression.Machine
import SceneScript.Proofs.Bytes.Reading

/-
  The instructions of expressions and their bytes. Code is a relation (`Code`),
  for much in it is free: the length field of everything but a text, and the
  byte after the end of an index. Wherever the bytes of an instruction stand,
  they are read as its action (`reads_action`), and of a program only the
  actions of its instructions take effect (`applyAll`).
-/

namespace SceneScript.Expression

/-- What stands in an expression by itself. -/
inductive Leaf where
  | int8 (n : UInt8)
  | int16 (n : Int16)
  | int32 (n : Int32)
  | int64 (n : Int64)
  /-- A floating-point number, by its bits. -/
  | double (bits : UInt64)
  | text (bytes : List UInt8) (short : bytes.length < 65536)
  | scalar (sigil : UInt8) (id : Int16)
  | array (sigil : UInt8) (id : Int16)

/-- The literal that looks like the start of an index. -/
def Leaf.parenthesis : Leaf :=
  .text [0x28] (by decide)

/-- One instruction with its operand. -/
inductive Instr where
  | leaf (l : Leaf)
  | openIndex (sigil : UInt8) (id : Int16)
  | separator
  | closeIndex
  | unary (op : UnaryOperator)
  | binary (op : BinaryOperator)

/-! ## Text -/

/-- A number in lower-case hexadecimal, with its sign if it is negative. -/
def signedHex (n : Int) : String :=
  (if n < 0 then "-" else "") ++ String.ofList (Nat.toDigits 16 n.natAbs)

def variableName (d : TextDecoder) (sigil : UInt8) (id : Int16) : String :=
  (d.decode [sigil]).text ++ "var" ++ signedHex id.toInt

def Leaf.spelling (d : TextDecoder) : Leaf → String
  | .int8 n => toString n.toNat
  | .int16 n => toString n.toInt
  | .int32 n => toString n.toInt
  | .int64 n => toString n.toInt
  | .double bits => Decimal.fixed 6 bits
  | .text bytes _ => (d.decode bytes).text
  | .scalar sigil id => variableName d sigil id
  | .array sigil id => variableName d sigil id ++ "()"

/-- The sign that stands between two operands. -/
def sign : BinaryOperator → String
  | .add => "+"
  | .subtract => "-"
  | .multiply => "*"
  | .divide => "/"
  | .modulo => "%"
  | .equal => "=="
  | .notEqual => "!="
  | .less => "<"
  | .lessEqual => "<="
  | .greater => ">"
  | .greaterEqual => ">="
  | .logicalAnd => "&&"
  | .logicalOr => "||"
  | .bitAnd => "&"
  | .bitOr => "|"
  | .bitXor => "^"

theorem symbol_eq_sign (op : BinaryOperator) : op.symbol = sign op := by
  cases op <;> rfl

/-! ## Code -/

def Leaf.opcode : Leaf → Opcode
  | .int8 _ => .int8
  | .int16 _ => .int16
  | .int32 _ => .int32
  | .int64 _ => .int64
  | .double _ => .double
  | .text .. => .text
  | .scalar .. => .scalar
  | .array .. => .array

def Instr.opcode : Instr → Opcode
  | .leaf l => l.opcode
  | .openIndex .. => .startIndex
  | .separator => .separator
  | .closeIndex => .endIndex
  | .unary op => .unary op
  | .binary op => .binary op

def variableBytes (sigil : UInt8) (id : Int16) : List UInt8 :=
  [sigil] ++ leBytes 2 id.toUInt16.toNat

def Leaf.operand : Leaf → List UInt8
  | .int8 n => [n]
  | .int16 n => leBytes 2 n.toUInt16.toNat
  | .int32 n => leBytes 4 n.toUInt32.toNat
  | .int64 n => leBytes 8 n.toUInt64.toNat
  | .double bits => leBytes 8 bits.toNat
  | .text bytes _ => bytes
  | .scalar sigil id => variableBytes sigil id
  | .array sigil id => variableBytes sigil id

/-- The length fields and operands that an instruction may have. -/
def Instr.Allows : Instr → UInt16 → List UInt8 → Prop
  | .leaf (.text bytes _), len, operand => len.toNat = bytes.length ∧ operand = bytes
  | .leaf l, _, operand => operand = l.operand
  | .openIndex sigil id, _, operand => operand = variableBytes sigil id
  | .closeIndex, _, operand => operand.length = 1
  | _, _, operand => operand = []

/-- The bytes of some instructions. -/
inductive Code : List Instr → List UInt8 → Prop where
  | nil : Code [] []
  | cons {i : Instr} {len : UInt16} {operand code : List UInt8} {rest : List Instr}
      (h : i.Allows len operand) (hrest : Code rest code) :
      Code (i :: rest) ([i.opcode.code] ++ (leBytes 2 len.toNat ++ operand) ++ code)

theorem Code.append {is js : List Instr} {a b : List UInt8} (ha : Code is a) (hb : Code js b) :
    Code (is ++ js) (a ++ b) := by
  induction ha with
  | nil => exact hb
  | cons h _ ih =>
    rw [List.append_assoc _ _ b]
    exact .cons h ih

/-- The usual operand: a zero after the end of an index. -/
def Instr.operand : Instr → List UInt8
  | .leaf l => l.operand
  | .openIndex sigil id => variableBytes sigil id
  | .closeIndex => [0]
  | _ => []

/-- The usual bytes: the length field is the length of the operand. -/
def Instr.write (i : Instr) : List UInt8 :=
  [i.opcode.code] ++ (leBytes 2 (UInt16.ofNat i.operand.length).toNat ++ i.operand)

/-- All instructions have code. -/
theorem code_write (instrs : List Instr) : Code instrs (instrs.flatMap Instr.write) := by
  induction instrs with
  | nil => exact .nil
  | cons i rest ih =>
    have hallows : i.Allows (UInt16.ofNat i.operand.length) i.operand := by
      cases i with
      | leaf l =>
        cases l with
        | text bytes short => exact ⟨UInt16.toNat_ofNat_of_lt short, rfl⟩
        | _ => rfl
      | _ => rfl
    exact .cons hallows ih

/-! ## Reading an instruction -/

def Instr.action (d : TextDecoder) : Instr → Action
  | .leaf l => .push (l.spelling d)
  | .openIndex sigil id => .openIndex (variableName d sigil id)
  | .separator => .push ", "
  | .closeIndex => .closeIndex
  | .unary op => .unary op
  | .binary op => .binary op

theorem ofCode?_code (op : Opcode) : Opcode.ofCode? op.code = some op := by
  cases op with
  | binary op => cases op <;> rfl
  | unary op => cases op <;> rfl
  | _ => rfl

theorem reads_variable (d : TextDecoder) (sigil : UInt8) (id : Int16) :
    Parser.Reads (readVariable d) (variableBytes sigil id) (variableName d sigil id) :=
  (Parser.reads_text d rfl).bind
    ((Parser.reads_int16 id).map (fun id => (d.decode [sigil]).text ++ "var" ++ variableNumber id))

theorem reads_operand (d : TextDecoder) {i : Instr} {len : UInt16} {operand : List UInt8}
    (h : i.Allows len operand) :
    Parser.Reads (readOperand d len.toNat i.opcode) operand (i.action d) := by
  cases i with
  | leaf l =>
    cases l with
    | int8 n =>
      obtain rfl : operand = [n] := h
      exact (Parser.reads_byte n).map (fun n => Action.push (toString n.toNat))
    | int16 n =>
      obtain rfl : operand = leBytes 2 n.toUInt16.toNat := h
      exact (Parser.reads_int16 n).map (fun n => Action.push (toString n.toInt))
    | int32 n =>
      obtain rfl : operand = leBytes 4 n.toUInt32.toNat := h
      exact (Parser.reads_int32 n).map (fun n => Action.push (toString n.toInt))
    | int64 n =>
      obtain rfl : operand = leBytes 8 n.toUInt64.toNat := h
      exact (Parser.reads_int64 n).map (fun n => Action.push (toString n.toInt))
    | double bits =>
      obtain rfl : operand = leBytes 8 bits.toNat := h
      exact (Parser.reads_word64 bits).map (fun bits => Action.push (Decimal.fixed 6 bits))
    | text bytes short =>
      obtain ⟨hlen, rfl⟩ : len.toNat = bytes.length ∧ operand = bytes := h
      exact (Parser.reads_text d hlen.symm).map Action.push
    | scalar sigil id =>
      obtain rfl : operand = variableBytes sigil id := h
      exact (reads_variable d sigil id).map Action.push
    | array sigil id =>
      obtain rfl : operand = variableBytes sigil id := h
      exact (reads_variable d sigil id).map (fun name => Action.push (name ++ "()"))
  | openIndex sigil id =>
    obtain rfl : operand = variableBytes sigil id := h
    exact (reads_variable d sigil id).map Action.openIndex
  | closeIndex => exact (Parser.reads_skip h).map (fun _ => Action.closeIndex)
  | separator =>
    obtain rfl : operand = [] := h
    exact Parser.Reads.pure _
  | unary op =>
    obtain rfl : operand = [] := h
    exact Parser.Reads.pure _
  | binary op =>
    obtain rfl : operand = [] := h
    exact Parser.Reads.pure _

theorem reads_action (d : TextDecoder) {i : Instr} {len : UInt16} {operand : List UInt8}
    (h : i.Allows len operand) :
    Parser.Reads (Action.read d) ([i.opcode.code] ++ (leBytes 2 len.toNat ++ operand))
      (i.action d) := by
  refine (Parser.reads_byte i.opcode.code).bind ((Parser.reads_word16 len).bind ?_)
  rw [ofCode?_code]
  exact reads_operand d h

/-! ## Effects on the stack -/

/-- The stack after some actions, or the first fault. -/
def applyAll : List Action → Stack → Except Fault Stack
  | [], stack => .ok stack
  | a :: rest, stack => (a.apply stack).bind (applyAll rest)

theorem applyAll_append (as bs : List Action) (stack : Stack) :
    applyAll (as ++ bs) stack = (applyAll as stack).bind (applyAll bs) := by
  induction as generalizing stack with
  | nil => rfl
  | cons a rest ih =>
    show (a.apply stack).bind (applyAll (rest ++ bs)) =
      ((a.apply stack).bind (applyAll rest)).bind (applyAll bs)
    cases a.apply stack with
    | error f => rfl
    | ok next => exact ih next

end SceneScript.Expression
