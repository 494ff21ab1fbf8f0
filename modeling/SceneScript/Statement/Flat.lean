import SceneScript.Expression.Machine
import SceneScript.Scene.Container
import SceneScript.Statement.Basic
import SceneScript.Vocabulary

/-
  The flat statements of a scene, one per instruction. The instructions take
  their attributes from one list, in order: an assignment takes two whatever
  its count says, every other instruction takes its count.
-/

namespace SceneScript

namespace Flat

/-- A computation that takes attributes from the front of a list. -/
abbrev Taker (α : Type) := StateT (List Attribute) Traced α

/-- The next attribute, for instruction number `index`. -/
def next (index : Nat) : Taker Attribute := fun attributes =>
  match attributes with
  | [] => Traced.fail (.missingAttribute index)
  | a :: rest => pure (a, rest)

/-- Pass over the next `n` attributes. -/
def drop (index : Nat) : Nat → Taker Unit
  | 0 => pure ()
  | n + 1 => do
    let _ ← next index
    drop index n

/-- The keyword of an instruction; one without a name is numbered. -/
def keyword (v : Vocabulary) (i : Instruction) : Traced Keyword :=
  match v.commandName? i.opcode with
  | some name => return .ofSpelling name
  | none => do
    Traced.report (.namelessCommand i.opcode)
    return .other ("CMD_" ++ padZeros 2 (upperHex i.opcode.toNat))

/-- The name of an attribute; one without a name is numbered. -/
def attributeName (v : Vocabulary) (i : Instruction) (a : Attribute) : Traced String :=
  match v.attributeName? i.opcode a.id with
  | some name => return name
  | none => do
    Traced.report (.namelessAttribute a.id i.opcode)
    return "arg" ++ toString a.id.toNat

/-- The operator that a destination's flavour stands for. -/
def assignmentOperator (subType : UInt8) : String :=
  if subType = 1 then "+=" else if subType = 2 then "-=" else "="

/-- Take one attribute as a named argument of `s`. -/
def takeArgument (v : Vocabulary) (d : TextDecoder) (index : Nat) (i : Instruction)
    (s : Statement) : Taker Statement := do
  let a ← next index
  let value ← Expression.text d a.value
  let name ← attributeName v i a
  return s.addArgument name value

def takeArguments (v : Vocabulary) (d : TextDecoder) (index : Nat) (i : Instruction) :
    Nat → Statement → Taker Statement
  | 0, s => pure s
  | n + 1, s => do
    let s ← takeArgument v d index i s
    takeArguments v d index i n s

/-- A conditional, an alternative or a loop shows its first attribute only. -/
def takeCondition (v : Vocabulary) (d : TextDecoder) (index : Nat) (i : Instruction)
    (s : Statement) : Taker Statement := do
  match i.attributeCount.toNat with
  | 0 => return s
  | n + 1 =>
    let s ← takeArgument v d index i s
    drop index n
    return s

/-- An assignment has a destination and a source. -/
def takeAssignment (d : TextDecoder) (index : Nat) (i : Instruction) (s : Statement) :
    Taker Statement := do
  if i.attributeCount ≠ 2 then
    Traced.report (.assignmentArity index i.attributeCount)
  let destination ← next index
  let source ← next index
  let left ← Expression.text d destination.value
  let right ← Expression.text d source.value
  return ((s.addArgument "Operand1" left).addArgument "Operation"
    (assignmentOperator destination.subType)).addArgument "Operand2" right

/-- The statement of instruction number `index`. -/
def statement (v : Vocabulary) (d : TextDecoder) (index : Nat) (i : Instruction) :
    Taker Statement := do
  let k ← keyword v i
  let s := Statement.ofKeyword k
  match k with
  | .conditional | .alternative | .loop => takeCondition v d index i s
  | .assignment => takeAssignment d index i s
  | _ => takeArguments v d index i i.attributeCount.toNat s

/-- The statements of instructions, the first being number `index`. -/
def statements (v : Vocabulary) (d : TextDecoder) :
    Nat → List Instruction → Taker (List Statement)
  | _, [] => pure []
  | index, i :: rest => do
    let s ← statement v d index i
    let ss ← statements v d (index + 1) rest
    return s :: ss

end Flat

/-- The statements of a scene before any nesting, one per instruction. -/
def Scene.flatStatements (scene : Scene) (v : Vocabulary) (d : TextDecoder) :
    Traced (List Statement) := do
  let (statements, leftover) ← Flat.statements v d 0 scene.instructions scene.attributes
  if leftover.length > 0 then
    Traced.report (.leftoverAttributes leftover.length)
  return statements

end SceneScript
