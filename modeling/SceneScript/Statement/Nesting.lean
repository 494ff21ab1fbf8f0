import SceneScript.LabelIndex
import SceneScript.Statement.Basic
import SceneScript.Traced

/-
  Block structure from the flat statements of a script. Openers wait on a
  stack; a closer takes everything above the innermost opener of its kind as
  that opener's body.

    opener                     closer             what becomes of the closer
    label                      label return       it ends the body
    word                       word return        it ends the body
    conditional, alternative   conditional end    it stays after the block
    conditional, alternative   branch end         it is dropped
    loop                       loop end           it stays after the block

  A body is in source order, but for that of a loop, which has its last
  statement first.

  A closed opener goes back on the stack and is passed over by later closers.
  A return without an opener takes everything into an empty frame; the other
  closers fail, and the statements they went through are lost.
-/

namespace SceneScript

/-- A script half nested. -/
structure Nesting where
  /-- Finished and waiting statements, the latest first. -/
  stack : List Statement
  /-- How many statements have been taken in. -/
  count : Nat
  /-- The labels still to come. -/
  pending : List Label
  deriving Repr

namespace Nesting

/-- Before the first statement of a script with these labels. -/
def ofLabels (labels : List Label) : Nesting := ⟨[], 0, labels⟩

/-- Whether a label stands before statement number `count`. -/
def isDue (count : Nat) (l : Label) : Bool := l.offset.toNat == count

/-- Put the labels that are due on the stack. -/
def placeLabels (n : Nesting) : Nesting :=
  let due := n.pending.takeWhile (isDue n.count)
  { n with
    stack := (due.map (fun l => Statement.ofLabel l.name)).reverse ++ n.stack
    pending := n.pending.dropWhile (isDue n.count) }

/-- Split a stack at its topmost opener: what lies above, the opener, what
lies below. -/
def splitAtOpener (isOpener : Statement → Bool) :
    List Statement → Option (List Statement × Statement × List Statement)
  | [] => none
  | s :: rest =>
    if isOpener s then some ([], s, rest)
    else (splitAtOpener isOpener rest).map (fun (above, opener, below) =>
      (s :: above, opener, below))

/-- Close the topmost open block of the given kind with a return. -/
def closeReturn (opener : Keyword) (s : Statement) (stack : List Statement) :
    List Statement :=
  match splitAtOpener (·.isOpen opener) stack with
  | some (above, frame, below) => frame.close (s :: above).reverse :: below
  | none => [Statement.emptyFrame.close (s :: stack).reverse]

/-- Close the topmost open conditional or alternative. -/
def closeConditional (stack : List Statement) : Except Fault (List Statement) :=
  match splitAtOpener (fun s => s.isOpen .conditional || s.isOpen .alternative) stack with
  | some (above, frame, below) => .ok (frame.close above.reverse :: below)
  | none => .error (.stackUnderflow .conditionalClose)

/-- Close the topmost open loop. -/
def closeLoop (stack : List Statement) : Except Fault (List Statement) :=
  match splitAtOpener (·.isOpen .loop) stack with
  | some (above, frame, below) => .ok (frame.close above :: below)
  | none => .error (.stackUnderflow .loopClose)

/-- The stack after one more statement. -/
def place (s : Statement) (stack : List Statement) : Except Fault (List Statement) :=
  match s.keyword with
  | .labelReturn => .ok (closeReturn .label s stack)
  | .wordReturn => .ok (closeReturn .word s stack)
  | .branchEnd => closeConditional stack
  | .conditionalEnd => (s :: ·) <$> closeConditional stack
  | .loopEnd => (s :: ·) <$> closeLoop stack
  | _ => .ok (s :: stack)

/-- Take in one more statement. On a fault the stack is gone, the labels that
were due are used up, and the count stands still. -/
def push (s : Statement) (n : Nesting) : Nesting × Except Fault Unit :=
  let n := n.placeLabels
  match place s n.stack with
  | .ok stack => ({ n with stack := stack, count := n.count + 1 }, .ok ())
  | .error f => ({ n with stack := [] }, .error f)

/-- The statements in source order, with a warning for every label that
points past the end. -/
def finish (n : Nesting) : Traced (List Statement) :=
  let n := n.placeLabels
  ⟨n.pending.map (fun l => .strayLabel l.name l.offset n.count), .ok n.stack.reverse⟩

/-- Take in statements up to the first fault. -/
def pushAll : List Statement → Nesting → Except Fault Nesting
  | [], n => .ok n
  | s :: rest, n =>
    match n.push s with
    | (next, .ok ()) => pushAll rest next
    | (_, .error f) => .error f

end Nesting

/-- The nested statements of a script. `labels` are those of the script, by
ascending offset. -/
def nest (labels : List Label) (flat : List Statement) : Traced (List Statement) := do
  let n ← Traced.ofExcept (Nesting.pushAll flat (Nesting.ofLabels labels))
  n.finish

end SceneScript
