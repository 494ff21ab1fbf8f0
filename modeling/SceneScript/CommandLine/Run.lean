import SceneScript.Bundle
import SceneScript.CommandLine.Arguments
import SceneScript.CommandLine.Host

/-
  One run of the command line, on any host and with any reading of arguments.
  The script index is settled first, then all three resources are read, and only
  then is anything written: the tables, if they are asked for, and the listing.
  So a run may write over its own input.
-/

namespace SceneScript

/-- An event as a line of standard error: its level, five columns wide, its
origin and its message, the lines of which are indented after the first. -/
def Event.logLine (e : Event) : String :=
  let level := e.level.name
  "[" ++ level ++ String.ofList (List.replicate (5 - level.length) ' ') ++ " " ++ e.origin ++
    "] " ++ String.join (e.message.toList.map (fun c =>
      if c = '\n' then "\n    " else c.toString))

/-- The least level that is shown. -/
def shownLevel (verbose : Bool) : Level := if verbose then .debug else .info

namespace Run

variable {m : Type → Type} [Monad m]

/-- A step of a run that may fail. -/
abbrev Step (m : Type → Type) (α : Type) := ExceptT Failure m α

/-- Write the events that are shown. -/
def showEvents (host : Host m) (verbose : Bool) : List Event → m Unit
  | [] => pure ()
  | e :: rest => do
    if (shownLevel verbose).rank ≤ e.level.rank then host.complain e.logLine
    showEvents host verbose rest

/-- Show the events of a computation and go on with its result; its fault is
reported as the cause of `context`. -/
def traced {α : Type} (host : Host m) (verbose : Bool) (context : String) (t : Traced α) :
    Step m α := ExceptT.mk do
  showEvents host verbose t.events
  return t.outcome.mapError (fun f => ⟨context, some f.message⟩)

/-- A host operation whose failure is reported as it is. -/
def bare {α : Type} (operation : m (Except String α)) : Step m α :=
  ExceptT.mk do return (← operation).mapError (fun e => ⟨e, none⟩)

/-- A host operation whose failure is reported as the cause of `context`. -/
def within {α : Type} (context : String) (operation : m (Except String α)) : Step m α :=
  ExceptT.mk do return (← operation).mapError (fun e => ⟨context, some e⟩)

def chooseIndex (a : Arguments) : Except Failure UInt16 :=
  match a.index with
  | some i => .ok i
  | none =>
    match Path.scriptIndex? a.scene with
    | some i => .ok i
    | none =>
      .error ⟨"cannot infer the script index from " ++ a.scene.display ++ "; pass --index", none⟩

def readFile (host : Host m) (path : Path) : Step m (List UInt8) :=
  within ("failed to read " ++ path.display) (host.read path)

def readBundle (host : Host m) (a : Arguments) : Step m Bundle := do
  let scene ← readFile host a.scene
  let labels ← readFile host a.labels
  let vocabulary ← readFile host a.vocabulary
  return ⟨scene, labels, vocabulary⟩

def writeTables (libraries : Libraries) (host : Host m) (a : Arguments) (index : UInt16)
    (b : Bundle) (path : Path) : Step m Unit := do
  let d := a.encoding.decoder
  let vocabulary ← traced host a.verbose "parsing compiler definition"
    (Vocabulary.parse d b.vocabulary)
  let labels ← traced host a.verbose "parsing label table" (LabelIndex.parse d b.labels)
  bare (host.makeFolderFor path)
  bare (host.write path (libraries.tables index (labels.ofScript index) vocabulary))
  ExceptT.lift (showEvents host a.verbose [.tablesWritten path.display])

def writeListing (host : Host m) (a : Arguments) (text : String) : Step m Unit := do
  match a.output with
  | some path =>
    bare (host.makeFolderFor path)
    within ("failed to write " ++ path.display) (host.write path text)
    ExceptT.lift (showEvents host a.verbose [.listingWritten path.display])
  | none => bare (host.print text)

def perform (libraries : Libraries) (host : Host m) (a : Arguments) : Step m Unit := do
  let index ← ExceptT.mk (pure (chooseIndex a))
  let b ← readBundle host a
  match a.tables with
  | some path => writeTables libraries host a index b path
  | none => pure ()
  let text ← traced host a.verbose ("decompiling " ++ a.scene.display)
    (b.listing ⟨index, a.encoding⟩)
  writeListing host a text

def complainAll (host : Host m) : List String → m Unit
  | [] => pure ()
  | line :: rest => do
    host.complain line
    complainAll host rest

/-- Show what stands in for a run. That standard output takes no text does not
count here. -/
def refuse (host : Host m) (r : Refusal) : m UInt32 := do
  if r.wanted then
    let _ ← host.print r.text
  else host.complain r.text
  return r.code

/-- Run the command line. The result is the exit code, 1 for a run that fails. -/
def run (libraries : Libraries) (host : Host m) (words : List (List UInt8)) : m UInt32 := do
  match libraries.arguments words with
  | .error r => refuse host r
  | .ok a =>
    match ← (perform libraries host a).run with
    | .ok () => return 0
    | .error f =>
      complainAll host f.lines
      return 1

end Run

end SceneScript
