import SceneScript.CommandLine.Path

/-
  What a run of the command line needs from the outside, and how it fails.
-/

namespace SceneScript

/-- What a run needs from the outside. A failed operation gives its wording. -/
structure Host (m : Type → Type) where
  read : Path → m (Except String (List UInt8))
  /-- Make the folder a file is to be written in. -/
  makeFolderFor : Path → m (Except String Unit)
  write : Path → String → m (Except String Unit)
  /-- Write a text to standard output. -/
  print : String → m (Except String Unit)
  /-- Write a line to standard error. -/
  complain : String → m Unit

/-- Why a run failed: a message, with its cause if the message only says where
it arose. -/
structure Failure where
  message : String
  cause : Option String
  deriving DecidableEq, Repr

/-- The lines a failure is reported with. -/
def Failure.lines (f : Failure) : List String :=
  match f.cause with
  | none => ["Error: " ++ f.message]
  | some cause => ["Error: " ++ f.message, "", "Caused by:", "    " ++ cause]

end SceneScript
