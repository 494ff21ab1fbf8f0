import SceneScript.CommandLine.Path
import SceneScript.LabelIndex
import SceneScript.Text.Encoding
import SceneScript.Vocabulary

/-
  The arguments of a run, and what the command line leaves to other libraries:
  the reading of arguments and the spelling of the tables. A run is the same
  whichever these are.
-/

namespace SceneScript

structure Arguments where
  scene : Path
  labels : Path
  vocabulary : Path
  /-- The script index, if it is not to be taken from the file name. -/
  index : Option UInt16
  /-- Where the listing goes; standard output if there is none. -/
  output : Option Path
  encoding : Encoding
  /-- Where the tables go, if they are asked for. -/
  tables : Option Path
  verbose : Bool
  deriving DecidableEq, Repr

/-- What stands in for a run if the arguments lead to none. -/
structure Refusal where
  text : String
  /-- Whether the text is what was asked for and no complaint. -/
  wanted : Bool
  code : UInt32
  deriving DecidableEq, Repr

/-- What a run leaves to other libraries. -/
structure Libraries where
  /-- The arguments in the words of a command line, which are bytes. -/
  arguments : List (List UInt8) → Except Refusal Arguments
  /-- The tables of a script as text: its index, its labels and the vocabulary. -/
  tables : UInt16 → List Label → Vocabulary → String

end SceneScript
