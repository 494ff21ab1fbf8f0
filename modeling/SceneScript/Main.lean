import SceneScript.CommandLine.FileTree
import SceneScript.CommandLine.Options
import SceneScript.CommandLine.Run

/-
  The command line program: the run of `SceneScript.Run` on the real files and
  streams. Here files are named by text, as the words of the command line are.
-/

namespace SceneScript.Console

def errorText : IO.Error → String
  | .noFileOrDirectory .. => FileError.notFound.message
  | .alreadyExists _ code details => withCode details code
  | .inappropriateType _ code details => withCode details code
  | .permissionDenied _ code details => withCode details code
  | .resourceExhausted _ code details => withCode details code
  | .resourceBusy code details => withCode details code
  | .otherError code details => withCode details code
  | e => toString e
where
  /-- A description and the number of the error. -/
  withCode (details : String) (code : UInt32) : String :=
    details ++ " (os error " ++ toString code.toNat ++ ")"

/-- An operation with its failure as a value. -/
def attempt {α : Type} (operation : IO α) : IO (Except String α) := do
  match ← operation.toBaseIO with
  | .ok a => return .ok a
  | .error e => return .error (errorText e)

/-- The folder that is to hold a file; no bytes for the working folder. -/
def folderOf (path : Path) : Path :=
  ⟨(if path.isAbsolute then [Path.slash] else []) ++
    [Path.slash].intercalate path.parts.dropLast⟩

/-- The real files and streams. -/
def host : Host IO where
  read path := attempt do return (← IO.FS.readBinFile path.display).toList
  makeFolderFor path := attempt do
    if (folderOf path).bytes ≠ [] then IO.FS.createDirAll (folderOf path).display
  write path text := attempt (IO.FS.writeFile path.display text)
  print text := attempt do
    let out ← IO.getStdout
    out.putStr text
    out.flush
  complain line := IO.eprintln line

end SceneScript.Console

/-- List a compiled scene script. -/
def main (arguments : List String) : IO UInt32 :=
  SceneScript.Run.run .standard SceneScript.Console.host
    (arguments.map SceneScript.Text.Utf8.encode)
