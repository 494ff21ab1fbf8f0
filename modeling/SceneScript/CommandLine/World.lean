import SceneScript.CommandLine.FileTree
import SceneScript.CommandLine.Run

/-
  A host that is a value: a file tree and the two output streams. A run in it
  is a function from the words and the tree to an exit code and the world
  it leaves behind.
-/

namespace SceneScript

/-- A host that is a value: a file tree and what was written to the two output
streams. -/
structure World where
  tree : FileTree
  stdout : String
  /-- The lines of standard error, in order. -/
  stderr : List String
  deriving DecidableEq, Repr

namespace World

/-- A world with nothing written yet. -/
def ofTree (tree : FileTree) : World := ⟨tree, "", []⟩

/-- Change the tree, or say why not. -/
def change (f : FileTree → Except FileError FileTree) : StateM World (Except String Unit) :=
  fun w =>
    match f w.tree with
    | .ok tree => (.ok (), { w with tree })
    | .error e => (.error e.message, w)

def host : Host (StateM World) where
  read path := fun w => ((w.tree.read path).mapError FileError.message, w)
  makeFolderFor path := change (fun t => t.makeFolderFor path)
  write path text := change (fun t => t.write path (Text.Utf8.encode text))
  print text := fun w => (.ok (), { w with stdout := w.stdout ++ text })
  complain line := fun w => ((), { w with
    stderr := w.stderr ++ (Path.split '\n' line.toList).map String.ofList })

/-- The exit code of a command line in a tree, and the world it leaves. -/
def run (libraries : Libraries) (words : List (List UInt8)) (tree : FileTree) :
    UInt32 × World :=
  (Run.run libraries host words : StateM World UInt32) (ofTree tree)

end World

end SceneScript
