import SceneScript.LabelIndex
import SceneScript.Vocabulary
import SceneScript.Yaml.Scalar

/-
  The tables of a script as a YAML document: its index, its labels and the
  vocabulary. Lists are not indented below their key, and an empty one is
  written on the line of its key.
-/

namespace SceneScript

namespace Yaml

/-- A key with a list under it, each item already written. -/
def keyedList (indent key : String) (items : List String) : String :=
  if items.isEmpty then indent ++ key ++ ": []\n"
  else indent ++ key ++ ":\n" ++ String.join items

def labelItem (l : Label) : String :=
  "- name: " ++ scalar 4 l.name ++
    "  id: " ++ toString l.id.toNat ++ "\n" ++
    "  offset: " ++ toString l.offset.toNat ++ "\n" ++
    "  script_index: " ++ toString l.scriptIndex.toNat ++ "\n"

def commandItem (c : CommandNames) : String :=
  "  - name: " ++ scalar 6 c.name ++
    keyedList "    " "attributes" (c.attributes.map (fun a => "    - " ++ scalar 6 a))

def tables (scriptIndex : UInt16) (labels : List Label) (v : Vocabulary) : String :=
  "script_index: " ++ toString scriptIndex.toNat ++ "\n" ++
    keyedList "" "labels" (labels.map labelItem) ++
    "definition:\n" ++
    "  version: " ++ toString v.version.toNat ++ "\n" ++
    keyedList "  " "commands" (v.commands.map commandItem)

end Yaml

end SceneScript
