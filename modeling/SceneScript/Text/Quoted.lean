import SceneScript.Hex
import SceneScript.Text.Quoted.Unshown

/-
  A text in double quotes, as messages show it. Between the quotes stand
  printable characters only; the others are escaped, by a letter if they have
  one and by their number otherwise.
-/

namespace SceneScript.Text

/-- How a character stands between double quotes. -/
def quotedChar (c : Char) : String :=
  if c = '"' then "\\\""
  else if c = '\\' then "\\\\"
  else if c = '\t' then "\\t"
  else if c = '\n' then "\\n"
  else if c = '\r' then "\\r"
  else if c.toNat = 0 then "\\0"
  else if isUnshown c then "\\u\x7b" ++ lowerHex c.toNat ++ "\x7d"
  else c.toString

/-- The text in double quotes. -/
def quoted (text : String) : String :=
  "\"" ++ String.join (text.toList.map quotedChar) ++ "\""

end SceneScript.Text
