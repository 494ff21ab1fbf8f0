import SceneScript.Statement.Basic

/-
  The listing: statements as indented text. Each statement is one line; a body
  follows between braces on lines of their own, two columns further in. A
  blank line follows every statement of the top level.
-/

namespace SceneScript

namespace Statement

/-- The condition of a loop that is left only from inside. -/
def endless : String := "255"

/-- The initial value that a declaration does not show. -/
def zero : String := "0"

/-- The arguments as `name=value`, separated by blanks. -/
def argumentText (s : Statement) : String :=
  String.intercalate " " (List.zipWith (fun name value => name ++ "=" ++ value) s.names s.values)

/-- The line of a statement, without its body. -/
def headText (s : Statement) : String :=
  let value (i : Nat) : String := (s.value? i).getD ""
  match s.keyword with
  | .assignment => value 0 ++ " " ++ value 1 ++ " " ++ value 2
  | .label => "#=" ++ value 0
  | .conditional | .alternative => s.keyword.spelling ++ "[" ++ value 0 ++ "]"
  | .loop =>
    match s.value? 0 with
    | some condition =>
      if condition = endless then "LOOP[]"
      else "LOOP[" ++ (s.name? 0).getD "" ++ " = " ++ condition ++ "]"
    | none => "LOOP[]"
  | .conditionalEnd | .loopEnd | .loopBreak | .loopContinue | .scriptEnd =>
    s.keyword.spelling ++ "[]"
  | .staticInt | .staticText | .int | .text =>
    let initial :=
      match s.value? 1 with
      | some v => if v = zero then "" else " = " ++ v
      | none => ""
    s.keyword.spelling ++ "[" ++ value 0 ++ initial ++ "]"
  | .branchEnd | .labelReturn | .wordReturn | .word | .other _ =>
    s.keyword.spelling ++ "[" ++ s.argumentText ++ "]"

def blanks (n : Nat) : String := String.ofList (List.replicate n ' ')

mutual

/-- A statement and its body, starting at column `indent`. -/
def listing (indent : Nat) (s : Statement) : String :=
  match s with
  | ⟨keyword, names, values, children, closed⟩ =>
    let head := blanks indent ++ headText ⟨keyword, names, values, [], closed⟩ ++ "\n"
    if children.isEmpty then head
    else
      head ++ blanks indent ++ "\x7b\n" ++ listings (indent + 2) children ++
        blanks indent ++ "\x7d\n"

/-- Statements one after the other, starting at column `indent`. -/
def listings (indent : Nat) (statements : List Statement) : String :=
  match statements with
  | [] => ""
  | s :: rest => listing indent s ++ listings indent rest

end

/-- The listing of a script, a blank line after each of its statements. -/
def scriptListing (statements : List Statement) : String :=
  String.join (statements.map (fun s => listing 0 s ++ "\n"))

end Statement

end SceneScript
