/-
  The keywords of statements. Eighteen commands are written or nested in a way
  of their own; every other command keeps the name the vocabulary gives it.
-/

namespace SceneScript

/-- What kind of statement a line is. -/
inductive Keyword where
  /-- Gives a variable a value. -/
  | assignment
  /-- A place that can be jumped to; opens a block. -/
  | label
  /-- Opens a block that runs if its condition holds. -/
  | conditional
  /-- Opens the block that runs otherwise. -/
  | alternative
  /-- Closes the last block of a conditional. -/
  | conditionalEnd
  /-- Closes a block of a conditional that an alternative follows. -/
  | branchEnd
  /-- Opens a block that is repeated. -/
  | loop
  /-- Closes a repeated block. -/
  | loopEnd
  | loopBreak
  | loopContinue
  /-- Ends the script. -/
  | scriptEnd
  /-- Closes the block of a label. -/
  | labelReturn
  /-- Closes the block of a word. -/
  | wordReturn
  /-- Opens a block with a name of its own. -/
  | word
  /-- Declares a number that keeps its value. -/
  | staticInt
  /-- Declares a text that keeps its value. -/
  | staticText
  /-- Declares a number. -/
  | int
  /-- Declares a text. -/
  | text
  /-- Any other command. -/
  | other (name : String)
  deriving DecidableEq, Repr

namespace Keyword

def spelling : Keyword → String
  | .assignment => "LET"
  | .label => "LABEL"
  | .conditional => "IF"
  | .alternative => "ELSE"
  | .conditionalEnd => "IFEND"
  | .branchEnd => "IFBLEND"
  | .loop => "LOOP"
  | .loopEnd => "LOOPEND"
  | .loopBreak => "LOOPBREAK"
  | .loopContinue => "LOOPCONTINUE"
  | .scriptEnd => "END"
  | .labelReturn => "RETURN"
  | .wordReturn => "RETURNCODE"
  | .word => "WORD"
  | .staticInt => "S_INT"
  | .staticText => "S_STR"
  | .int => "INT"
  | .text => "STR"
  | .other name => name

/-- The keywords with a meaning of their own. -/
def known : List Keyword :=
  [.assignment, .label, .conditional, .alternative, .conditionalEnd, .branchEnd,
    .loop, .loopEnd, .loopBreak, .loopContinue, .scriptEnd, .labelReturn, .wordReturn,
    .word, .staticInt, .staticText, .int, .text]

def isKnown : Keyword → Bool
  | .other _ => false
  | _ => true

/-- The keyword with a given spelling. -/
def ofSpelling (name : String) : Keyword :=
  (known.find? (fun k => k.spelling == name)).getD (.other name)

end Keyword

end SceneScript
