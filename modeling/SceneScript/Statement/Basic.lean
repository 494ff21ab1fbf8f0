import SceneScript.Statement.Keyword

/-
  Statements: a keyword with named arguments and, for the opener of a block, a
  body of further statements.
-/

namespace SceneScript

/-- One statement of a script. -/
structure Statement where
  keyword : Keyword
  names : List String
  values : List String
  /-- The body of a block, empty until the block is closed. -/
  children : List Statement
  /-- Whether this opened a block that has been closed. -/
  closed : Bool
  deriving BEq, Repr

namespace Statement

def ofKeyword (keyword : Keyword) : Statement := ⟨keyword, [], [], [], false⟩

def addArgument (s : Statement) (name value : String) : Statement :=
  { s with names := s.names ++ [name], values := s.values ++ [value] }

/-- The statement that marks a label. -/
def ofLabel (name : String) : Statement :=
  (ofKeyword .label).addArgument "LabelName" name

/-- The parent of a body whose opener is missing. -/
def emptyFrame : Statement := ofKeyword (.other "")

instance : Inhabited Statement := ⟨emptyFrame⟩

def name? (s : Statement) (i : Nat) : Option String := s.names[i]?

def value? (s : Statement) (i : Nat) : Option String := s.values[i]?

/-- Whether this opens a block of the given kind that is still open. -/
def isOpen (s : Statement) (keyword : Keyword) : Bool :=
  !s.closed && s.keyword == keyword

/-- The statement with a body, closed. -/
def close (s : Statement) (body : List Statement) : Statement :=
  { s with children := body, closed := true }

end Statement

end SceneScript
