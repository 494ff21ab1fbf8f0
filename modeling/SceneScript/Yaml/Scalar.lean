import SceneScript.Decimal.Numeral
import SceneScript.Hex

/-
  Texts as YAML scalars in block style. A text is written plain unless it
  would then be read as something else: as a null, a truth value or a number,
  or as the sign of some structure. Such a text is written in single quotes,
  with the quotes inside doubled. A text of several lines is written as a block
  of its own, and one with characters that cannot be shown in double quotes, with
  escapes.
-/

namespace SceneScript.Yaml

/-- The texts that stand for nothing. -/
def nulls : List String := ["null", "Null", "NULL", "~"]

/-- The texts that stand for a truth value. -/
def truthValues : List String := ["true", "True", "TRUE", "false", "False", "FALSE"]

/-- The texts that stand for an infinite number or for no number. -/
def specialNumbers : List String :=
  [".inf", ".Inf", ".INF", "+.inf", "+.Inf", "+.INF", "-.inf", "-.Inf", "-.INF",
    ".nan", ".NaN", ".NAN"]

/-- A text without the plus or minus in front. -/
def unsigned (text : List Char) : List Char :=
  match text with
  | '+' :: rest => rest
  | '-' :: rest => rest
  | _ => text

/-- Digits with a zero in front, after an optional sign: no number, but easily
taken for one. -/
def isZeroPadded (text : List Char) : Bool :=
  match unsigned text with
  | '0' :: d :: rest => (d :: rest).all Char.isDigit
  | _ => false

/-- Whether a character is a digit in the given base, at most 16. -/
def isDigitIn (base : Nat) (c : Char) : Bool :=
  if c.isDigit then c.toNat - '0'.toNat < base
  else if 'a' ≤ c ∧ c ≤ 'f' then c.toNat - 'a'.toNat + 10 < base
  else if 'A' ≤ c ∧ c ≤ 'F' then c.toNat - 'A'.toNat + 10 < base
  else false

def digitValue (c : Char) : Nat :=
  if c.isDigit then Decimal.digitValue c
  else if 'a' ≤ c then c.toNat - 'a'.toNat + 10
  else c.toNat - 'A'.toNat + 10

/-- Whether `digits` spell a number in a base, one digit at least, that is at
most `limit`. -/
def isNumeral (base limit : Nat) (digits : List Char) : Bool :=
  digits ≠ [] && digits.all (isDigitIn base) &&
    decide (digits.foldl (fun n c => n * base + digitValue c) 0 ≤ limit)

/-- Whether a text without sign is an integer with a base in front, or a
decimal one, of absolute value at most `limit`. -/
def isIntegerBody (limit : Nat) (text : List Char) : Bool :=
  match text with
  | '0' :: 'x' :: digits => isNumeral 16 limit digits
  | '0' :: 'o' :: digits => isNumeral 8 limit digits
  | '0' :: 'b' :: digits => isNumeral 2 limit digits
  | _ => isNumeral 10 limit text

/-- Whether a text is an integer of 128 bits. -/
def isInteger (text : List Char) : Bool :=
  !isZeroPadded text &&
    match text with
    | '+' :: body => isIntegerBody (Nat.pow 2 128 - 1) body
    | '-' :: body => isIntegerBody (Nat.pow 2 127) body
    | body => isIntegerBody (Nat.pow 2 128 - 1) body

/-- Whether `digits · 10^(up - down)` is less than what a double rounds to
infinity. -/
def isFiniteDouble (digits : List Char) (up down : Nat) : Bool :=
  let significant := digits.dropWhile (· = '0')
  let d := Decimal.value significant
  if d = 0 then true
  else if 310 + down < significant.length + up then false
  else if significant.length + up < 300 + down then true
  else decide (d * Nat.pow 10 up < (Nat.pow 2 54 - 1) * Nat.pow 2 970 * Nat.pow 10 down)

/-- Whether a text is the exponent of a number: an optional sign and digits. -/
def isExponent (text : List Char) : Bool := Decimal.isNumeral (unsigned text)

/-- Whether a text is a finite number in decimal notation: digits with an
optional point, one digit at least, and an optional exponent. -/
def isDecimal (text : List Char) : Bool :=
  let isMark (c : Char) : Bool := c = 'e' || c = 'E'
  let body := unsigned text
  let mantissa := body.takeWhile (fun c => !isMark c)
  let exponent := (body.dropWhile (fun c => !isMark c)).drop 1
  let whole := mantissa.takeWhile (· ≠ '.')
  let fraction := (mantissa.dropWhile (· ≠ '.')).drop 1
  let digits := whole ++ fraction
  let hasExponent := mantissa.length < body.length
  let size := Decimal.value (unsigned exponent)
  let negative := exponent.head? = some '-'
  Decimal.isNumeral digits && (!hasExponent || isExponent exponent) &&
    (if !hasExponent then isFiniteDouble digits 0 fraction.length
     else if negative then isFiniteDouble digits 0 (fraction.length + size)
     else isFiniteDouble digits size fraction.length)

/-- Whether a text would be read as something other than text. -/
def readsAsOther (text : String) : Bool :=
  text = "" || nulls.contains text || truthValues.contains text ||
    specialNumbers.contains text || isZeroPadded text.toList ||
    isInteger text.toList || isDecimal text.toList

/-- Whether a character ends a line. -/
def isBreak (c : Char) : Bool := [0x0A, 0x0D, 0x85, 0x2028, 0x2029].contains c.toNat

/-- Whether a character ends a word: a blank or a line end. -/
def isBlank (c : Char) : Bool := c = ' ' || c = '\t' || isBreak c

/-- Whether a character can be shown. -/
def isPrintable (c : Char) : Bool :=
  let n := c.toNat
  n = 0x0A || (0x20 ≤ n && n ≤ 0x7E) || (0xA0 ≤ n && n ≤ 0xFFFD && n ≠ 0xFEFF) || 0x10000 ≤ n

/-- Whether a text ends or is followed by a blank. -/
def blankOrEnd (text : List Char) : Bool :=
  match text with
  | [] => true
  | c :: _ => isBlank c

/-- Whether a text starts with a sign of structure. -/
def startsStructure (text : List Char) : Bool :=
  match text with
  | '-' :: '-' :: '-' :: _ => true
  | '.' :: '.' :: '.' :: _ => true
  | c :: rest =>
    "#,[]\x7b\x7d&*!|>'\"%@\x60".toList.contains c ||
      (['-', '?', ':'].contains c && blankOrEnd rest)
  | [] => false

/-- Whether a colon before a blank or a number sign after one stands in the
text after `previous`. -/
def holdsStructure (previous : Char) : List Char → Bool
  | [] => false
  | c :: rest =>
    (c = ':' && blankOrEnd rest) || (c = '#' && isBlank previous) || holdsStructure c rest

/-- Whether two characters of these kinds stand next to each other. -/
def adjoin (first second : Char → Bool) : List Char → Bool
  | c :: d :: rest => (first c && second d) || adjoin first second (d :: rest)
  | _ => false

/-- Whether a text can stand plain. -/
def isPlain (text : String) : Bool :=
  match text.toList with
  | [] => false
  | c :: rest =>
    !readsAsOther text && (c :: rest).all (fun c => isPrintable c && !isBreak c) && c ≠ ' ' &&
      (c :: rest).getLast? ≠ some ' ' && !startsStructure (c :: rest) && !holdsStructure c rest

/-- Whether a text can stand in single quotes. -/
def isQuotable (text : List Char) : Bool :=
  text.all isPrintable && !adjoin (· = ' ') isBreak text && !adjoin isBreak (· = ' ') text

/-- Whether a text can stand as a block. -/
def isBlock (text : List Char) : Bool :=
  text.all isPrintable && text.getLast? ≠ some ' ' && !adjoin (· = ' ') isBreak text

/-- A text in a block, every line of it indented; `fresh` tells whether a line
begins. -/
def indented (indent : Nat) (fresh : Bool) : List Char → List Char
  | [] => []
  | c :: rest =>
    if isBreak c then c :: indented indent true rest
    else (if fresh then List.replicate indent ' ' else []) ++ c :: indented indent false rest

/-- A text in single quotes. What follows a line end in it is indented, be it
the closing quote. -/
def singleQuoted (indent : Nat) (text : List Char) : String :=
  let body := text.flatMap (fun c => if c = '\'' then ['\'', '\''] else [c])
  let last := if text.getLast?.any isBreak then List.replicate indent ' ' else []
  "'" ++ String.ofList (indented indent false body ++ last) ++ "'"

/-- The escapes of one letter. -/
def escapes : List (Nat × String) :=
  [(0x00, "\\0"), (0x07, "\\a"), (0x08, "\\b"), (0x09, "\\t"), (0x0A, "\\n"), (0x0B, "\\v"),
    (0x0C, "\\f"), (0x0D, "\\r"), (0x1B, "\\e"), (0x22, "\\\""), (0x5C, "\\\\"), (0x85, "\\N"),
    (0x2028, "\\L"), (0x2029, "\\P")]

def escaped (c : Char) : String :=
  match escapes.lookup c.toNat with
  | some escape => escape
  | none =>
    if isPrintable c then c.toString
    else if c.toNat ≤ 0xFF then "\\x" ++ padZeros 2 (upperHex c.toNat)
    else "\\u" ++ padZeros 4 (upperHex c.toNat)

def doubleQuoted (text : List Char) : String :=
  "\"" ++ String.join (text.map escaped) ++ "\""

/-- A text as a block. Its head says how far it is indented if that cannot be
told from the text, and what becomes of the line ends behind it. -/
def block (indent : Nat) (text : List Char) : String :=
  let hint := if text.head?.any (fun c => c = ' ' || isBreak c) then "2" else ""
  let chomp :=
    match text.reverse with
    | c :: before =>
      if !isBreak c then "-"
      else if before.head?.all isBreak then "+" else ""
    | [] => "-"
  "|" ++ hint ++ chomp ++ "\n" ++ String.ofList (indented indent true text)

/-- A text to the end of its line, `indent` being how far its further lines
would be indented. -/
def scalar (indent : Nat) (text : String) : String :=
  let cs := text.toList
  if cs.contains '\n' && isBlock cs then
    block indent cs ++ (if cs.getLast?.any isBreak then "" else "\n")
  else if isPlain text then text ++ "\n"
  else if !cs.contains '\n' && isQuotable cs then singleQuoted indent cs ++ "\n"
  else doubleQuoted cs ++ "\n"

end SceneScript.Yaml
