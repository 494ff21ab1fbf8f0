import SceneScript.CommandLine.Arguments
import SceneScript.Decimal.Numeral
import SceneScript.Yaml.Tables

/-
  The words of the command line. Options take a value, which follows as the
  next word, after `=`, or directly after a short name; switches take none, and
  short switches may be joined. Nothing stands outside an option, and nothing
  may be given twice.

  The value of an option is looked at when the next option begins or the words
  end, so of two mistakes the unknown word is the one reported. A path may be
  any bytes; every other value has to be text.
-/

namespace SceneScript

/-- Why words do not lead to a run. -/
inductive Usage where
  | helpAsked
  | versionAsked
  /-- An option that has to be there is not. -/
  | missingArgument
  /-- An option without its value, or a path that is empty. -/
  | invalidValue
  /-- A value that is not of the option's kind. -/
  | malformedValue
  /-- A value that is no text and no path. -/
  | notText
  | unknownArgument
  /-- An option or a switch given twice. -/
  | repeatedArgument
  /-- A switch with a value. -/
  | unexpectedValue
  deriving DecidableEq, Repr

namespace Options

def helpText : String :=
  "YU-RIS ybn script to text decompiler\n\n" ++
  "Usage: ybn2txt_decompiler [OPTIONS] --script <SCRIPT> --labels <LABELS> " ++
  "--definition <DEFINITION>\n\n" ++
  "Options:\n" ++
  "  -s, --script <SCRIPT>            Compiled scene script, e.g. ysbin/yst00042.ybn\n" ++
  "  -l, --labels <LABELS>            Label table, usually ysbin/ysl.ybn\n" ++
  "  -d, --definition <DEFINITION>    Compiler definition, usually YSCom.ycd\n" ++
  "  -i, --index <INDEX>              Script index; taken from the script file name when " ++
  "omitted\n" ++
  "  -o, --output <OUTPUT>            Output file (stdout when omitted)\n" ++
  "      --lang <LANG>                [default: sjis]\n" ++
  "      --dump-tables <DUMP_TABLES>  Also write the command definition and this script's " ++
  "labels as YAML\n" ++
  "  -v, --verbose                    \n" ++
  "  -h, --help                       Print help\n" ++
  "  -V, --version                    Print version\n"

def versionText : String := "ybn2txt_decompiler 0.1.0\n"

/-- What is shown for words that lead to no run. -/
def refusal : Usage → Refusal
  | .helpAsked => ⟨helpText, true, 0⟩
  | .versionAsked => ⟨versionText, true, 0⟩
  | .missingArgument => ⟨"error: --script, --labels and --definition are required", false, 2⟩
  | .invalidValue => ⟨"error: an option has no value", false, 2⟩
  | .malformedValue => ⟨"error: an option has an invalid value", false, 2⟩
  | .notText => ⟨"error: an option has a value that is no text", false, 2⟩
  | .unknownArgument => ⟨"error: unexpected argument", false, 2⟩
  | .repeatedArgument => ⟨"error: an option is given twice", false, 2⟩
  | .unexpectedValue => ⟨"error: a switch takes no value", false, 2⟩

inductive Valued where
  | scene
  | labels
  | vocabulary
  | index
  | output
  | encoding
  | tables
  deriving DecidableEq, Repr

inductive Switch where
  | verbose
  | help
  | version
  deriving DecidableEq, Repr

/-- What an option name stands for. -/
inductive Name where
  | valued (v : Valued)
  | switch (s : Switch)
  deriving DecidableEq, Repr

def longNames : List (String × Name) :=
  [("script", .valued .scene), ("labels", .valued .labels),
    ("definition", .valued .vocabulary), ("index", .valued .index),
    ("output", .valued .output), ("lang", .valued .encoding),
    ("dump-tables", .valued .tables), ("verbose", .switch .verbose),
    ("help", .switch .help), ("version", .switch .version)]

def shortNames : List (Char × Name) :=
  [('s', .valued .scene), ('l', .valued .labels), ('d', .valued .vocabulary),
    ('i', .valued .index), ('o', .valued .output), ('v', .switch .verbose),
    ('h', .switch .help), ('V', .switch .version)]

def hyphen : UInt8 := 0x2D

/-- The sign `=`. -/
def equals : UInt8 := 0x3D

/-- The options given so far. -/
structure Given where
  scene : Option Path := none
  labels : Option Path := none
  vocabulary : Option Path := none
  index : Option UInt16 := none
  output : Option Path := none
  encoding : Option Encoding := none
  tables : Option Path := none
  verbose : Bool := false
  /-- The option last named, whose value is not settled yet. -/
  pending : Option (Valued × Option (List UInt8)) := none
  deriving DecidableEq, Repr

def path (value : List UInt8) : Except Usage Path :=
  if value = [] then .error .invalidValue else .ok ⟨value⟩

def text (value : List UInt8) : Except Usage String :=
  match Text.Utf8.text? value with
  | some text => .ok text
  | none => .error .notText

/-- A decimal integer with an optional sign that is a script index. -/
def scriptIndex (value : String) : Except Usage UInt16 :=
  let (negative, digits) :=
    match value.toList with
    | '+' :: digits => (false, digits)
    | '-' :: digits => (true, digits)
    | digits => (false, digits)
  let n := Decimal.value digits
  if Decimal.isNumeral digits ∧ n < 65536 ∧ (negative → n = 0) then
    .ok (UInt16.ofNat n)
  else .error .malformedValue

def encodingNamed (value : String) : Except Usage Encoding :=
  match Encoding.ofName? value with
  | some e => .ok e
  | none => .error .malformedValue

/-- Fill a place that must still be empty. -/
def fill {α : Type} (place : Option α) (value : Except Usage α) : Except Usage (Option α) :=
  match place with
  | some _ => .error .repeatedArgument
  | none => some <$> value

def Given.set (g : Given) (v : Valued) (value : List UInt8) : Except Usage Given :=
  match v with
  | .scene => return { g with scene := ← fill g.scene (path value) }
  | .labels => return { g with labels := ← fill g.labels (path value) }
  | .vocabulary => return { g with vocabulary := ← fill g.vocabulary (path value) }
  | .index => return { g with index := ← fill g.index (text value >>= scriptIndex) }
  | .output => return { g with output := ← fill g.output (path value) }
  | .encoding => return { g with encoding := ← fill g.encoding (text value >>= encodingNamed) }
  | .tables => return { g with tables := ← fill g.tables (path value) }

/-- Settle the value of the option last named. -/
def Given.settle (g : Given) : Except Usage Given :=
  match g.pending with
  | none => .ok g
  | some (_, none) => .error .invalidValue
  | some (v, some value) => { g with pending := none }.set v value

def Given.turnOn (g : Given) (s : Switch) : Except Usage Given := do
  let g ← g.settle
  match s with
  | .help => .error .helpAsked
  | .version => .error .versionAsked
  | .verbose => if g.verbose then .error .repeatedArgument else .ok { g with verbose := true }

/-- Name an option whose value is attached or follows. -/
def Given.name (g : Given) (v : Valued) (attached : Option (List UInt8)) : Except Usage Given := do
  let g ← g.settle
  match attached with
  | some value => g.set v value
  | none => .ok { g with pending := some (v, none) }

/-- Take joined short names. -/
def Given.takeShort (g : Given) : List UInt8 → Except Usage Given
  | [] => .ok g
  | c :: rest =>
    match shortNames.lookup (Char.ofUInt8 c) with
    | none => .error .unknownArgument
    | some (.switch s) => do
      let g ← g.turnOn s
      g.takeShort rest
    | some (.valued v) =>
      if rest = [] then g.name v none
      else if rest.head? = some equals then g.name v (some rest.tail)
      else g.name v (some rest)

/-- Take a long name, its value after `=` if there is one. -/
def Given.takeLong (g : Given) (word : List UInt8) : Except Usage Given :=
  let attached :=
    match word.dropWhile (· ≠ equals) with
    | [] => none
    | _ :: value => some value
  let named := (Text.Utf8.text? (word.takeWhile (· ≠ equals))).bind (longNames.lookup ·)
  match named, attached with
  | none, _ => .error .unknownArgument
  | some (.valued v), attached => g.name v attached
  | some (.switch _), some _ => .error .unexpectedValue
  | some (.switch s), none => g.turnOn s

/-- Take a word that names no option: the value of the one last named. -/
def Given.takeValue (g : Given) (value : List UInt8) : Except Usage Given :=
  match g.pending with
  | some (v, none) => .ok { g with pending := some (v, some value) }
  | _ => .error .unknownArgument

/-- Take the words one after the other. After `--` no option can be named, and
there is nothing else to give. -/
def Given.takeAll (g : Given) : List (List UInt8) → Except Usage Given
  | [] => g.settle
  | word :: rest =>
    if word = [hyphen, hyphen] then
      if rest.isEmpty then g.settle else .error .unknownArgument
    else if word.take 2 = [hyphen, hyphen] then do
      let g ← g.takeLong (word.drop 2)
      g.takeAll rest
    else if word.head? = some hyphen ∧ word ≠ [hyphen] then do
      let g ← g.takeShort word.tail
      g.takeAll rest
    else do
      let g ← g.takeValue word
      g.takeAll rest

/-- The arguments, once the three resources have been named. -/
def Given.complete (g : Given) : Except Usage Arguments :=
  match g.scene, g.labels, g.vocabulary with
  | some scene, some labels, some vocabulary =>
    .ok { scene, labels, vocabulary, index := g.index, output := g.output,
          encoding := g.encoding.getD .shiftJis, tables := g.tables, verbose := g.verbose }
  | _, _, _ => .error .missingArgument

def parse (words : List (List UInt8)) : Except Usage Arguments := do
  let given ← Given.takeAll {} words
  given.complete

end Options

/-- The options of the program, and its tables in YAML. -/
def Libraries.standard : Libraries where
  arguments words := (Options.parse words).mapError Options.refusal
  tables := Yaml.tables

end SceneScript
