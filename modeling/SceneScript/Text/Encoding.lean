import SceneScript.Text.Gb18030
import SceneScript.Text.ShiftJis
import SceneScript.Text.Utf16
import SceneScript.Text.Utf8

/-
  The encodings a game's text may be in, their names, and reading and writing
  text in them. A byte order mark at the start of the bytes decides how they
  are read, whatever the encoding, and is not part of the text.
-/

namespace SceneScript

/-- The encoding of a game's text. -/
inductive Encoding where
  | shiftJis
  /-- Covers GBK. -/
  | gb18030
  | utf8
  deriving DecidableEq, Repr, Inhabited

namespace Encoding

def name : Encoding → String
  | .shiftJis => "sjis"
  | .gb18030 => "gbk"
  | .utf8 => "utf8"

/-- The name of an encoding in stored settings. -/
def settingName : Encoding → String
  | .shiftJis => "shiftjis"
  | .gb18030 => "gbk"
  | .utf8 => "utf8"

def all : List Encoding := [.shiftJis, .gb18030, .utf8]

/-- The encoding with a given name in stored settings. -/
def ofSettingName? (s : String) : Option Encoding :=
  all.find? (fun e => e.settingName == s)

/-- The names a user may give an encoding, in lower case. -/
def aliases : Encoding → List String
  | .shiftJis => ["sjis", "shift_jis", "shift-jis"]
  | .gb18030 => ["gbk", "gb18030"]
  | .utf8 => ["utf8", "utf-8"]

/-- The encoding a user names; the case of ASCII letters does not matter. -/
def ofName? (s : String) : Option Encoding :=
  let lower := String.ofList (s.toList.map Char.toLower)
  all.find? (fun e => e.aliases.contains lower)

/-- What is said of a name that is no encoding's. -/
def unknownMessage (s : String) : String := "unknown NLS: " ++ s

/-- Read bytes that carry no byte order mark. -/
def scan : Encoding → List UInt8 → Text.Scanned
  | .shiftJis, bytes => Text.ShiftJis.scan bytes
  | .gb18030, bytes => Text.Gb18030.scan bytes
  | .utf8, bytes => Text.Utf8.scan bytes

/-- Read bytes as the byte order mark says, or in the encoding if there is
none. -/
def scanMarked (e : Encoding) (bytes : List UInt8) : Text.Scanned :=
  match bytes with
  | 0xEF :: 0xBB :: 0xBF :: rest => Text.Utf8.scan rest
  | 0xFE :: 0xFF :: rest => Text.Utf16.scan .bigEndian rest
  | 0xFF :: 0xFE :: rest => Text.Utf16.scan .littleEndian rest
  | _ => e.scan bytes

def decoder (e : Encoding) : TextDecoder :=
  ⟨e.name, fun bytes => (e.scanMarked bytes).decoded⟩

def encodeChar? : Encoding → Char → Option (List UInt8)
  | .shiftJis, c => Text.ShiftJis.encodeChar? c
  | .gb18030, c => Text.Gb18030.encodeChar? c
  | .utf8, c => some (Text.Utf8.encodeChar c)

/-- A character by its number, in ASCII, as it is written where the encoding
has no bytes for it. -/
def numberedChar (c : Char) : List UInt8 :=
  ("&#" ++ toString c.toNat ++ ";").toList.map (fun d => UInt8.ofNat d.toNat)

def encodeText (e : Encoding) (s : String) : List UInt8 :=
  s.toList.flatMap (fun c => (e.encodeChar? c).getD (numberedChar c))

/-- The bytes of a text, with a warning when it has a character that the
encoding has not. -/
def encode (e : Encoding) (s : String) : Traced (List UInt8) := do
  if s.toList.any (fun c => (e.encodeChar? c).isNone) then
    Traced.report (.unencodable e.name s)
  return e.encodeText s

end Encoding

end SceneScript
