import SceneScript.Proofs.Bytes.Reading
import SceneScript.Vocabulary

/-
  Vocabulary files as data: what a file says (`VocabularyFile`), its bytes, and
  the names a decoder finds in it. Reading the bytes gives the names back,
  whatever the bytes that no reader looks at (`VocabularyFile.outcome_parse`).
-/

namespace SceneScript

structure AttributeEntry where
  name : List UInt8
  no_zero : 0 ∉ name
  unused : UInt32

structure CommandEntry where
  name : List UInt8
  no_zero : 0 ∉ name
  attributes : List AttributeEntry
  few : attributes.length < 2 ^ 8

/-- What a vocabulary file says. -/
structure VocabularyFile where
  version : UInt32
  unused : UInt32
  commands : List CommandEntry
  few : commands.length < 2 ^ 32

def AttributeEntry.bytes (e : AttributeEntry) : List UInt8 :=
  (e.name ++ [0]) ++ leBytes 4 e.unused.toNat

def CommandEntry.bytes (e : CommandEntry) : List UInt8 :=
  (e.name ++ [0]) ++
    ([UInt8.ofNat e.attributes.length] ++ e.attributes.flatMap AttributeEntry.bytes)

def CommandEntry.names (d : TextDecoder) (e : CommandEntry) : CommandNames :=
  ⟨(d.decode e.name).text, e.attributes.map (fun a => (d.decode a.name).text)⟩

theorem AttributeEntry.reads (d : TextDecoder) (e : AttributeEntry) :
    Parser.Reads (Vocabulary.readAttributeName d) e.bytes (d.decode e.name).text :=
  (Parser.reads_terminated d e.no_zero).bind
    ((Parser.reads_skip (length_leBytes 4 _)).map (fun _ => (d.decode e.name).text))

theorem CommandEntry.reads (d : TextDecoder) (e : CommandEntry) :
    Parser.Reads (Vocabulary.readCommand d) e.bytes (e.names d) := by
  have hattributes : Parser.Reads
      (Parser.times (UInt8.ofNat e.attributes.length).toNat (Vocabulary.readAttributeName d))
      (e.attributes.flatMap AttributeEntry.bytes)
      (e.attributes.map (fun a => (d.decode a.name).text)) := by
    rw [UInt8.toNat_ofNat_of_lt' e.few]
    exact Parser.reads_times (fun a _ => a.reads d)
  exact (Parser.reads_terminated d e.no_zero).bind
    ((Parser.reads_byte _).bind
      (hattributes.map (CommandNames.mk (d.decode e.name).text)))

namespace VocabularyFile

def bytes (f : VocabularyFile) : List UInt8 :=
  Resource.vocabulary.magicBytes ++ (leBytes 4 f.version.toNat ++ (leBytes 4 f.commands.length ++
    (leBytes 4 f.unused.toNat ++ f.commands.flatMap CommandEntry.bytes)))

/-- The names in a vocabulary file as text. -/
def vocabulary (d : TextDecoder) (f : VocabularyFile) : Vocabulary :=
  ⟨f.version, f.commands.map (CommandEntry.names d)⟩

theorem reads (d : TextDecoder) (f : VocabularyFile) :
    Parser.Reads (Vocabulary.read d) f.bytes (f.vocabulary d) := by
  have hcommands : Parser.Reads
      (Parser.times (UInt32.ofNat f.commands.length).toNat (Vocabulary.readCommand d))
      (f.commands.flatMap CommandEntry.bytes) (f.commands.map (CommandEntry.names d)) := by
    rw [UInt32.toNat_ofNat_of_lt' f.few]
    exact Parser.reads_times (fun e _ => e.reads d)
  exact (Parser.reads_magic .vocabulary).bind ((Parser.reads_word32 f.version).bind
    ((Parser.reads_number f.few).bind ((Parser.reads_skip (length_leBytes 4 _)).bind
      (hcommands.reported (fun commands => .vocabularyRead f.version commands.length)
        (Vocabulary.mk f.version)))))

/-- Reading a vocabulary file gives its names. -/
theorem outcome_parse (d : TextDecoder) (f : VocabularyFile) :
    (Vocabulary.parse d f.bytes).outcome = .ok (f.vocabulary d) :=
  (f.reads d).runOn

end VocabularyFile

end SceneScript
