import SceneScript.Proofs.Bytes.Consuming
import SceneScript.Proofs.Files.LabelFile
import SceneScript.Proofs.Files.VocabularyFile

/-
  What the readers of labels and names accept. Bytes that are read as labels
  begin with a label file, and bytes that are read as names begin with a
  vocabulary file; what was read is what the file says, and nothing depends on
  what follows it.
-/

namespace SceneScript

theorem LabelRecord.consumes (d : TextDecoder) :
    Parser.Consumes (LabelIndex.readLabel d)
      (fun bytes l => ∃ r : LabelRecord, bytes = r.bytes ∧ l = r.label d) := by
  refine Parser.consumes_byte.bind ?_
  rintro _ len rfl
  refine (Parser.consumes_text d len.toNat).bind ?_
  rintro name _ ⟨hname, rfl⟩
  refine Parser.consumes_word32.bind ?_
  rintro _ id rfl
  refine Parser.consumes_word32.bind ?_
  rintro _ offset rfl
  refine Parser.consumes_word16.bind ?_
  rintro _ scriptIndex rfl
  refine (Parser.consumes_skip 2).map ?_
  rintro unused _ hunused
  have hlen : len = UInt8.ofNat name.length := by rw [hname, UInt8.ofNat_toNat]
  have hshort : name.length < 2 ^ 8 := hname ▸ len.toNat_lt
  rw [hlen, ← leBytes_leWord16 hunused]
  exact ⟨⟨name, hshort, id, offset, scriptIndex, leWord16 unused⟩, rfl, rfl⟩

namespace LabelFile

theorem consumes (d : TextDecoder) :
    Parser.Consumes (LabelIndex.read d) (fun bytes x => ∃ f : LabelFile, bytes = f.bytes ∧
      x = ⟨f.version, LabelIndex.sortByOffset (f.labels d)⟩) := by
  refine (Parser.consumes_magic .labels).bind ?_
  rintro _ _ rfl
  refine Parser.consumes_word32.bind ?_
  rintro _ version rfl
  refine Parser.consumes_word32.bind ?_
  rintro _ count rfl
  refine (Parser.consumes_skip LabelIndex.rangeTableSize).bind ?_
  rintro ranges _ hranges
  refine (Parser.consumes_times (LabelRecord.consumes d) count.toNat).reported ?_
  rintro _ _ ⟨records, hcount, rfl, rfl⟩
  have hfew : records.length < 2 ^ 32 := hcount ▸ count.toNat_lt
  rw [← hcount]
  exact ⟨⟨version, ranges, hranges, records, hfew⟩, rfl, rfl⟩

/-- What is read as labels begins with a label file. -/
theorem of_parse {d : TextDecoder} {bytes : List UInt8} {x : LabelIndex}
    (h : (LabelIndex.parse d bytes).outcome = .ok x) :
    ∃ (f : LabelFile) (rest : List UInt8), bytes = f.bytes ++ rest := by
  obtain ⟨_, rest, rfl, f, rfl, _⟩ := (consumes d).runOn h
  exact ⟨f, rest, rfl⟩

/-- What follows a label file does not matter. -/
theorem outcome_parse_append (d : TextDecoder) (f : LabelFile) (rest : List UInt8) :
    (LabelIndex.parse d (f.bytes ++ rest)).outcome =
      .ok ⟨f.version, LabelIndex.sortByOffset (f.labels d)⟩ :=
  (f.reads d _ 0 ⟨[], rest, rfl, rfl⟩).runOn

end LabelFile

theorem AttributeEntry.consumes (d : TextDecoder) :
    Parser.Consumes (Vocabulary.readAttributeName d)
      (fun bytes t => ∃ e : AttributeEntry, bytes = e.bytes ∧ t = (d.decode e.name).text) := by
  refine (Parser.consumes_terminated d).bind ?_
  rintro _ _ ⟨name, hname, rfl, rfl⟩
  refine (Parser.consumes_skip 4).map ?_
  rintro unused _ hunused
  rw [← leBytes_leWord32 hunused]
  exact ⟨⟨name, hname, leWord32 unused⟩, rfl, rfl⟩

theorem CommandEntry.consumes (d : TextDecoder) :
    Parser.Consumes (Vocabulary.readCommand d)
      (fun bytes c => ∃ e : CommandEntry, bytes = e.bytes ∧ c = e.names d) := by
  refine (Parser.consumes_terminated d).bind ?_
  rintro _ _ ⟨name, hname, rfl, rfl⟩
  refine Parser.consumes_byte.bind ?_
  rintro _ count rfl
  refine (Parser.consumes_times (AttributeEntry.consumes d) count.toNat).map ?_
  rintro _ _ ⟨attributes, hcount, rfl, rfl⟩
  have hlen : count = UInt8.ofNat attributes.length := by rw [hcount, UInt8.ofNat_toNat]
  have hfew : attributes.length < 2 ^ 8 := hcount ▸ count.toNat_lt
  rw [hlen]
  exact ⟨⟨name, hname, attributes, hfew⟩, rfl, rfl⟩

namespace VocabularyFile

theorem consumes (d : TextDecoder) :
    Parser.Consumes (Vocabulary.read d)
      (fun bytes x => ∃ f : VocabularyFile, bytes = f.bytes ∧ x = f.vocabulary d) := by
  refine (Parser.consumes_magic .vocabulary).bind ?_
  rintro _ _ rfl
  refine Parser.consumes_word32.bind ?_
  rintro _ version rfl
  refine Parser.consumes_word32.bind ?_
  rintro _ count rfl
  refine (Parser.consumes_skip 4).bind ?_
  rintro unused _ hunused
  refine (Parser.consumes_times (CommandEntry.consumes d) count.toNat).reported ?_
  rintro _ _ ⟨commands, hcount, rfl, rfl⟩
  have hfew : commands.length < 2 ^ 32 := hcount ▸ count.toNat_lt
  rw [← hcount, ← leBytes_leWord32 hunused]
  exact ⟨⟨version, leWord32 unused, commands, hfew⟩, rfl, rfl⟩

/-- What is read as names begins with a vocabulary file. -/
theorem of_parse {d : TextDecoder} {bytes : List UInt8} {x : Vocabulary}
    (h : (Vocabulary.parse d bytes).outcome = .ok x) :
    ∃ (f : VocabularyFile) (rest : List UInt8), bytes = f.bytes ++ rest := by
  obtain ⟨_, rest, rfl, f, rfl, _⟩ := (consumes d).runOn h
  exact ⟨f, rest, rfl⟩

/-- What follows a vocabulary file does not matter. -/
theorem outcome_parse_append (d : TextDecoder) (f : VocabularyFile) (rest : List UInt8) :
    (Vocabulary.parse d (f.bytes ++ rest)).outcome = .ok (f.vocabulary d) :=
  (f.reads d _ 0 ⟨[], rest, rfl, rfl⟩).runOn

end VocabularyFile

end SceneScript
