import SceneScript.Proofs.Text.Characters

/-
  Text that is written in an encoding and read back. If every character comes
  back on its own, so does a text of them (`roundTrip_kept`): the reader starts
  anew at every character, whatever the bytes of the one before look like. Only
  a byte order mark at the start, which pairs can spell by accident, is taken for
  something else. In UTF-8 every text comes back, without the mark if it
  starts with one.
-/

namespace SceneScript.Encoding

open Text

variable {e : Encoding} {c : Char} {s : String} {bytes : List UInt8}

/-- A text, written in the encoding and read back. -/
def roundTrip (e : Encoding) (s : String) : Traced String := do
  e.decoder.read (← e.encode s)

/-- The character is written without a warning, and alone it is read back. -/
structure Keeps (e : Encoding) (c : Char) : Prop where
  written : (e.encode (String.singleton c)).events = []
  readBack : (e.roundTrip (String.singleton c)).outcome = .ok (String.singleton c)

/-- The bytes start with a byte order mark: that of UTF-8, or of UTF-16 in
either order. -/
def Marked (bytes : List UInt8) : Prop :=
  [0xEF, 0xBB, 0xBF] <+: bytes ∨ [0xFE, 0xFF] <+: bytes ∨ [0xFF, 0xFE] <+: bytes

instance (bytes : List UInt8) : Decidable (Marked bytes) :=
  inferInstanceAs (Decidable (_ ∨ _ ∨ _))

/-- The text behind one byte order mark, if it starts with one. -/
def withoutMark (s : String) : String :=
  match s.toList with
  | '\ufeff' :: rest => String.ofList rest
  | _ => s

/-! ## Writing and reading -/

theorem scanMarked_of_not_marked (h : ¬ Marked bytes) : e.scanMarked bytes = e.scan bytes := by
  unfold scanMarked
  split
  · exact absurd (.inl ⟨_, rfl⟩) h
  · exact absurd (.inr (.inl ⟨_, rfl⟩)) h
  · exact absurd (.inr (.inr ⟨_, rfl⟩)) h
  · rfl

theorem outcome_encode (e : Encoding) (s : String) : (e.encode s).outcome = .ok (e.encodeText s) := by
  unfold encode
  split <;> rfl

theorem outcome_roundTrip (e : Encoding) (s : String) :
    (e.roundTrip s).outcome = .ok (e.scanMarked (e.encodeText s)).decoded.text := by
  rw [roundTrip, Traced.outcome_bind, outcome_encode]
  exact TextDecoder.outcome_read e.decoder (e.encodeText s)

/-- Characters that all have bytes are written without a warning. -/
theorem encode_of_isSome (h : ∀ c ∈ s.toList, (e.encodeChar? c).isSome) :
    e.encode s = pure (e.encodeText s) := by
  have hnone : s.toList.any (fun c => (e.encodeChar? c).isNone) = false := by
    rw [List.any_eq_false]
    intro c hc
    simpa [Option.isSome_iff_ne_none] using h c hc
  rw [encode, hnone]
  rfl

theorem exists_bytes_of_events (h : (e.encode (String.singleton c)).events = []) :
    ∃ bytes, e.encodeChar? c = some bytes := by
  cases hc : e.encodeChar? c with
  | some bytes => exact ⟨bytes, rfl⟩
  | none =>
    rw [encode, String.toList_singleton] at h
    simp only [List.any_cons, hc, Option.isNone_none, Bool.true_or, if_true] at h
    cases h

theorem encodeText_singleton (h : e.encodeChar? c = some bytes) :
    e.encodeText (String.singleton c) = bytes := by
  simp [encodeText, h]

/-- If the bytes of a text are read without fault, nothing is warned of. -/
theorem roundTrip_of_scanMarked {text : String} (h : ∀ c ∈ s.toList, (e.encodeChar? c).isSome)
    (hscan : e.scanMarked (e.encodeText s) = text.toList.map some) :
    e.roundTrip s = pure text := by
  have hdecode : e.decoder.decode (e.encodeText s) = ⟨text, false⟩ := by
    show (e.scanMarked (e.encodeText s)).decoded = _
    rw [hscan, Scanned.decoded, List.map_map]
    have htext : text.toList.map ((·.getD replacement) ∘ some) = text.toList :=
      List.map_id text.toList
    rw [htext, String.ofList_toList]
    simp
  rw [roundTrip, encode_of_isSome h, pure_bind, TextDecoder.read, hdecode]
  rfl

/-! ## Characters by themselves -/

theorem scan_nil (e : Encoding) : e.scan [] = [] := by
  cases e with
  | shiftJis => exact ShiftJis.scan_nil
  | gb18030 => exact Gb18030.scan_nil
  | utf8 => exact Utf8.scan_nil

/-- A character that stands alone after reading was read as such, or
malformed bytes were read and it is the character that shows them. -/
theorem eq_of_decoded_singleton {items : Scanned}
    (h : items.decoded.text = String.singleton c) :
    items = [some c] ∨ items = [none] ∧ c = replacement := by
  have hmap : items.map (·.getD replacement) = [c] := by
    rw [Scanned.decoded, String.singleton_eq_ofList] at h
    exact String.ofList_inj.mp h
  obtain ⟨item, rfl, hitem⟩ := List.map_eq_singleton_iff.mp hmap
  cases item with
  | none => exact .inr ⟨rfl, hitem.symm⟩
  | some d => exact .inl (by rw [← hitem]; rfl)

/-- Where a mark is all there is, nothing is left to read. -/
theorem text_of_marked (h : Marked bytes) (hlen : bytes.length ≤ 2) :
    (e.scanMarked bytes).decoded.text = "" := by
  have hrest {front rest : List UInt8} (hfront : front.length = 2)
      (hlen : (front ++ rest).length ≤ 2) : rest = [] := by
    rw [List.length_append] at hlen
    exact List.eq_nil_of_length_eq_zero (by omega)
  obtain ⟨rest, rfl⟩ | ⟨rest, rfl⟩ | ⟨rest, rfl⟩ := h
  · simp at hlen
  · rw [hrest rfl hlen]
    rfl
  · rw [hrest rfl hlen]
    rfl

theorem not_marked_formBytes (number : Nat) : ¬ Marked (Gb18030.formBytes number) := by
  obtain ⟨b₁, b₂, more, hform, hdigit⟩ := Gb18030.isDigit_second_of_formBytes number
  rw [hform]
  rintro (⟨rest, h⟩ | ⟨rest, h⟩ | ⟨rest, h⟩) <;> cases h <;> exact absurd hdigit (by decide)

/-- The bytes of a character that is read back are no mark, except in UTF-8. -/
theorem not_marked_of_decoded (hutf8 : e ≠ .utf8) (hbytes : e.encodeChar? c = some bytes)
    (htext : (e.scanMarked bytes).decoded.text = String.singleton c) : ¬ Marked bytes := by
  have hshort (hlen : bytes.length ≤ 2) : ¬ Marked bytes := by
    intro hmarked
    rw [text_of_marked hmarked hlen] at htext
    exact absurd htext.symm (by simp [← String.toList_inj])
  cases e with
  | shiftJis => exact hshort (ShiftJis.length_le_of_encodeChar? hbytes)
  | gb18030 =>
    obtain hlen | ⟨number, rfl⟩ := Gb18030.shape_of_encodeChar? hbytes
    · exact hshort hlen
    · exact not_marked_formBytes number
  | utf8 => exact absurd rfl hutf8

/-- The character that shows malformed bytes is never kept by being malformed. -/
theorem scan_ne_of_replacement (hbytes : e.encodeChar? replacement = some bytes) :
    e.scan bytes ≠ [none] := by
  cases e with
  | shiftJis =>
    rw [encodeChar?, ShiftJis.encodeChar?_replacement] at hbytes
    cases hbytes
  | gb18030 =>
    rw [encodeChar?, Gb18030.encodeChar?_replacement] at hbytes
    cases hbytes
    rw [scan, Gb18030.scan_replacement]
    decide
  | utf8 =>
    cases hbytes
    have hread := Utf8.spells_encodeChar replacement []
    rw [List.append_nil] at hread
    rw [scan, hread]
    simp

/-- A kept character is found wherever its bytes begin. -/
theorem Keeps.spells (h : e.Keeps c) :
    ∃ bytes, e.encodeChar? c = some bytes ∧ Spells e.scan bytes c := by
  obtain ⟨bytes, hbytes⟩ := exists_bytes_of_events h.written
  refine ⟨bytes, hbytes, ?_⟩
  have htext : (e.scanMarked bytes).decoded.text = String.singleton c := by
    have hread := h.readBack
    rw [outcome_roundTrip, encodeText_singleton hbytes] at hread
    exact Except.ok.inj hread
  by_cases hutf8 : e = .utf8
  · subst hutf8
    cases hbytes
    exact Utf8.spells_encodeChar c
  · rw [scanMarked_of_not_marked (not_marked_of_decoded hutf8 hbytes htext)] at htext
    obtain hscan | ⟨hscan, rfl⟩ := eq_of_decoded_singleton htext
    · cases e with
      | shiftJis => exact ShiftJis.spells_of_scan hscan
      | gb18030 => exact Gb18030.spells_of_scan hscan
      | utf8 => exact absurd rfl hutf8
    · exact absurd hscan (scan_ne_of_replacement hbytes)

/-- A character is kept if its bytes, by themselves, are read as it. -/
theorem keeps_of_scan (hbytes : e.encodeChar? c = some bytes) (hmark : ¬ Marked bytes)
    (hscan : e.scan bytes = [some c]) : e.Keeps c := by
  have hround : e.roundTrip (String.singleton c) = pure (String.singleton c) := by
    refine roundTrip_of_scanMarked (by simp [hbytes]) ?_
    rw [encodeText_singleton hbytes, scanMarked_of_not_marked hmark, hscan, String.toList_singleton]
    rfl
  constructor
  · rw [encode_of_isSome (by simp [hbytes])]
    rfl
  · rw [hround]
    rfl

/-! ## Texts -/

theorem scan_encodeText (h : ∀ c ∈ s.toList, e.Keeps c) :
    e.scan (e.encodeText s) = s.toList.map some := by
  refine Spells.flatMap e.scan_nil fun c hc => ?_
  obtain ⟨bytes, hbytes, hspells⟩ := (h c hc).spells
  rw [hbytes]
  exact hspells

theorem scan_encodeText_utf8 (s : String) : utf8.scan (utf8.encodeText s) = s.toList.map some :=
  Spells.flatMap Utf8.scan_nil fun c _ => Utf8.spells_encodeChar c

/-- In UTF-8 only a mark is spelled as one. -/
theorem head_of_marked_utf8 (h : Marked (utf8.encodeText s)) : s.toList.head? = some '\ufeff' := by
  have hscan := scan_encodeText_utf8 s
  obtain ⟨rest, hbytes⟩ | ⟨rest, hbytes⟩ | ⟨rest, hbytes⟩ := h
  · have hmark : Utf8.scan ([0xEF, 0xBB, 0xBF] ++ rest) = some '\ufeff' :: Utf8.scan rest :=
      Utf8.spells_encodeChar '\ufeff' rest
    rw [← hbytes, scan, hmark] at hscan
    have hhead := congrArg List.head? hscan
    simpa using hhead.symm
  all_goals
    rw [← hbytes, scan, List.cons_append, Utf8.scan_above (by decide)] at hscan
    cases hs : s.toList with
    | nil =>
      rw [hs] at hscan
      cases hscan
    | cons c more =>
      rw [hs] at hscan
      cases hscan

theorem withoutMark_of_mark {rest : List Char} (h : s.toList = '\ufeff' :: rest) :
    withoutMark s = String.ofList rest := by
  rw [withoutMark, h]
  rfl

theorem withoutMark_of_head (h : s.toList.head? ≠ some '\ufeff') : withoutMark s = s := by
  unfold withoutMark
  split
  · rename_i hmark
    exact absurd (by rw [hmark]; rfl) h
  · rfl

theorem scanMarked_utf8 (s : String) :
    utf8.scanMarked (utf8.encodeText s) = (withoutMark s).toList.map some := by
  by_cases hhead : s.toList.head? = some '\ufeff'
  · obtain ⟨rest, hrest⟩ := List.head?_eq_some_iff.mp hhead
    have hbytes : utf8.encodeText s = 0xEF :: 0xBB :: 0xBF :: rest.flatMap Utf8.encodeChar := by
      rw [encodeText, hrest]
      rfl
    have hread : Utf8.scan (rest.flatMap Utf8.encodeChar) = rest.map some :=
      Spells.flatMap Utf8.scan_nil fun c _ => Utf8.spells_encodeChar c
    rw [hbytes, withoutMark_of_mark hrest, String.toList_ofList]
    exact hread
  · rw [withoutMark_of_head hhead,
      scanMarked_of_not_marked (fun h => hhead (head_of_marked_utf8 h))]
    exact scan_encodeText_utf8 s

set_option maxRecDepth 4000 in
theorem grid_first : ∃ row rows, Gb18030.grid = (0x81, '丂' :: row) :: rows :=
  ⟨_, _, Grid.ofTexts_cons 0x81 ('丂' :: _) _⟩

/-- The trail byte of the first pair is the at sign. -/
theorem keeps_first_pair : gb18030.encodeChar? '丂' = some [0x81, 0x40] ∧ gb18030.Keeps '丂' := by
  obtain ⟨row, rows, hgrid⟩ := grid_first
  have hpair : Gb18030.grid.pair? '丂' = some (0x81, 0x40) := by
    rw [Grid.pair?, hgrid, if_neg (by decide)]
    simp [List.idxOf?_cons, Text.Grid.trailByte]
  have hchar : Gb18030.grid.char? 0x81 0x40 = some '丂' := by
    rw [hgrid]
    rfl
  have hbytes : gb18030.encodeChar? '丂' = some [0x81, 0x40] := by
    simp only [encodeChar?, Gb18030.encodeChar?, hpair]
    rfl
  have hscan : gb18030.scan [0x81, 0x40] = [some '丂'] := by
    rw [scan, Gb18030.scan_pair (by decide) (by decide) hchar, Gb18030.scan_nil]
  exact ⟨hbytes, keeps_of_scan hbytes (by decide) hscan⟩

/-- A text of characters that are kept is kept, and nothing is warned of,
unless its bytes happen to start with a byte order mark. In UTF-8 every text
is kept, but for one mark at its start. -/
theorem roundTrip_kept :
    (∀ (e : Encoding) (s : String), (∀ c ∈ s.toList, e.Keeps c) → ¬ Marked (e.encodeText s) →
      e.roundTrip s = pure s) ∧
    ∀ s, utf8.roundTrip s = pure (withoutMark s) := by
  constructor
  · intro e s hkeeps hmark
    refine roundTrip_of_scanMarked (fun c hc => ?_) ?_
    · obtain ⟨bytes, hbytes, -⟩ := (hkeeps c hc).spells
      rw [hbytes]
      rfl
    · rw [scanMarked_of_not_marked hmark, scan_encodeText hkeeps]
  · intro s
    exact roundTrip_of_scanMarked (fun c _ => rfl) (scanMarked_utf8 s)

/-- Behind an ASCII letter a pair that ends like an at sign, the sign itself, a
form of four bytes with digits in it, and a digit. -/
theorem roundTrip_gb18030 :
    gb18030.encodeText "a丂@😀1" = [0x61, 0x81, 0x40, 0x40, 0x94, 0x39, 0xFC, 0x36, 0x31] ∧
    (∀ c ∈ "a丂@😀1".toList, gb18030.Keeps c) ∧
      gb18030.roundTrip "a丂@😀1" = pure "a丂@😀1" := by
  obtain ⟨hpair, hkept⟩ := keeps_first_pair
  have htext : "a丂@😀1".toList = ['a', '丂', '@', '😀', '1'] := by decide +kernel
  have hbytes : gb18030.encodeText "a丂@😀1" =
      [0x61, 0x81, 0x40, 0x40, 0x94, 0x39, 0xFC, 0x36, 0x31] := by
    rw [encodeText, htext]
    simp only [List.flatMap_cons, hpair]
    decide +kernel
  have hkeeps : ∀ c ∈ "a丂@😀1".toList, gb18030.Keeps c := by
    rw [htext]
    simp only [List.forall_mem_cons]
    refine ⟨?_, hkept, ?_, ?_, ?_, by simp⟩
    · exact keeps_of_scan rfl (by decide) (by decide +kernel)
    · exact keeps_of_scan rfl (by decide) (by decide +kernel)
    · exact keeps_of_scan rfl (by decide +kernel) (by decide +kernel)
    · exact keeps_of_scan rfl (by decide) (by decide +kernel)
  have hmark : ¬ Marked (gb18030.encodeText "a丂@😀1") := by
    rw [hbytes]
    decide
  exact ⟨hbytes, hkeeps, roundTrip_kept.1 _ _ hkeeps hmark⟩

end SceneScript.Encoding
