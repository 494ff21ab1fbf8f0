import SceneScript.Proofs.Text.Characters

/-
  ASCII text. The three encodings of games, and any byte order mark, differ
  from 0x80 on only: bytes below stand for the characters of their numbers,
  whichever encoding they are read in (`Encoding.scanMarked_of_ascii`).
-/

namespace SceneScript

namespace Text

/-- Nothing but bytes below 0x80. -/
def IsAscii (bytes : List UInt8) : Prop := ∀ b ∈ bytes, b < 0x80

instance (bytes : List UInt8) : Decidable (IsAscii bytes) :=
  inferInstanceAs (Decidable (∀ b ∈ bytes, b < 0x80))

/-- ASCII bytes, read one by one. -/
def asciiScan (bytes : List UInt8) : Scanned := bytes.map (fun b => char? b.toNat)

theorem ShiftJis.scan_of_ascii {bytes : List UInt8} (h : IsAscii bytes) :
    ShiftJis.scan bytes = asciiScan bytes := by
  induction bytes with
  | nil => exact ShiftJis.scan_nil
  | cons b rest ih =>
    obtain ⟨hb, hrest⟩ := List.forall_mem_cons.mp h
    have hlead : ShiftJis.isLead b = false := by
      simp only [ShiftJis.isLead]
      grind
    rw [ShiftJis.scan_single hlead, ih hrest]
    simp [ShiftJis.single?, asciiScan]
    grind

theorem Gb18030.scan_of_ascii {bytes : List UInt8} (h : IsAscii bytes) :
    Gb18030.scan bytes = asciiScan bytes := by
  induction bytes with
  | nil => exact Gb18030.scan_nil
  | cons b rest ih =>
    obtain ⟨hb, hrest⟩ := List.forall_mem_cons.mp h
    have hlead : Gb18030.isLead b = false := by
      simp only [Gb18030.isLead]
      grind
    rw [Gb18030.scan_single hlead, ih hrest]
    simp [Gb18030.single?, asciiScan, hb]

theorem Utf8.scan_of_ascii {bytes : List UInt8} (h : IsAscii bytes) :
    Utf8.scan bytes = asciiScan bytes := by
  induction bytes with
  | nil => exact Utf8.scan_nil
  | cons b rest ih =>
    obtain ⟨hb, hrest⟩ := List.forall_mem_cons.mp h
    rw [Utf8.scan_one hb, ih hrest]
    rfl

end Text

namespace Encoding

open Text

theorem scan_of_ascii (e : Encoding) {bytes : List UInt8} (h : IsAscii bytes) :
    e.scan bytes = asciiScan bytes := by
  cases e with
  | shiftJis => exact ShiftJis.scan_of_ascii h
  | gb18030 => exact Gb18030.scan_of_ascii h
  | utf8 => exact Utf8.scan_of_ascii h

/-- No byte order mark is ASCII. -/
theorem scanMarked_of_ascii (e : Encoding) {bytes : List UInt8} (h : IsAscii bytes) :
    e.scanMarked bytes = asciiScan bytes := by
  rw [← e.scan_of_ascii h]
  unfold scanMarked
  split
  · exact absurd (h 0xEF List.mem_cons_self) (by decide)
  · exact absurd (h 0xFE List.mem_cons_self) (by decide)
  · exact absurd (h 0xFF List.mem_cons_self) (by decide)
  · rfl

end Encoding

end SceneScript
