import Mathlib.Tactic.SplitIfs
import SceneScript.Text.Encoding

/-
  Bytes that a reader takes for one character, whatever stands behind them
  (`Spells`). In Shift_JIS and GB 18030 these are the bytes that are read as
  the character when they stand alone: a reader that ends with them starts
  anew behind them, though the bytes behind a lead may look like ASCII or like
  leads themselves. In UTF-8 every character is spelled by its bytes.
-/

namespace SceneScript.Text

variable {b b₁ b₂ b₃ b₄ : UInt8} {c : Char} {bytes rest : List UInt8}

theorem char?_toNat (c : Char) : char? c.toNat = some c := by
  rw [char?, if_pos (show c.toNat.isValidChar from c.valid), Char.ofNat_toNat]

/-- The bytes are read as the character wherever they begin. -/
def Spells (scan : List UInt8 → Scanned) (bytes : List UInt8) (c : Char) : Prop :=
  ∀ rest, scan (bytes ++ rest) = some c :: scan rest

/-- Spelled one by one, characters are read one by one. -/
theorem Spells.flatMap {scan : List UInt8 → Scanned} (hnil : scan [] = [])
    {write : Char → List UInt8} {text : List Char} (h : ∀ c ∈ text, Spells scan (write c) c) :
    scan (text.flatMap write) = text.map some := by
  induction text with
  | nil => exact hnil
  | cons c more ih =>
    obtain ⟨hc, hmore⟩ := List.forall_mem_cons.mp h
    rw [List.flatMap_cons, hc, ih hmore, List.map_cons]

/-- A row of a table is looked into as a list of characters. -/
theorem Grid.ofTexts_cons (lead : UInt8) (row : List Char) (rows : List (UInt8 × String)) :
    Grid.ofTexts ((lead, String.ofList row) :: rows) = (lead, row) :: Grid.ofTexts rows := by
  rw [Grid.ofTexts, List.map_cons, String.toList_ofList]
  rfl

/-! ## Shift_JIS -/

namespace ShiftJis

theorem scan_nil : scan [] = [] := by
  rw [scan]

theorem scan_single (hb : isLead b = false) : scan (b :: rest) = single? b :: scan rest := by
  rw [scan.eq_def]
  simp only [hb, Bool.false_eq_true, if_false]

theorem scan_pair (hb : isLead b₁) (hc : pairChar? b₁ b₂ = some c) :
    scan (b₁ :: b₂ :: rest) = some c :: scan rest := by
  rw [scan.eq_def]
  simp only [hb, if_true, hc]

/-- Every byte that is read leaves something. -/
theorem eq_nil_of_scan (h : scan bytes = []) : bytes = [] := by
  cases bytes with
  | nil => rfl
  | cons b more =>
    rw [scan.eq_def] at h
    grind

/-- What bytes can be if they do not begin with something malformed: one that
is no lead, or a pair. -/
theorem beginning (h : (scan bytes).head? = some (some c)) :
    (∃ b more, bytes = b :: more ∧ isLead b = false) ∨
      ∃ b₁ b₂ more, bytes = b₁ :: b₂ :: more ∧ isLead b₁ ∧ pairChar? b₁ b₂ = some c := by
  cases bytes with
  | nil =>
    rw [scan_nil] at h
    cases h
  | cons b₁ more =>
    rw [scan.eq_def] at h
    cases h₁ : isLead b₁ with
    | false => exact .inl ⟨b₁, more, rfl, h₁⟩
    | true =>
      simp only [h₁, if_true] at h
      cases more with
      | nil => cases h
      | cons b₂ more =>
        cases hpair : pairChar? b₁ b₂ with
        | none => simp [hpair] at h
        | some d =>
          simp only [hpair, List.head?_cons, Option.some.injEq] at h
          exact .inr ⟨b₁, b₂, more, rfl, h₁, h ▸ hpair⟩

theorem spells_of_scan (h : scan bytes = [some c]) : Spells scan bytes c := by
  intro rest
  have hhead : (scan bytes).head? = some (some c) := by rw [h, List.head?_cons]
  obtain ⟨b, more, rfl, hb⟩ | ⟨b₁, b₂, more, rfl, hb, hpair⟩ := beginning hhead
  · rw [scan_single hb] at h
    obtain ⟨hc, hmore⟩ := List.cons.inj h
    rw [eq_nil_of_scan hmore, List.singleton_append, scan_single hb, hc]
  · rw [scan_pair hb hpair] at h
    obtain ⟨-, hmore⟩ := List.cons.inj h
    rw [eq_nil_of_scan hmore]
    exact scan_pair hb hpair

theorem length_le_of_encodeChar? (h : encodeChar? c = some bytes) : bytes.length ≤ 2 := by
  unfold encodeChar? at h
  grind [Option.map_eq_some_iff]

/-- There are no bytes for the character that shows malformed ones. -/
theorem encodeChar?_replacement : encodeChar? replacement = none := by
  decide +kernel

end ShiftJis

/-! ## GB 18030 -/

namespace Gb18030

theorem scan_nil : scan [] = [] := by
  rw [scan]

theorem scan_single (hb : isLead b = false) : scan (b :: rest) = single? b :: scan rest := by
  rw [scan.eq_def]
  simp only [hb, Bool.false_eq_true, if_false]

theorem scan_pair (hb : isLead b₁) (hd : isDigit b₂ = false) (hc : grid.char? b₁ b₂ = some c) :
    scan (b₁ :: b₂ :: rest) = some c :: scan rest := by
  rw [scan.eq_def]
  simp only [hb, if_true, hd, Bool.false_eq_true, if_false, hc]

theorem scan_form (h₁ : isLead b₁) (h₂ : isDigit b₂) (h₃ : isLead b₃) (h₄ : isDigit b₄) :
    scan (b₁ :: b₂ :: b₃ :: b₄ :: rest) = formChar? (formNumber b₁ b₂ b₃ b₄) :: scan rest := by
  rw [scan.eq_def]
  simp only [h₁, h₂, h₃, h₄, if_true]

theorem eq_nil_of_scan (h : scan bytes = []) : bytes = [] := by
  cases bytes with
  | nil => rfl
  | cons b more =>
    rw [scan.eq_def] at h
    grind

/-- What bytes can be if they do not begin with something malformed: one that
is no lead, a pair, or a form of four. -/
theorem beginning (h : (scan bytes).head? = some (some c)) :
    (∃ b more, bytes = b :: more ∧ isLead b = false) ∨
      (∃ b₁ b₂ more, bytes = b₁ :: b₂ :: more ∧ isLead b₁ ∧ isDigit b₂ = false ∧
        grid.char? b₁ b₂ = some c) ∨
      ∃ b₁ b₂ b₃ b₄ more, bytes = b₁ :: b₂ :: b₃ :: b₄ :: more ∧ isLead b₁ ∧ isDigit b₂ ∧
        isLead b₃ ∧ isDigit b₄ := by
  cases bytes with
  | nil =>
    rw [scan_nil] at h
    cases h
  | cons b₁ more =>
    rw [scan.eq_def] at h
    cases h₁ : isLead b₁ with
    | false => exact .inl ⟨b₁, more, rfl, h₁⟩
    | true =>
      simp only [h₁, if_true] at h
      cases more with
      | nil => cases h
      | cons b₂ more =>
        cases h₂ : isDigit b₂ with
        | false =>
          simp only [h₂, Bool.false_eq_true, if_false] at h
          cases hpair : grid.char? b₁ b₂ with
          | none => simp [hpair] at h
          | some d =>
            simp only [hpair, List.head?_cons, Option.some.injEq] at h
            exact .inr (.inl ⟨b₁, b₂, more, rfl, h₁, h₂, h ▸ hpair⟩)
        | true =>
          simp only [h₂, if_true] at h
          cases more with
          | nil => cases h
          | cons b₃ more =>
            cases h₃ : isLead b₃ with
            | false => simp [h₃] at h
            | true =>
              simp only [h₃, if_true] at h
              cases more with
              | nil => cases h
              | cons b₄ more =>
                cases h₄ : isDigit b₄ with
                | false => simp [h₄] at h
                | true => exact .inr (.inr ⟨b₁, b₂, b₃, b₄, more, rfl, h₁, h₂, h₃, h₄⟩)

theorem spells_of_scan (h : scan bytes = [some c]) : Spells scan bytes c := by
  intro rest
  have hhead : (scan bytes).head? = some (some c) := by rw [h, List.head?_cons]
  obtain ⟨b, more, rfl, hb⟩ | ⟨b₁, b₂, more, rfl, h₁, h₂, hpair⟩ |
    ⟨b₁, b₂, b₃, b₄, more, rfl, h₁, h₂, h₃, h₄⟩ := beginning hhead
  · rw [scan_single hb] at h
    obtain ⟨hc, hmore⟩ := List.cons.inj h
    rw [eq_nil_of_scan hmore, List.singleton_append, scan_single hb, hc]
  · rw [scan_pair h₁ h₂ hpair] at h
    obtain ⟨-, hmore⟩ := List.cons.inj h
    rw [eq_nil_of_scan hmore]
    exact scan_pair h₁ h₂ hpair
  · rw [scan_form h₁ h₂ h₃ h₄] at h
    obtain ⟨hc, hmore⟩ := List.cons.inj h
    rw [eq_nil_of_scan hmore, ← hc]
    exact scan_form h₁ h₂ h₃ h₄

theorem isDigit_second_of_formBytes (number : Nat) :
    ∃ b₁ b₂ more, formBytes number = b₁ :: b₂ :: more ∧ isDigit b₂ := by
  refine ⟨_, _, _, rfl, ?_⟩
  simp [isDigit, UInt8.le_iff_toNat_le]
  omega

/-- The bytes of a character are two at most, or a form of four. -/
theorem shape_of_encodeChar? (h : encodeChar? c = some bytes) :
    bytes.length ≤ 2 ∨ ∃ number, bytes = formBytes number := by
  unfold encodeChar? at h
  grind [Option.map_eq_some_iff]

/-- The character that shows malformed bytes has a form of its own. -/
theorem encodeChar?_replacement : encodeChar? replacement = some [0x84, 0x31, 0xA4, 0x37] := by
  decide +kernel

theorem scan_replacement : scan [0x84, 0x31, 0xA4, 0x37] = [some replacement] := by
  decide +kernel

end Gb18030

/-! ## UTF-8 -/

namespace Utf8

theorem scan_nil : scan [] = [] := by
  rw [scan]

theorem between_iff {low high : UInt8} :
    low ≤ b ∧ b ≤ high ↔ low.toNat ≤ b.toNat ∧ b.toNat ≤ high.toNat := by
  rw [UInt8.le_iff_toNat_le, UInt8.le_iff_toNat_le]

theorem isContinuation_iff : isContinuation b ↔ 0x80 ≤ b.toNat ∧ b.toNat ≤ 0xBF := by
  simp [isContinuation, UInt8.le_iff_toNat_le]

theorem isSecondOfThree_iff :
    isSecondOfThree b₁ b₂ ↔ (0x80 ≤ b₂.toNat ∧ b₂.toNat ≤ 0xBF) ∧
      (b₁.toNat = 0xE0 → 0xA0 ≤ b₂.toNat) ∧ (b₁.toNat = 0xED → b₂.toNat ≤ 0x9F) := by
  have he0 : b₁ = 0xE0 ↔ b₁.toNat = 0xE0 := UInt8.toNat_inj.symm
  have hed : b₁ = 0xED ↔ b₁.toNat = 0xED := UInt8.toNat_inj.symm
  simp only [isSecondOfThree, he0, hed]
  split_ifs <;> simp [isContinuation, UInt8.le_iff_toNat_le] <;> omega

theorem isSecondOfFour_iff :
    isSecondOfFour b₁ b₂ ↔ (0x80 ≤ b₂.toNat ∧ b₂.toNat ≤ 0xBF) ∧
      (b₁.toNat = 0xF0 → 0x90 ≤ b₂.toNat) ∧ (b₁.toNat = 0xF4 → b₂.toNat ≤ 0x8F) := by
  have hf0 : b₁ = 0xF0 ↔ b₁.toNat = 0xF0 := UInt8.toNat_inj.symm
  have hf4 : b₁ = 0xF4 ↔ b₁.toNat = 0xF4 := UInt8.toNat_inj.symm
  simp only [isSecondOfFour, hf0, hf4]
  split_ifs <;> simp [isContinuation, UInt8.le_iff_toNat_le] <;> omega

theorem scan_one (h₁ : b₁ < 0x80) : scan (b₁ :: rest) = char? b₁.toNat :: scan rest := by
  rw [scan.eq_def]
  simp only [if_pos h₁]

theorem scan_two (h₁ : 0xC2 ≤ b₁ ∧ b₁ ≤ 0xDF) (h₂ : isContinuation b₂) :
    scan (b₁ :: b₂ :: rest) = two? b₁ b₂ :: scan rest := by
  have hascii : ¬ b₁ < 0x80 := by grind
  rw [scan.eq_def]
  simp only [if_neg hascii, if_pos h₁, if_pos h₂]

theorem scan_three (h₁ : 0xE0 ≤ b₁ ∧ b₁ ≤ 0xEF) (h₂ : isSecondOfThree b₁ b₂)
    (h₃ : isContinuation b₃) :
    scan (b₁ :: b₂ :: b₃ :: rest) = three? b₁ b₂ b₃ :: scan rest := by
  have hascii : ¬ b₁ < 0x80 := by grind
  have htwo : ¬ (0xC2 ≤ b₁ ∧ b₁ ≤ 0xDF) := by grind
  rw [scan.eq_def]
  simp only [if_neg hascii, if_neg htwo, if_pos h₁, if_pos h₂, if_pos h₃]

theorem scan_four (h₁ : 0xF0 ≤ b₁ ∧ b₁ ≤ 0xF4) (h₂ : isSecondOfFour b₁ b₂)
    (h₃ : isContinuation b₃) (h₄ : isContinuation b₄) :
    scan (b₁ :: b₂ :: b₃ :: b₄ :: rest) = four? b₁ b₂ b₃ b₄ :: scan rest := by
  have hascii : ¬ b₁ < 0x80 := by grind
  have htwo : ¬ (0xC2 ≤ b₁ ∧ b₁ ≤ 0xDF) := by grind
  have hthree : ¬ (0xE0 ≤ b₁ ∧ b₁ ≤ 0xEF) := by grind
  rw [scan.eq_def]
  simp only [if_neg hascii, if_neg htwo, if_neg hthree, if_pos h₁, if_pos h₂, if_pos h₃, if_pos h₄]

/-- Bytes from 0xF5 on begin nothing. -/
theorem scan_above (h₁ : 0xF4 < b₁) : scan (b₁ :: rest) = none :: scan rest := by
  have hascii : ¬ b₁ < 0x80 := by grind
  have htwo : ¬ (0xC2 ≤ b₁ ∧ b₁ ≤ 0xDF) := by grind
  have hthree : ¬ (0xE0 ≤ b₁ ∧ b₁ ≤ 0xEF) := by grind
  have hfour : ¬ (0xF0 ≤ b₁ ∧ b₁ ≤ 0xF4) := by grind
  rw [scan.eq_def]
  simp only [if_neg hascii, if_neg htwo, if_neg hthree, if_neg hfour]

theorem toNat_byte {n : Nat} (h : n < 256) : (UInt8.ofNat n).toNat = n :=
  UInt8.toNat_ofNat_of_lt' h

/-- The bits of a character's number are cut into groups of six, and the reader
puts them together again. The second byte is checked against surrogates and
spellings longer than need be, and no character is written as either. -/
theorem spells_encodeChar (c : Char) : Spells scan (encodeChar c) c := by
  intro rest
  have hvalid : c.toNat < 0xD800 ∨ 0xDFFF < c.toNat ∧ c.toNat < 0x110000 := c.valid
  have hc := char?_toNat c
  unfold encodeChar
  generalize c.toNat = n at hvalid hc
  dsimp only
  have hlast : (UInt8.ofNat (0x80 + n % 64)).toNat = 0x80 + n % 64 := toNat_byte (by omega)
  have hlow : isContinuation (UInt8.ofNat (0x80 + n % 64)) := by
    rw [isContinuation_iff, hlast]
    omega
  have hmiddle : (UInt8.ofNat (0x80 + n / 64 % 64)).toNat = 0x80 + n / 64 % 64 :=
    toNat_byte (by omega)
  split_ifs with hone htwo hthree
  · have hfirst : (UInt8.ofNat n).toNat = n := toNat_byte (by omega)
    have hascii : UInt8.ofNat n < 0x80 := by
      rw [UInt8.lt_iff_toNat_lt, hfirst]
      exact hone
    rw [List.singleton_append, scan_one hascii, hfirst, hc]
  · have hfirst : (UInt8.ofNat (0xC0 + n / 64)).toNat = 0xC0 + n / 64 := toNat_byte (by omega)
    have hlead : 0xC2 ≤ UInt8.ofNat (0xC0 + n / 64) ∧ UInt8.ofNat (0xC0 + n / 64) ≤ 0xDF := by
      rw [between_iff, hfirst]
      simp
      omega
    have hvalue : (0xC0 + n / 64) % 32 * 64 + (0x80 + n % 64) % 64 = n := by omega
    simp only [List.cons_append, List.nil_append]
    rw [scan_two hlead hlow, two?, payload, hfirst, hlast, hvalue, hc]
  · have hfirst : (UInt8.ofNat (0xE0 + n / 4096)).toNat = 0xE0 + n / 4096 := toNat_byte (by omega)
    have hlead : 0xE0 ≤ UInt8.ofNat (0xE0 + n / 4096) ∧ UInt8.ofNat (0xE0 + n / 4096) ≤ 0xEF := by
      rw [between_iff, hfirst]
      simp
      omega
    have hsecond : isSecondOfThree (UInt8.ofNat (0xE0 + n / 4096))
        (UInt8.ofNat (0x80 + n / 64 % 64)) := by
      rw [isSecondOfThree_iff, hfirst, hmiddle]
      omega
    have hvalue : ((0xE0 + n / 4096) % 16 * 64 + (0x80 + n / 64 % 64) % 64) * 64 +
        (0x80 + n % 64) % 64 = n := by omega
    simp only [List.cons_append, List.nil_append]
    rw [scan_three hlead hsecond hlow, three?, payload, payload, hfirst, hmiddle, hlast, hvalue, hc]
  · have hfirst : (UInt8.ofNat (0xF0 + n / 262144)).toNat = 0xF0 + n / 262144 :=
      toNat_byte (by omega)
    have hupper : (UInt8.ofNat (0x80 + n / 4096 % 64)).toNat = 0x80 + n / 4096 % 64 :=
      toNat_byte (by omega)
    have hlead : 0xF0 ≤ UInt8.ofNat (0xF0 + n / 262144) ∧
        UInt8.ofNat (0xF0 + n / 262144) ≤ 0xF4 := by
      rw [between_iff, hfirst]
      simp
      omega
    have hsecond : isSecondOfFour (UInt8.ofNat (0xF0 + n / 262144))
        (UInt8.ofNat (0x80 + n / 4096 % 64)) := by
      rw [isSecondOfFour_iff, hfirst, hupper]
      omega
    have hthird : isContinuation (UInt8.ofNat (0x80 + n / 64 % 64)) := by
      rw [isContinuation_iff, hmiddle]
      omega
    have hvalue : (((0xF0 + n / 262144) % 8 * 64 + (0x80 + n / 4096 % 64) % 64) * 64 +
        (0x80 + n / 64 % 64) % 64) * 64 + (0x80 + n % 64) % 64 = n := by omega
    simp only [List.cons_append, List.nil_append]
    rw [scan_four hlead hsecond hthird hlow, four?, payload, payload, payload, hfirst, hupper,
      hmiddle, hlast, hvalue, hc]

end Utf8

end SceneScript.Text
