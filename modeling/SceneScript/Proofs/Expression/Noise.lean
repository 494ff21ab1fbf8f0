import SceneScript.Proofs.Expression.Verdict

/-
  What does not matter in an expression. A byte string of whole instructions
  is taken as it stands (`Raw`): opcode byte, length field, operand. Unknown
  opcodes and, texts excepted, length fields do not show in its text
  (`text_of_essence`), wherever they stand: a run applies the instructions
  that `Raw.instr?` names, one after the other, and an unknown opcode names
  none.
-/

namespace SceneScript.Expression

/-- How many bytes of operand follow an opcode byte; none follow an unknown
one. -/
def operandLength (code : UInt8) (len : UInt16) : Nat :=
  match Opcode.ofCode? code with
  | some op => op.operandSize len
  | none => 0

/-- An instruction as it stands in a byte string. -/
structure Raw where
  code : UInt8
  /-- The length field. -/
  len : UInt16
  operand : List UInt8
  fits : operand.length = operandLength code len

namespace Raw

def bytes (r : Raw) : List UInt8 := [r.code] ++ (leBytes 2 r.len.toNat ++ r.operand)

/-- Whether the opcode has a meaning. -/
def isKnown (r : Raw) : Bool := (Opcode.ofCode? r.code).isSome

/-- Only the operand of a text is as long as its length field says. -/
theorem operandLength_of_ne {code : UInt8} (h : code ≠ Opcode.text.code) (len len' : UInt16) :
    operandLength code len = operandLength code len' := by
  unfold operandLength
  split
  · next op hop =>
    cases op with
    | text => exact absurd (code_of_ofCode? hop).symm h
    | _ => rfl
  · rfl

/-- The instruction with its length field overwritten, unless it is a text. -/
def cleared (r : Raw) : Raw :=
  if h : r.code = Opcode.text.code then r
  else ⟨r.code, 0, r.operand, r.fits.trans (operandLength_of_ne h r.len 0)⟩

/-- What matters of some instructions: those with a known opcode, length fields
that are not used overwritten. -/
def essence (raws : List Raw) : List Raw := (raws.filter isKnown).map cleared

theorem length_operand {r : Raw} {op : Opcode} (h : Opcode.ofCode? r.code = some op) :
    r.operand.length = op.operandSize r.len := by
  rw [r.fits, operandLength, h]

/-- The instruction that is meant; none for an unknown opcode. -/
def instr? (r : Raw) : Option Instr :=
  match h : Opcode.ofCode? r.code with
  | some op => some (.ofOperand r.len r.operand op (length_operand h))
  | none => none

theorem instr?_of_known {r : Raw} {op : Opcode} (h : Opcode.ofCode? r.code = some op) :
    r.instr? = some (.ofOperand r.len r.operand op (length_operand h)) := by
  unfold instr?
  split
  · next op' h' =>
    obtain rfl : op = op' := Option.some.inj (h.symm.trans h')
    rfl
  · next h' => cases h.symm.trans h'

theorem instr?_of_unknown {r : Raw} (h : Opcode.ofCode? r.code = none) : r.instr? = none := by
  unfold instr?
  split
  · next op h' => cases h.symm.trans h'
  · rfl

theorem isSome_instr? (r : Raw) : r.instr?.isSome = r.isKnown := by
  unfold isKnown
  cases h : Opcode.ofCode? r.code with
  | none => rw [instr?_of_unknown h]; rfl
  | some op => rw [instr?_of_known h]; rfl

/-- The length field of a text alone has a meaning. -/
theorem instr?_congr {r r' : Raw} (hcode : r.code = r'.code) (hoperand : r.operand = r'.operand)
    (hlen : r.code = Opcode.text.code → r.len = r'.len) : r.instr? = r'.instr? := by
  cases h : Opcode.ofCode? r.code with
  | none => rw [instr?_of_unknown h, instr?_of_unknown (hcode ▸ h)]
  | some op =>
    rw [instr?_of_known h, instr?_of_known (hcode ▸ h)]
    obtain ⟨code, len, operand, fits⟩ := r
    obtain ⟨code', len', operand', fits'⟩ := r'
    simp only at hcode hoperand hlen
    subst hcode hoperand
    cases op with
    | text =>
      have hsame := hlen (code_of_ofCode? h).symm
      subst hsame
      rfl
    | _ => rfl

theorem instr?_cleared (r : Raw) : r.cleared.instr? = r.instr? := by
  unfold cleared
  split
  · rfl
  · next hcode => exact instr?_congr rfl rfl (fun h => absurd h hcode)

/-- The instructions that are meant depend on what matters only. -/
theorem filterMap_essence (raws : List Raw) :
    (essence raws).filterMap instr? = raws.filterMap instr? := by
  induction raws with
  | nil => rfl
  | cons r rest ih =>
    unfold essence at ih ⊢
    have hsome := isSome_instr? r
    cases hknown : r.isKnown with
    | true =>
      rw [List.filter_cons_of_pos hknown, List.map_cons, List.filterMap_cons, instr?_cleared, ih,
        List.filterMap_cons]
    | false =>
      rw [hknown, Option.isSome_eq_false_iff, Option.isNone_iff_eq_none] at hsome
      rw [List.filter_cons_of_neg (by simp [hknown]), ih, List.filterMap_cons_none hsome]

/-! ## Running what stands there -/

theorem first?_bytes (r : Raw) (rest : List UInt8) :
    first? (r.bytes ++ rest) = some (r.instr?, rest) := by
  cases h : Opcode.ofCode? r.code with
  | none =>
    have hnil : r.operand = [] := by
      apply List.eq_nil_of_length_eq_zero
      rw [r.fits, operandLength, h]
    have hunknown : ∀ low high, first? (r.code :: low :: high :: rest) = some (none, rest) := by
      intro low high
      rw [first?, h]
    rw [instr?_of_unknown h, bytes, hnil]
    exact hunknown _ _
  | some op =>
    have hallows := allows_ofOperand (length_operand h)
    have hfirst := first?_of_allows hallows rest
    rw [opcode_ofOperand, code_of_ofCode? h] at hfirst
    rw [instr?_of_known h]
    exact hfirst

/-- Instructions are found where they stand, and nothing is left. -/
theorem dissect_bytes (raws : List Raw) :
    dissect (raws.flatMap bytes) = (raws.map instr?, []) := by
  induction raws with
  | nil => exact dissect_of_none rfl
  | cons r rest ih =>
    rw [List.flatMap_cons, dissect_of_some (first?_bytes r _), ih, List.map_cons]

end Raw

/-- An unknown opcode leaves the stack as it is. -/
theorem applyAll_filterMap (d : TextDecoder) (raws : List Raw) (stack : Stack) :
    applyAll ((raws.map Raw.instr?).map (actionOf d)) stack =
      applyAll ((raws.filterMap Raw.instr?).map (·.action d)) stack := by
  induction raws generalizing stack with
  | nil => rfl
  | cons r rest ih =>
    cases hr : r.instr? with
    | none =>
      rw [List.filterMap_cons_none hr, List.map_cons, hr]
      exact ih stack
    | some i =>
      rw [List.filterMap_cons_some hr, List.map_cons, hr, List.map_cons, List.map_cons, applyAll,
        applyAll, funext ih]
      rfl

/-- The text of whole instructions is what the known ones leave on the stack. -/
theorem outcome_text_of_raws (d : TextDecoder) (raws : List Raw) :
    (Expression.text d (raws.flatMap Raw.bytes)).outcome =
      (applyAll ((raws.filterMap Raw.instr?).map (·.action d)) []).bind result := by
  obtain ⟨ending, hending, htext⟩ := outcome_text d (raws.flatMap Raw.bytes)
  rw [Raw.dissect_bytes] at hending htext
  rw [htext, applyAll_filterMap]
  cases hending with
  | whole _ => rfl
  | cutOff hne _ _ => exact absurd rfl hne

/-- Whole instructions have a text, or find the stack too low. -/
theorem text_or_underflow (d : TextDecoder) (raws : List Raw) :
    (∃ t, (Expression.text d (raws.flatMap Raw.bytes)).outcome = .ok t) ∨
      ∃ activity, (Expression.text d (raws.flatMap Raw.bytes)).outcome =
        .error (.stackUnderflow activity) := by
  have h := verdict d (raws.flatMap Raw.bytes)
  rw [Raw.dissect_bytes] at h
  generalize runMarks _ [] = marks, (Expression.text d _).outcome = outcome at h ⊢
  cases h with
  | underflow activity _ => exact .inr ⟨activity, rfl⟩
  | cutOff _ hne _ _ => exact absurd rfl hne
  | nothing => exact .inr ⟨_, rfl⟩
  | text _ t => exact .inl ⟨t, rfl⟩

theorem text_eq_of_essence (d : TextDecoder) {a b : List Raw} (h : Raw.essence a = Raw.essence b) :
    (Expression.text d (a.flatMap Raw.bytes)).outcome =
      (Expression.text d (b.flatMap Raw.bytes)).outcome := by
  rw [outcome_text_of_raws, outcome_text_of_raws, ← Raw.filterMap_essence a, h,
    Raw.filterMap_essence b]

/-- **Noise.** Byte strings of whole instructions that agree in what matters
have the same text, or find the stack too low for the same activity. So an
unknown opcode may be put anywhere between two instructions. -/
theorem text_of_essence (d : TextDecoder) :
    (∀ a b : List Raw, Raw.essence a = Raw.essence b →
      (Expression.text d (a.flatMap Raw.bytes)).outcome =
          (Expression.text d (b.flatMap Raw.bytes)).outcome ∧
        ((∃ t, (Expression.text d (a.flatMap Raw.bytes)).outcome = .ok t) ∨
          ∃ activity, (Expression.text d (a.flatMap Raw.bytes)).outcome =
            .error (.stackUnderflow activity))) ∧
    ∀ (front back : List Raw) (r : Raw), r.isKnown = false →
      (Expression.text d ((front ++ r :: back).flatMap Raw.bytes)).outcome =
        (Expression.text d ((front ++ back).flatMap Raw.bytes)).outcome := by
  constructor
  · intro a b h
    exact ⟨text_eq_of_essence d h, text_or_underflow d a⟩
  · intro front back r hr
    apply text_eq_of_essence
    simp [Raw.essence, hr]

/-! ## An index with noise in it -/

namespace Sample

def raw (op : Opcode) (len : UInt16) (operand : List UInt8)
    (h : operand.length = op.operandSize len) : Raw :=
  ⟨op.code, len, operand, h.trans (by rw [operandLength, ofCode?_code])⟩

def unknown (code : UInt8) (len : UInt16) (h : Opcode.ofCode? code = none) : Raw :=
  ⟨code, len, [], by rw [operandLength, h]; rfl⟩

/-- An element of an array with two numbers for its index. -/
def element (len : UInt16) (noise : List Raw) : List Raw :=
  [raw .startIndex len [0x24, 2, 0] rfl] ++ noise ++ [raw .int8 len [5] rfl] ++ noise ++
    [raw .separator len [] rfl] ++ noise ++ [raw .text 1 [0x28] rfl] ++ noise ++
    [raw .endIndex len [0] rfl]

end Sample

open Expression.Sample in
theorem text_of_essence_openIndex :
    Raw.essence (element 0 []) = Raw.essence (element 0xFFFF [unknown 0x01 3 rfl]) ∧
    (Expression.text Encoding.utf8.decoder ((element 0 []).flatMap Raw.bytes)).outcome =
      (Expression.text Encoding.utf8.decoder
        ((element 0xFFFF [unknown 0x01 3 rfl]).flatMap Raw.bytes)).outcome ∧
    (unknown 0xEE 0xFFFF rfl).isKnown = false ∧
    (Expression.text Encoding.utf8.decoder
        ((element 0 [] ++ unknown 0xEE 0xFFFF rfl :: element 1 []).flatMap Raw.bytes)).outcome =
      (Expression.text Encoding.utf8.decoder
        ((element 0 [] ++ element 1 []).flatMap Raw.bytes)).outcome := by
  have hessence : Raw.essence (element 0 []) =
      Raw.essence (element 0xFFFF [unknown 0x01 3 rfl]) := rfl
  have hunknown : (unknown 0xEE 0xFFFF rfl).isKnown = false := rfl
  exact ⟨hessence, ((text_of_essence _).1 _ _ hessence).1, hunknown,
    (text_of_essence _).2 _ _ _ hunknown⟩

end SceneScript.Expression
