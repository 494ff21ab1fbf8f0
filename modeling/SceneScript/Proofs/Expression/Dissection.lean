import Mathlib.Data.List.Basic
import SceneScript.Proofs.Bytes.RunningOut
import SceneScript.Proofs.Expression.Instructions

/-
  Byte strings cut into instructions. Every byte string is some whole
  instructions, with unknown opcodes among them, and a rest that is empty or
  the beginning of one more (`dissect`). Code is cut into the instructions it
  is code for (`dissect_of_code`). Whatever the bytes, a run gives what the
  whole instructions do to the stack; after them it ends with the result, or
  out of bounds if there is a rest (`outcome_text`).
-/

namespace SceneScript

/-- How many bytes the operand of an opcode takes, `len` being its length
field. -/
def Opcode.operandSize (len : UInt16) : Opcode → Nat
  | .binary _ | .unary _ | .separator => 0
  | .int8 | .endIndex => 1
  | .int16 => 2
  | .scalar | .array | .startIndex => 3
  | .int32 => 4
  | .int64 | .double => 8
  | .text => len.toNat

namespace Expression

/-- The instruction with a given operand. -/
def Instr.ofOperand (len : UInt16) (operand : List UInt8) :
    (op : Opcode) → operand.length = op.operandSize len → Instr
  | .binary op, _ => .binary op
  | .unary op, _ => .unary op
  | .separator, _ => .separator
  | .endIndex, _ => .closeIndex
  | .int8, _ => .leaf (.int8 (UInt8.ofNat (leNat operand)))
  | .int16, _ => .leaf (.int16 (leWord16 operand).toInt16)
  | .int32, _ => .leaf (.int32 (leWord32 operand).toInt32)
  | .int64, _ => .leaf (.int64 (leWord64 operand).toInt64)
  | .double, _ => .leaf (.double (leWord64 operand))
  | .text, h => .leaf (.text operand (h ▸ len.toNat_lt))
  | .scalar, _ => .leaf (.scalar (operand.headD 0) (leWord16 operand.tail).toInt16)
  | .array, _ => .leaf (.array (operand.headD 0) (leWord16 operand.tail).toInt16)
  | .startIndex, _ => .openIndex (operand.headD 0) (leWord16 operand.tail).toInt16

/-- The instruction of an opcode whose operand comes next, and the bytes after
it, if there are enough. -/
def Instr.takeOperand? (len : UInt16) (op : Opcode) (bytes : List UInt8) :
    Option (Instr × List UInt8) :=
  if h : op.operandSize len ≤ bytes.length then
    some (.ofOperand len (bytes.take (op.operandSize len)) op (List.length_take_of_le h),
      bytes.drop (op.operandSize len))
  else none

/-- The instruction that a byte string begins with and the bytes after it, if
the bytes do not end inside it. One with an unknown opcode has no operand. -/
def first? : List UInt8 → Option (Option Instr × List UInt8)
  | code :: low :: high :: rest =>
    match Opcode.ofCode? code with
    | none => some (none, rest)
    | some op => (Instr.takeOperand? (leWord16 [low, high]) op rest).map (Prod.map some id)
  | _ => none

/-- Every instruction has three bytes at least. -/
theorem length_of_first? {bytes rest : List UInt8} {step : Option Instr}
    (h : first? bytes = some (step, rest)) : rest.length + 3 ≤ bytes.length := by
  unfold first? at h
  split at h
  · split at h
    · cases h
      simp
    · obtain ⟨⟨i, left⟩, htake, heq⟩ := Option.map_eq_some_iff.mp h
      obtain ⟨rfl, rfl⟩ := Prod.mk.inj heq
      unfold Instr.takeOperand? at htake
      split at htake
      · cases htake
        simp
      · cases htake
  · cases h

/-- The whole instructions of a byte string, in order, and what is left. -/
def dissect (bytes : List UInt8) : List (Option Instr) × List UInt8 :=
  match h : first? bytes with
  | none => ([], bytes)
  | some (step, rest) =>
    have := length_of_first? h
    (step :: (dissect rest).1, (dissect rest).2)
termination_by bytes.length

theorem dissect_of_none {bytes : List UInt8} (h : first? bytes = none) :
    dissect bytes = ([], bytes) := by
  rw [dissect]
  split
  · rfl
  · next heq => rw [h] at heq; cases heq

theorem dissect_of_some {bytes rest : List UInt8} {step : Option Instr}
    (h : first? bytes = some (step, rest)) :
    dissect bytes = (step :: (dissect rest).1, (dissect rest).2) := by
  rw [dissect]
  split
  · next heq => rw [h] at heq; cases heq
  · next heq =>
    rw [h] at heq
    cases heq
    rfl

/-! ## Operands -/

theorem opcode_ofOperand {len : UInt16} {operand : List UInt8} {op : Opcode}
    (h : operand.length = op.operandSize len) : (Instr.ofOperand len operand op h).opcode = op := by
  cases op <;> rfl

theorem byte_of_length_one {bytes : List UInt8} (h : bytes.length = 1) :
    bytes = [UInt8.ofNat (leNat bytes)] := by
  obtain ⟨b, rfl⟩ := List.length_eq_one_iff.mp h
  simp [leNat]

theorem variableBytes_of_length {bytes : List UInt8} (h : bytes.length = 3) :
    bytes = variableBytes (bytes.headD 0) (leWord16 bytes.tail).toInt16 := by
  obtain ⟨sigil, low, high, rfl⟩ := List.length_eq_three.mp h
  rw [variableBytes, UInt16.toUInt16_toInt16, List.tail_cons, leBytes_leWord16 rfl]
  rfl

/-- Bytes are the operand of the instruction that they are taken for. -/
theorem allows_ofOperand {len : UInt16} {operand : List UInt8} {op : Opcode}
    (h : operand.length = op.operandSize len) :
    (Instr.ofOperand len operand op h).Allows len operand := by
  cases op with
  | binary op => exact List.eq_nil_of_length_eq_zero h
  | unary op => exact List.eq_nil_of_length_eq_zero h
  | separator => exact List.eq_nil_of_length_eq_zero h
  | endIndex => exact h
  | int8 => exact byte_of_length_one h
  | int16 =>
    show operand = leBytes 2 (leWord16 operand).toInt16.toUInt16.toNat
    rw [UInt16.toUInt16_toInt16, leBytes_leWord16 h]
  | int32 =>
    show operand = leBytes 4 (leWord32 operand).toInt32.toUInt32.toNat
    rw [UInt32.toUInt32_toInt32, leBytes_leWord32 h]
  | int64 =>
    show operand = leBytes 8 (leWord64 operand).toInt64.toUInt64.toNat
    rw [UInt64.toUInt64_toInt64, leBytes_leWord64 h]
  | double => exact (leBytes_leWord64 h).symm
  | text => exact ⟨h.symm, rfl⟩
  | scalar => exact variableBytes_of_length h
  | array => exact variableBytes_of_length h
  | startIndex => exact variableBytes_of_length h

theorem leWord16_variableBytes (sigil : UInt8) (id : Int16) :
    (leWord16 (variableBytes sigil id).tail).toInt16 = id := by
  show (leWord16 (leBytes 2 id.toUInt16.toNat)).toInt16 = id
  rw [leWord16_leBytes, Int16.toInt16_toUInt16]

/-- An operand of an instruction is taken for that instruction. -/
theorem ofOperand_of_allows {i : Instr} {len : UInt16} {operand : List UInt8}
    (h : i.Allows len operand) : ∃ hsize, Instr.ofOperand len operand i.opcode hsize = i := by
  cases i with
  | leaf l =>
    cases l with
    | int8 n =>
      obtain rfl : operand = [n] := h
      exact ⟨rfl, by simp [Instr.ofOperand, Instr.opcode, Leaf.opcode, leNat]⟩
    | int16 n =>
      obtain rfl : operand = leBytes 2 n.toUInt16.toNat := h
      refine ⟨length_leBytes 2 _, ?_⟩
      show Instr.leaf (.int16 (leWord16 _).toInt16) = _
      rw [leWord16_leBytes, Int16.toInt16_toUInt16]
    | int32 n =>
      obtain rfl : operand = leBytes 4 n.toUInt32.toNat := h
      refine ⟨length_leBytes 4 _, ?_⟩
      show Instr.leaf (.int32 (leWord32 _).toInt32) = _
      rw [leWord32_leBytes, Int32.toInt32_toUInt32]
    | int64 n =>
      obtain rfl : operand = leBytes 8 n.toUInt64.toNat := h
      refine ⟨length_leBytes 8 _, ?_⟩
      show Instr.leaf (.int64 (leWord64 _).toInt64) = _
      rw [leWord64_leBytes, Int64.toInt64_toUInt64]
    | double bits =>
      obtain rfl : operand = leBytes 8 bits.toNat := h
      refine ⟨length_leBytes 8 _, ?_⟩
      show Instr.leaf (.double (leWord64 _)) = _
      rw [leWord64_leBytes]
    | text bytes short =>
      obtain ⟨hlen, rfl⟩ : len.toNat = bytes.length ∧ operand = bytes := h
      exact ⟨hlen.symm, rfl⟩
    | scalar sigil id =>
      obtain rfl : operand = variableBytes sigil id := h
      refine ⟨rfl, ?_⟩
      show Instr.leaf (.scalar sigil (leWord16 (variableBytes sigil id).tail).toInt16) = _
      rw [leWord16_variableBytes]
    | array sigil id =>
      obtain rfl : operand = variableBytes sigil id := h
      refine ⟨rfl, ?_⟩
      show Instr.leaf (.array sigil (leWord16 (variableBytes sigil id).tail).toInt16) = _
      rw [leWord16_variableBytes]
  | openIndex sigil id =>
    obtain rfl : operand = variableBytes sigil id := h
    refine ⟨rfl, ?_⟩
    show Instr.openIndex sigil (leWord16 (variableBytes sigil id).tail).toInt16 = _
    rw [leWord16_variableBytes]
  | closeIndex => exact ⟨h, rfl⟩
  | separator =>
    obtain rfl : operand = [] := h
    exact ⟨rfl, rfl⟩
  | unary op =>
    obtain rfl : operand = [] := h
    exact ⟨rfl, rfl⟩
  | binary op =>
    obtain rfl : operand = [] := h
    exact ⟨rfl, rfl⟩

/-- Code begins with its first instruction. -/
theorem first?_of_allows {i : Instr} {len : UInt16} {operand : List UInt8}
    (h : i.Allows len operand) (rest : List UInt8) :
    first? ([i.opcode.code] ++ (leBytes 2 len.toNat ++ operand) ++ rest) = some (some i, rest) := by
  obtain ⟨hsize, hi⟩ := ofOperand_of_allows h
  have hlen : leWord16 [UInt8.ofNat len.toNat, UInt8.ofNat (len.toNat / 256)] = len :=
    leWord16_leBytes len
  have htake : Instr.takeOperand? len i.opcode (operand ++ rest) = some (i, rest) := by
    unfold Instr.takeOperand?
    rw [dif_pos (by simp [hsize])]
    simp only [← hsize, List.take_left, List.drop_left, hi]
  show (match Opcode.ofCode? i.opcode.code with
    | none => some (none, operand ++ rest)
    | some op => (Instr.takeOperand? _ op (operand ++ rest)).map (.map some id)) = _
  rw [ofCode?_code, hlen]
  show (Instr.takeOperand? len i.opcode (operand ++ rest)).map (Prod.map some id) = _
  rw [htake]
  rfl

/-- Code is cut into the instructions that it is code for. -/
theorem dissect_of_code {instrs : List Instr} {code : List UInt8} (h : Code instrs code) :
    dissect code = (instrs.map some, []) := by
  induction h with
  | nil => exact dissect_of_none rfl
  | cons hi _ ih => rw [dissect_of_some (first?_of_allows hi _), ih, List.map_cons]

/-! ## The first instruction -/

theorem code_of_ofCode? {code : UInt8} {op : Opcode} (h : Opcode.ofCode? code = some op) :
    op.code = code := by
  simpa using List.find?_some h

theorem takeOperand?_eq_some {len : UInt16} {op : Opcode} {bytes rest : List UInt8} {i : Instr}
    (h : Instr.takeOperand? len op bytes = some (i, rest)) :
    ∃ operand, bytes = operand ++ rest ∧ i.opcode = op ∧ i.Allows len operand := by
  unfold Instr.takeOperand? at h
  split at h
  · cases h
    exact ⟨_, (List.take_append_drop _ bytes).symm, opcode_ofOperand _, allows_ofOperand _⟩
  · cases h

/-- Everything that a byte string can begin with. -/
theorem first?_eq_some {bytes rest : List UInt8} {step : Option Instr}
    (h : first? bytes = some (step, rest)) :
    (∃ (i : Instr) (len : UInt16) (operand : List UInt8), step = some i ∧ i.Allows len operand ∧
      bytes = [i.opcode.code] ++ (leBytes 2 len.toNat ++ operand) ++ rest) ∨
    ∃ (code : UInt8) (len : UInt16), step = none ∧ Opcode.ofCode? code = none ∧
      bytes = [code] ++ leBytes 2 len.toNat ++ rest := by
  unfold first? at h
  split at h
  · next code low high more =>
    have hlen : leBytes 2 (leWord16 [low, high]).toNat = [low, high] := leBytes_leWord16 rfl
    split at h
    · next hcode =>
      cases h
      exact .inr ⟨code, leWord16 [low, high], rfl, hcode, by rw [hlen]; rfl⟩
    · next op hcode =>
      obtain ⟨⟨i, left⟩, htake, heq⟩ := Option.map_eq_some_iff.mp h
      obtain ⟨rfl, rfl⟩ := Prod.mk.inj heq
      obtain ⟨operand, rfl, rfl, hallows⟩ := takeOperand?_eq_some htake
      refine .inl ⟨i, leWord16 [low, high], operand, rfl, hallows, ?_⟩
      rw [hlen, code_of_ofCode? hcode]
      rfl
  · cases h

/-- What an instruction does; one with an unknown opcode does nothing. -/
def actionOf (d : TextDecoder) : Option Instr → Action
  | some i => i.action d
  | none => .ignore

/-- The first instruction of a byte string is read from its own bytes. -/
theorem reads_first (d : TextDecoder) {bytes rest : List UInt8} {step : Option Instr}
    (h : first? bytes = some (step, rest)) :
    ∃ own, bytes = own ++ rest ∧ Parser.Reads (Action.read d) own (actionOf d step) := by
  rcases first?_eq_some h with ⟨i, len, operand, rfl, hallows, rfl⟩ | ⟨code, len, rfl, hcode, rfl⟩
  · exact ⟨_, rfl, reads_action d hallows⟩
  · refine ⟨[code] ++ (leBytes 2 len.toNat ++ []), by simp, ?_⟩
    refine (Parser.reads_byte code).bind ((Parser.reads_word16 len).bind ?_)
    rw [hcode]
    exact (Parser.Reads.lift rfl).bind (Parser.Reads.pure Action.ignore)

/-! ## Bytes that end inside an instruction -/

section

variable {buffer : List UInt8} {start : Nat}

theorem runsOut_variable (d : TextDecoder) (h : buffer.length < start + 3)
    (hle : start ≤ buffer.length) : Parser.RunsOut (readVariable d) buffer start := by
  rcases Nat.eq_or_lt_of_le hle with rfl | hlt
  · exact ((Parser.runsOut_take (by omega)).bind _).bind _
  · -- The sigil is there and the number is not.
    have hsigil : StandsAt ((buffer.drop start).take 1) buffer start :=
      standsAt_of_take_drop (by simp; omega) (by simp)
    have hread := Parser.reads_text d (by simp; omega : ((buffer.drop start).take 1).length = 1) _ _
      hsigil
    refine Parser.RunsOut.after hread (((Parser.runsOut_take ?_).bind _).bind _ |>.bind _)
    simp
    omega

theorem runsOut_operand (d : TextDecoder) {op : Opcode} {len : UInt16}
    (h : buffer.length < start + op.operandSize len) (hle : start ≤ buffer.length) :
    Parser.RunsOut (readOperand d len.toNat op) buffer start := by
  cases op with
  | binary op => exact absurd hle (Nat.not_le_of_lt h)
  | unary op => exact absurd hle (Nat.not_le_of_lt h)
  | separator => exact absurd hle (Nat.not_le_of_lt h)
  | endIndex => exact ((Parser.runsOut_take h).bind _).bind _
  | int8 => exact ((Parser.runsOut_take h).bind _).bind _
  | int16 => exact (((Parser.runsOut_take h).bind _).bind _).bind _
  | int32 => exact (((Parser.runsOut_take h).bind _).bind _).bind _
  | int64 => exact (((Parser.runsOut_take h).bind _).bind _).bind _
  | double => exact ((Parser.runsOut_take h).bind _).bind _
  | text => exact ((Parser.runsOut_take h).bind _).bind _
  | scalar => exact (runsOut_variable d h hle).bind _
  | array => exact (runsOut_variable d h hle).bind _
  | startIndex => exact (runsOut_variable d h hle).bind _

end

theorem runsOut_read (d : TextDecoder) (front : List UInt8) {bytes : List UInt8}
    (h : first? bytes = none) (hne : bytes ≠ []) :
    Parser.RunsOut (Action.read d) (front ++ bytes) front.length := by
  obtain ⟨code, more, rfl⟩ := List.exists_cons_of_ne_nil hne
  refine Parser.RunsOut.after (Parser.reads_byte code _ _ ⟨front, more, by simp, rfl⟩) ?_
  match more, h with
  | [], _ => exact ((Parser.runsOut_take (by simp)).bind _).bind _
  | [low], _ => exact ((Parser.runsOut_take (by simp)).bind _).bind _
  | low :: high :: rest, h =>
    have hlen : leBytes 2 (leWord16 [low, high]).toNat = [low, high] := leBytes_leWord16 rfl
    refine Parser.RunsOut.after (Parser.reads_word16 (leWord16 [low, high]) _ _
      ⟨front ++ [code], rest, by rw [hlen]; simp, by simp⟩) ?_
    rw [first?] at h
    split at h
    · cases h
    · next op hcode =>
      rw [hcode]
      refine runsOut_operand d ?_ (by simp; omega)
      have htake := Option.map_eq_none_iff.mp h
      unfold Instr.takeOperand? at htake
      split at htake
      · cases htake
      · next hlong =>
        simp
        omega

/-! ## Running a byte string -/

theorem atEnd_append (front bytes : List UInt8) :
    (⟨(front ++ bytes).toArray, front.length⟩ : Reader).atEnd = true ↔ bytes = [] := by
  show decide ((front ++ bytes).toArray.size ≤ front.length) = true ↔ bytes = []
  rw [decide_eq_true_iff, List.size_toArray, List.length_append]
  constructor
  · intro h
    exact List.eq_nil_of_length_eq_zero (by omega)
  · rintro rfl
    exact Nat.le_refl _

theorem run_succ (d : TextDecoder) (fuel : Nat) (stack : Stack) (r : Reader) :
    run d (fuel + 1) stack r =
      if r.atEnd then (liftM (Traced.ofExcept (result stack)) : Parser String) r
      else (do
        let action ← Action.read d
        let next ← Traced.ofExcept (action.apply stack)
        run d fuel next : Parser String) r := by
  rw [run]
  show (if r.atEnd then _ else _ : Parser String) r = _
  split <;> rfl

theorem outcome_result (stack : Stack) (r : Reader) :
    ((liftM (Traced.ofExcept (result stack)) : Parser String) r).outcome.map Prod.fst =
      result stack := by
  rw [Parser.outcome_lift]
  show Except.map _ (Except.map _ (result stack)) = _
  cases result stack <;> rfl

/-- How a run ends after its last whole instruction. `rest` is what is left of
`size` bytes. -/
inductive Ending (size : Nat) (rest : List UInt8) : (Stack → Except Fault String) → Prop where
  | whole (h : rest = []) : Ending size rest result
  | cutOff (h : rest ≠ []) (offset len : Nat) :
    Ending size rest (fun _ => .error (.outOfBounds offset len size))

/-- A run that finds no whole instruction ends there. -/
theorem outcome_run_of_none (d : TextDecoder) (front : List UInt8) {bytes : List UInt8}
    (hfirst : first? bytes = none) (fuel : Nat) :
    ∃ ending, Ending (front ++ bytes).length bytes ending ∧ ∀ stack,
      (run d (fuel + 1) stack ⟨(front ++ bytes).toArray, front.length⟩).outcome.map Prod.fst =
        ending stack := by
  by_cases hnil : bytes = []
  · refine ⟨result, .whole hnil, fun stack => ?_⟩
    rw [run_succ, if_pos ((atEnd_append front bytes).mpr hnil)]
    exact outcome_result stack _
  · obtain ⟨offset, len, hread⟩ := runsOut_read d front hfirst hnil
    refine ⟨_, .cutOff hnil offset len, fun stack => ?_⟩
    rw [run_succ, if_neg (mt (atEnd_append front bytes).mp hnil), Parser.outcome_bind_of_error hread]
    rfl

/-- A run that finds an instruction applies it to the stack and goes on after
it, unless the stack is too low. -/
theorem outcome_run_of_some (d : TextDecoder) (front : List UInt8) {bytes rest : List UInt8}
    {step : Option Instr} (hfirst : first? bytes = some (step, rest)) :
    ∃ own, bytes = own ++ rest ∧ ∀ fuel stack,
      (run d (fuel + 1) stack ⟨(front ++ bytes).toArray, front.length⟩).outcome.map Prod.fst =
        ((actionOf d step).apply stack).bind fun next =>
          (run d fuel next ⟨(front ++ own ++ rest).toArray, (front ++ own).length⟩).outcome.map
            Prod.fst := by
  have hmore : ¬ (⟨(front ++ bytes).toArray, front.length⟩ : Reader).atEnd = true := by
    rw [atEnd_append]
    rintro rfl
    cases hfirst
  obtain ⟨own, rfl, hreads⟩ := reads_first d hfirst
  have hread := hreads _ front.length ⟨front, rest, (List.append_assoc front own rest).symm, rfl⟩
  refine ⟨own, rfl, fun fuel stack => ?_⟩
  rw [run_succ, if_neg hmore, hread.outcome_bind]
  cases hstep : (actionOf d step).apply stack with
  | error f => rfl
  | ok next =>
    have hlift : ∀ buffer pos,
        Parser.ReadsAt (liftM (Traced.ofExcept (.ok next))) buffer pos next pos :=
      fun _ _ => Parser.ReadsAt.lift rfl
    rw [(hlift _ _).outcome_bind, ← List.length_append, ← List.append_assoc]
    rfl

/-- Running a byte string from anywhere: the whole instructions take effect on
the stack, and nothing else matters but whether there is a rest. -/
theorem outcome_run (d : TextDecoder) (front bytes : List UInt8) {fuel : Nat}
    (hfuel : bytes.length ≤ fuel) :
    ∃ ending, Ending (front ++ bytes).length (dissect bytes).2 ending ∧ ∀ stack,
      (run d fuel stack ⟨(front ++ bytes).toArray, front.length⟩).outcome.map Prod.fst =
        (applyAll ((dissect bytes).1.map (actionOf d)) stack).bind ending := by
  -- By induction on the fuel, `front` being what has been read already: every step moves one
  -- instruction over to it.
  induction fuel generalizing front bytes with
  | zero =>
    obtain rfl := List.eq_nil_of_length_eq_zero (Nat.le_zero.mp hfuel)
    rw [dissect_of_none rfl]
    exact ⟨result, .whole rfl, fun stack => outcome_result stack _⟩
  | succ fuel ih =>
    cases hfirst : first? bytes with
    | none =>
      rw [dissect_of_none hfirst]
      exact outcome_run_of_none d front hfirst fuel
    | some first =>
      obtain ⟨step, rest⟩ := first
      have hshort := length_of_first? hfirst
      rw [dissect_of_some hfirst]
      obtain ⟨own, rfl, hrun⟩ := outcome_run_of_some d front hfirst
      obtain ⟨ending, hending, hrest⟩ := ih (front ++ own) rest (by omega)
      rw [List.append_assoc] at hending
      refine ⟨ending, hending, fun stack => ?_⟩
      rw [hrun]
      show _ = (((actionOf d step).apply stack).bind _).bind ending
      cases hstep : (actionOf d step).apply stack with
      | error f => rfl -- the run stops here, and so does `applyAll`
      | ok next => exact hrest next

/-- **Every byte string.** The text of a byte string is what its whole
instructions leave on an empty stack, if no rest is left of it. -/
theorem outcome_text (d : TextDecoder) (bytes : List UInt8) :
    ∃ ending, Ending bytes.length (dissect bytes).2 ending ∧
      (Expression.text d bytes).outcome =
        (applyAll ((dissect bytes).1.map (actionOf d)) []).bind ending := by
  obtain ⟨ending, hending, hrun⟩ := outcome_run d [] bytes (Nat.le_refl _)
  refine ⟨ending, hending, ?_⟩
  rw [← hrun []]
  unfold Expression.text Parser.runOn
  rw [map_eq_pure_bind, Traced.outcome_bind]
  show Except.bind (run d bytes.length [] ⟨bytes.toArray, 0⟩).outcome _ =
    Except.map _ (run d bytes.length [] ⟨bytes.toArray, 0⟩).outcome
  cases (run d bytes.length [] ⟨bytes.toArray, 0⟩).outcome <;> rfl

/-- The outcome of some code is that of its instructions on an empty stack. -/
theorem outcome_text_of_code (d : TextDecoder) {instrs : List Instr} {code : List UInt8}
    (h : Code instrs code) :
    (Expression.text d code).outcome =
      (applyAll (instrs.map (·.action d)) []).bind result := by
  obtain ⟨ending, hending, htext⟩ := outcome_text d code
  rw [dissect_of_code h] at hending htext
  cases hending with
  | whole _ =>
    rw [htext, List.map_map]
    rfl
  | cutOff hne _ _ => exact absurd rfl hne

end Expression

end SceneScript
