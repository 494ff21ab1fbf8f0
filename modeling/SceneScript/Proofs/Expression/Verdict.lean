import SceneScript.Proofs.Expression.Dissection
import SceneScript.Text.Encoding

/-
  Which byte strings have a text. Texts do not matter for that: the stack is
  followed as marks, one for a text and one for an opening (`stepMarks`), and
  of an instruction only its opcode. A byte string has a text exactly if it is
  cut into whole instructions, none of them finds too few marks, and a mark is
  left at the end. If not, the first instruction with too few marks decides
  what is reported, then an instruction that is cut off, then the empty stack
  (`text_verdict`).
-/

namespace SceneScript.Expression

/-- What is left of a fragment without its text. -/
inductive Mark where
  | text
  | opening
  deriving DecidableEq, Repr

def Fragment.mark : Fragment → Mark
  | .text _ => .text
  | .opening => .opening

/-- The marks after an instruction, the topmost first, or what there were too
few of them for. An operand may be of either kind, the end of an index takes
all marks down to the one below the topmost opening, and an unknown opcode
does nothing. -/
def stepMarks : Option Opcode → List Mark → Except Activity (List Mark)
  | none, marks => .ok marks
  | some (.binary _), marks =>
    match marks with
    | _ :: _ :: below => .ok (.text :: below)
    | _ => .error .binaryOperand
  | some (.unary op), marks =>
    match marks with
    | _ :: below => .ok (.text :: below)
    | [] => .error (unaryActivity op)
  | some .startIndex, marks => .ok (.opening :: .text :: marks)
  | some .endIndex, marks =>
    match marks.dropWhile (· ≠ .opening) with
    | _ :: _ :: below => .ok (.text :: below)
    | [_] => .error .indexedVariable
    | [] => .error .indexClose
  | some _, marks => .ok (.text :: marks)

/-- The marks after some instructions. -/
def runMarks : List (Option Opcode) → List Mark → Except Activity (List Mark)
  | [], marks => .ok marks
  | op :: rest, marks => (stepMarks op marks).bind (runMarks rest)

/-- The first instruction that finds too few marks finds them so for `activity`. -/
def Underflows (ops : List (Option Opcode)) (marks : List Mark) (activity : Activity) : Prop :=
  ∃ before op after now, ops = before ++ op :: after ∧ runMarks before marks = .ok now ∧
    stepMarks op now = .error activity

/-- The opcodes of the whole instructions of a byte string; an unknown one is
`none`. -/
def opcodes (bytes : List UInt8) : List (Option Opcode) :=
  (dissect bytes).1.map (Option.map Instr.opcode)

/-! ## Runs of marks -/

theorem runMarks_append (first second : List (Option Opcode)) (marks : List Mark) :
    runMarks (first ++ second) marks = (runMarks first marks).bind (runMarks second) := by
  induction first generalizing marks with
  | nil => rfl
  | cons op rest ih =>
    simp only [List.cons_append, runMarks]
    cases stepMarks op marks with
    | error a => rfl
    | ok next => exact ih next

/-- A run fails at the first instruction with too few marks, and nowhere else. -/
theorem runMarks_eq_error_iff {ops : List (Option Opcode)} {marks : List Mark}
    {activity : Activity} :
    runMarks ops marks = .error activity ↔ Underflows ops marks activity := by
  constructor
  · intro h
    induction ops generalizing marks with
    | nil => cases h
    | cons op rest ih =>
      rw [runMarks] at h
      cases hstep : stepMarks op marks with
      | error a =>
        rw [hstep] at h
        cases h
        exact ⟨[], op, rest, marks, rfl, rfl, hstep⟩
      | ok next =>
        rw [hstep] at h
        obtain ⟨before, o, after, now, rfl, hbefore, ho⟩ := ih h
        refine ⟨op :: before, o, after, now, rfl, ?_, ho⟩
        rw [runMarks, hstep]
        exact hbefore
  · rintro ⟨before, op, after, now, rfl, hbefore, hop⟩
    rw [runMarks_append, hbefore]
    show (stepMarks op now).bind (runMarks after) = .error activity
    rw [hop]
    rfl

/-! ## The marks of a stack -/

/-- Closing an index leaves what lies below the topmost opening. -/
theorem marks_popIndex (stack : Stack) :
    (popIndex stack).map (fun found => found.2.map Fragment.mark) =
      match (stack.map Fragment.mark).dropWhile (· ≠ .opening) with
      | _ :: below => .ok below
      | [] => .error (.stackUnderflow .indexClose) := by
  induction stack with
  | nil => rfl
  | cons f rest ih =>
    cases f with
    | opening => rfl
    | text t =>
      have hdrop : ((Fragment.text t :: rest).map Fragment.mark).dropWhile (· ≠ .opening) =
          (rest.map Fragment.mark).dropWhile (· ≠ .opening) := rfl
      rw [hdrop, ← ih, popIndex]
      cases popIndex rest <;> rfl

theorem marks_closeIndex (stack : Stack) :
    (Action.closeIndex.apply stack).map (List.map Fragment.mark) =
      (stepMarks (some .endIndex) (stack.map Fragment.mark)).mapError .stackUnderflow := by
  have hpop := marks_popIndex stack
  rw [stepMarks]
  show Except.map _ ((popIndex stack).bind _) = _
  generalize (stack.map Fragment.mark).dropWhile _ = found at hpop ⊢
  cases hindex : popIndex stack with
  | error f =>
    rw [hindex] at hpop
    match found, hpop with
    | [], hpop =>
      cases hpop
      rfl
  | ok front =>
    obtain ⟨index, below⟩ := front
    rw [hindex] at hpop
    match found, hpop with
    | _ :: marks, hpop =>
      obtain rfl : below.map Fragment.mark = marks := Except.ok.inj hpop
      -- The name of the variable is what lies right below the opening.
      cases below <;> rfl

/-- An instruction does to the marks of a stack what its opcode says. -/
theorem marks_apply (d : TextDecoder) (i : Option Instr) (stack : Stack) :
    ((actionOf d i).apply stack).map (List.map Fragment.mark) =
      (stepMarks (i.map Instr.opcode) (stack.map Fragment.mark)).mapError .stackUnderflow := by
  cases i with
  | none => rfl
  | some i =>
    cases i with
    | leaf l => cases l <;> rfl
    | openIndex sigil id => rfl
    | separator => rfl
    | closeIndex => exact marks_closeIndex stack
    | unary op => cases stack <;> rfl
    | binary op =>
      match stack with
      | [] => rfl
      | [_] => rfl
      | _ :: _ :: _ => rfl

theorem marks_applyAll (d : TextDecoder) (instrs : List (Option Instr)) (stack : Stack) :
    (applyAll (instrs.map (actionOf d)) stack).map (List.map Fragment.mark) =
      (runMarks (instrs.map (Option.map Instr.opcode)) (stack.map Fragment.mark)).mapError
        .stackUnderflow := by
  induction instrs generalizing stack with
  | nil => rfl
  | cons i rest ih =>
    have hstep := marks_apply d i stack
    simp only [List.map_cons, applyAll, runMarks]
    cases hnext : (actionOf d i).apply stack with
    | error f =>
      cases hmarks : stepMarks (i.map Instr.opcode) (stack.map Fragment.mark) with
      | error activity =>
        rw [hnext, hmarks] at hstep
        exact hstep
      | ok marks =>
        rw [hnext, hmarks] at hstep
        cases hstep
    | ok next =>
      cases hmarks : stepMarks (i.map Instr.opcode) (stack.map Fragment.mark) with
      | error activity =>
        rw [hnext, hmarks] at hstep
        cases hstep
      | ok marks =>
        rw [hnext, hmarks] at hstep
        obtain rfl : next.map Fragment.mark = marks := Except.ok.inj hstep
        exact ih next

/-! ## Verdicts -/

/-- What becomes of a byte string, given the marks that its whole instructions
leave and whether an instruction is cut off after them. -/
inductive Verdict (size : Nat) :
    Except Activity (List Mark) → List UInt8 → Except Fault String → Prop where
  | underflow (activity : Activity) (rest : List UInt8) :
    Verdict size (.error activity) rest (.error (.stackUnderflow activity))
  | cutOff (marks : List Mark) {rest : List UInt8} (h : rest ≠ []) (offset len : Nat) :
    Verdict size (.ok marks) rest (.error (.outOfBounds offset len size))
  | nothing : Verdict size (.ok []) [] (.error (.stackUnderflow .expressionResult))
  | text {marks : List Mark} (h : marks ≠ []) (t : String) : Verdict size (.ok marks) [] (.ok t)

theorem verdict (d : TextDecoder) (bytes : List UInt8) :
    Verdict bytes.length (runMarks (opcodes bytes) []) (dissect bytes).2
      (Expression.text d bytes).outcome := by
  obtain ⟨ending, hending, htext⟩ := outcome_text d bytes
  have hrun := marks_applyAll d (dissect bytes).1 []
  rw [htext, opcodes]
  rw [List.map_nil] at hrun
  generalize applyAll _ [] = outcome, runMarks _ [] = marks at hrun ⊢
  cases outcome with
  | error f =>
    cases marks with
    | error activity =>
      obtain rfl : f = .stackUnderflow activity := Except.error.inj hrun
      exact .underflow activity _
    | ok marks => cases hrun
  | ok stack =>
    cases marks with
    | error activity => cases hrun
    | ok marks =>
      obtain rfl : stack.map Fragment.mark = marks := Except.ok.inj hrun
      cases hending with
      | cutOff hrest offset len => exact .cutOff _ hrest offset len
      | whole hrest =>
        rw [hrest]
        cases stack with
        | nil => exact .nothing
        | cons f below => exact .text (by simp) f.spelling

namespace Verdict

variable {size : Nat} {marks : Except Activity (List Mark)} {rest : List UInt8}
  {outcome : Except Fault String}

theorem ok_iff (h : Verdict size marks rest outcome) :
    (∃ t, outcome = .ok t) ↔ rest = [] ∧ ∃ final, marks = .ok final ∧ final ≠ [] := by
  cases h with
  | underflow activity rest => simp
  | cutOff final hrest offset len => simp [hrest]
  | nothing => simp
  | text hfinal t => simp [hfinal]

theorem eq_underflow {activity : Activity} (h : Verdict size (.error activity) rest outcome) :
    outcome = .error (.stackUnderflow activity) := by
  cases h
  rfl

theorem eq_outOfBounds {final : List Mark} (h : Verdict size (.ok final) rest outcome)
    (hrest : rest ≠ []) : ∃ offset len, outcome = .error (.outOfBounds offset len size) := by
  cases h with
  | cutOff final _ offset len => exact ⟨offset, len, rfl⟩
  | nothing => exact absurd rfl hrest
  | text _ t => exact absurd rfl hrest

theorem eq_nothing (h : Verdict size (.ok []) [] outcome) :
    outcome = .error (.stackUnderflow .expressionResult) := by
  cases h with
  | cutOff _ hrest _ _ => exact absurd rfl hrest
  | nothing => rfl
  | text hfinal _ => exact absurd rfl hfinal

end Verdict

/-- **Acceptance.** With any decoder, a byte string has a text exactly if it is
cut into whole instructions that find enough marks and leave one. Otherwise
the fault is that of the first instruction with too few marks; without one,
that of an instruction which is cut off; without either, that of the empty
stack. -/
theorem text_verdict (d : TextDecoder) (bytes : List UInt8) :
    ((∃ t, (Expression.text d bytes).outcome = .ok t) ↔
      (dissect bytes).2 = [] ∧ ∃ final, runMarks (opcodes bytes) [] = .ok final ∧ final ≠ []) ∧
    (∀ activity, Underflows (opcodes bytes) [] activity →
      (Expression.text d bytes).outcome = .error (.stackUnderflow activity)) ∧
    ((∀ activity, ¬ Underflows (opcodes bytes) [] activity) → (dissect bytes).2 ≠ [] →
      ∃ offset len, (Expression.text d bytes).outcome =
        .error (.outOfBounds offset len bytes.length)) ∧
    (runMarks (opcodes bytes) [] = .ok [] → (dissect bytes).2 = [] →
      (Expression.text d bytes).outcome = .error (.stackUnderflow .expressionResult)) ∧
    Activity.expressionResult.phrase = "reading the expression result" := by
  have h := verdict d bytes
  refine ⟨h.ok_iff, fun activity hunder => ?_, fun hnone hrest => ?_, fun hrun hrest => ?_, rfl⟩
  · rw [runMarks_eq_error_iff.mpr hunder] at h
    exact h.eq_underflow
  · cases hrun : runMarks (opcodes bytes) [] with
    | error activity => exact absurd (runMarks_eq_error_iff.mp hrun) (hnone activity)
    | ok final =>
      rw [hrun] at h
      exact h.eq_outOfBounds hrest
  · rw [hrun, hrest] at h
    exact h.eq_nothing

/-- One byte string for each verdict. The first leaves an index open and negates its
opening; the second adds one operand to nothing and is cut off as well; the
third is only cut off; the last holds nothing but an unknown opcode. -/
theorem text_verdict_samples :
    (∃ t, (Expression.text Encoding.utf8.decoder
      [0x56, 0, 0, 0x40, 1, 0, 0x52, 0, 0]).outcome = .ok t) ∧
    (Expression.text Encoding.utf8.decoder [0x42, 0, 0, 5, 0x2B, 0, 0, 0x57]).outcome =
      .error (.stackUnderflow .binaryOperand) ∧
    (∃ offset len, (Expression.text Encoding.utf8.decoder [0x42, 0, 0, 5, 0x57, 0]).outcome =
      .error (.outOfBounds offset len 6)) ∧
    (Expression.text Encoding.utf8.decoder [0xFF, 7, 0]).outcome =
      .error (.stackUnderflow .expressionResult) := by
  refine ⟨?_, ?_, ?_, ?_⟩
  · exact (text_verdict _ _).1.mpr ⟨by decide +kernel, [.text, .text], by decide +kernel, by decide⟩
  · refine (text_verdict _ _).2.1 .binaryOperand ?_
    exact ⟨[some .int8], some (.binary .add), [], [.text], by decide +kernel, rfl, rfl⟩
  · refine (text_verdict _ [0x42, 0, 0, 5, 0x57, 0]).2.2.1 (fun activity hunder => ?_) ?_
    · have hrun := runMarks_eq_error_iff.mpr hunder
      have hops : opcodes [0x42, 0, 0, 5, 0x57, 0] = [some .int8] := by decide +kernel
      rw [hops] at hrun
      cases hrun
    · decide +kernel
  · exact (text_verdict _ _).2.2.2.1 (by decide +kernel) (by decide +kernel)

end SceneScript.Expression
