import SceneScript.Proofs.Bytes.InPlace

/-
  A cursor is all or nothing. Each operation says in plain numbers when it
  fits, where it comes to and what it returns; a run of operations, those that
  failed included, keeps the cursor in its buffer (`Cursor.Within`), and the
  next operation either does all it says or nothing
  (`Cursor.allOrNothing_after`).
-/

namespace SceneScript

namespace Operation

/-- The reader's operation. -/
def read (d : TextDecoder) : Operation → Parser Reading
  | .seek target => do Parser.seek target.toNat; return .nothing
  | .skip n => do Parser.skip n.toNat; return .nothing
  | .bytes n => return .bytes (← Parser.take n.toNat)
  | .number k => return .number (← k.read)
  | .text n => return .text (← Parser.text d n.toNat)
  | .terminated => return .text (← Parser.terminated d)

/-- Whether `bytes` have what an operation asks for at `pos`. -/
def Fits (bytes : List UInt8) (pos : Nat) : Operation → Prop
  | .seek target => target.toNat ≤ bytes.length
  | .skip n | .bytes n | .text n => pos + n.toNat ≤ bytes.length
  | .number k => pos + k.width ≤ bytes.length
  | .terminated => 0 ∈ bytes.drop pos

/-- Where an operation that succeeds comes to. -/
def stop (bytes : List UInt8) (pos : Nat) : Operation → Nat
  | .seek target => target.toNat
  | .skip n | .bytes n | .text n => pos + n.toNat
  | .number k => pos + k.width
  | .terminated => pos + ((bytes.drop pos).takeWhile (· ≠ 0)).length + 1

/-- What an operation that succeeds returns. -/
def result (d : TextDecoder) (bytes : List UInt8) (pos : Nat) : Operation → Traced Reading
  | .seek _ | .skip _ => pure .nothing
  | .bytes n => pure (.bytes (window bytes pos n.toNat))
  | .number k => pure (.number (k.value (window bytes pos k.width)))
  | .text n => .text <$> d.read (window bytes pos n.toNat)
  | .terminated => .text <$> d.readTerminated (bytes.drop pos)

theorem tracks (d : TextDecoder) (c : Cursor) (op : Operation) :
    (op.perform d).Tracks (op.read d) c (op.Fits c.buffer.bytes c.pos.toNat)
      (op.result d c.buffer.bytes c.pos.toNat) (op.stop c.buffer.bytes c.pos.toNat) := by
  cases op with
  | seek target => exact (InPlace.tracks_seek c target).map (fun _ => Reading.nothing)
  | skip n => exact ((InPlace.tracks_take c n).map (fun _ => ())).map (fun _ => Reading.nothing)
  | bytes n => exact (InPlace.tracks_take c n).map Reading.bytes
  | number k => exact (InPlace.tracks_number c k).map Reading.number
  | text n => exact (InPlace.tracks_text d c n).map Reading.text
  | terminated => exact (InPlace.tracks_terminated d c).map Reading.text

theorem exists_result (d : TextDecoder) (bytes : List UInt8) (pos : Nat) (op : Operation) :
    ∃ x, (op.result d bytes pos).outcome = .ok x := by
  cases op with
  | text n => exact ⟨.text (d.decode (window bytes pos n.toNat)).text, by
      rw [result, map_eq_pure_bind, Traced.outcome_bind, TextDecoder.outcome_read]; rfl⟩
  | terminated => exact ⟨.text (d.decode ((bytes.drop pos).takeWhile (· ≠ 0))).text, by
      rw [result, map_eq_pure_bind, Traced.outcome_bind, TextDecoder.readTerminated,
        TextDecoder.outcome_read]; rfl⟩
  | _ => exact ⟨_, rfl⟩

theorem stop_le {bytes : List UInt8} {pos : Nat} {op : Operation} (h : op.Fits bytes pos) :
    op.stop bytes pos ≤ bytes.length := by
  cases op with
  | terminated =>
    obtain ⟨name, after, hrest, hname⟩ := List.eq_append_cons_of_mem h
    have hlen := congrArg List.length hrest
    rw [List.length_drop, List.length_append, List.length_cons] at hlen
    rw [stop, hrest, takeWhile_zero hname]
    omega
  | _ => exact h

variable {d : TextDecoder} {c : Cursor}

theorem fits_of_ok (op : Operation) {x : Reading} (h : (op.perform d c).1.outcome = .ok x) :
    op.Fits c.buffer.bytes c.pos.toNat := by
  by_contra hnot
  obtain ⟨offset, len, -, hm⟩ := (op.tracks d c).stays hnot
  rw [hm] at h
  cases h

theorem not_fits_of_error (op : Operation) {fault : Fault}
    (h : (op.perform d c).1.outcome = .error fault) : ¬ op.Fits c.buffer.bytes c.pos.toNat := by
  intro hfits
  obtain ⟨pos, -, hm⟩ := (op.tracks d c).moves hfits
  obtain ⟨x, hx⟩ := op.exists_result d c.buffer.bytes c.pos.toNat
  rw [hm, hx] at h
  cases h

end Operation

/-- The bytes of a number give the number back, wherever they stand. -/
theorem NumberFormat.perform_spelling (k : NumberFormat) (d : TextDecoder) {c : Cursor} {n : Int}
    (h : k.Holds n) (hat : StandsAt (k.spelling n) c.buffer.bytes c.pos.toNat) :
    ((Operation.number k).perform d c).1.outcome = .ok (.number n) := by
  have hlen : (k.spelling n).length = k.width := length_leBytes _ _
  have hle := hat.le
  rw [hlen] at hle
  obtain ⟨pos, -, hm⟩ := ((Operation.number k).tracks d c).moves hle
  have hwindow : window c.buffer.bytes c.pos.toNat k.width = k.spelling n := by
    rw [window, ← hlen, hat.take_drop]
  rw [hm, Operation.result, hwindow, NumberFormat.value_spelling h]
  rfl

namespace Cursor

/-- A cursor that stands in the buffer `b`. -/
structure Within (b : Buffer) (c : Cursor) : Prop where
  buffer : c.buffer = b
  pos_le : c.pos.toNat ≤ b.bytes.length

theorem within_ofBuffer (b : Buffer) : Within b (ofBuffer b) := ⟨rfl, Nat.zero_le _⟩

theorem Within.perform {b : Buffer} {c : Cursor} (h : Within b c) (d : TextDecoder)
    (op : Operation) : Within b (op.perform d c).2 := by
  obtain ⟨rfl, hpos⟩ := h
  have htracks := op.tracks d c
  by_cases hfits : op.Fits c.buffer.bytes c.pos.toNat
  · obtain ⟨pos, hstop, hm⟩ := htracks.moves hfits
    rw [hm]
    exact ⟨rfl, hstop ▸ Operation.stop_le hfits⟩
  · obtain ⟨offset, len, -, hm⟩ := htracks.stays hfits
    rw [hm]
    exact ⟨rfl, hpos⟩

theorem Within.after {b : Buffer} {c : Cursor} (h : Within b c) (d : TextDecoder)
    (operations : List Operation) : Within b (c.after d operations) := by
  induction operations generalizing c with
  | nil => exact h
  | cons op rest ih => exact ih (h.perform d op)

/-- What holds of a cursor in the buffer `b`, and of every operation that may
come next. -/
structure AllOrNothing (d : TextDecoder) (b : Buffer) (c : Cursor) : Prop where
  within : Within b c
  remaining : c.pos.toNat + c.reader.remaining = b.bytes.length
  atEnd : c.reader.atEnd = true ↔ c.pos.toNat = b.bytes.length
  fails : ∀ op : Operation, (∃ fault, (op.perform d c).1.outcome = .error fault) ↔
    ¬ op.Fits b.bytes c.pos.toNat
  unmoved : ∀ (op : Operation) fault, (op.perform d c).1.outcome = .error fault →
    fault.kind = .bounds ∧ (op.perform d c).2 = c
  moved : ∀ (op : Operation) x, (op.perform d c).1.outcome = .ok x →
    (op.perform d c).1 = op.result d b.bytes c.pos.toNat ∧
      (op.perform d c).2.pos.toNat = op.stop b.bytes c.pos.toNat
  readBack : ∀ (k : NumberFormat) n, k.Holds n →
    StandsAt (k.spelling n) b.bytes c.pos.toNat →
      ((Operation.number k).perform d c).1.outcome = .ok (.number n)
  /-- The parsers that files are read with do the same. -/
  parser : ∀ op : Operation, op.read d c.reader = ⟨(op.perform d c).1.events,
    (op.perform d c).1.outcome.map (fun x => (x, (op.perform d c).2.reader))⟩

theorem Within.allOrNothing {b : Buffer} {c : Cursor} (h : Within b c) (d : TextDecoder) :
    AllOrNothing d b c := by
  obtain ⟨rfl, hpos⟩ := h
  refine ⟨⟨rfl, hpos⟩, ?_, ?_, ?_, ?_, ?_, ?_, fun op => (op.tracks d c).parser_eq⟩
  · simp only [Reader.remaining, reader, List.size_toArray]
    omega
  · simp only [Reader.atEnd, reader, List.size_toArray, decide_eq_true_eq]
    omega
  · intro op
    constructor
    · rintro ⟨fault, hfault⟩
      exact op.not_fits_of_error hfault
    · intro hnot
      obtain ⟨offset, len, -, hm⟩ := (op.tracks d c).stays hnot
      exact ⟨_, by rw [hm]; rfl⟩
  · intro op fault hfault
    obtain ⟨offset, len, -, hm⟩ := (op.tracks d c).stays (op.not_fits_of_error hfault)
    rw [hm] at hfault ⊢
    cases hfault
    exact ⟨rfl, rfl⟩
  · intro op x hok
    obtain ⟨pos, hstop, hm⟩ := (op.tracks d c).moves (op.fits_of_ok hok)
    rw [hm]
    exact ⟨rfl, hstop⟩
  · intro k n hholds hat
    exact k.perform_spelling d hholds hat

/-- **A cursor is all or nothing.** Whatever has been done with it before, an
operation fails exactly if its bytes are not there, and then it does nothing;
otherwise it goes over just these bytes and returns what they spell. -/
theorem allOrNothing_after (d : TextDecoder) (b : Buffer) (operations : List Operation) :
    AllOrNothing d b ((ofBuffer b).after d operations) :=
  ((within_ofBuffer b).after d operations).allOrNothing d

/-- A name, and then three requests that leave the buffer, one of them by so much
that its end wraps around: the number after the name is still read. -/
example :
    let d : TextDecoder := ⟨"none", fun _ => ⟨"", false⟩⟩
    let c := (ofBuffer ⟨[0x49, 0x46, 0, 0xFE, 0xFF], by decide⟩).after d
      [.terminated, .skip 0xFFFFFFFFFFFFFFFD, .number .word32, .terminated]
    (c.pos, ((Operation.number .int16).perform d c).1.outcome) =
      (3, .ok (.number (-2))) := by decide

end Cursor

end SceneScript
