/-
  Byte strings in memory. Their length is a machine word, and so are offsets
  and lengths in them. The sum of two words may leave the words, so a stretch
  of bytes is checked for that before its end is held against the buffer's.
  Whether a stretch lies in the buffer is then a matter of plain numbers
  (`Buffer.exists_stretchEnd`, `Buffer.stretchEnd?_of_outside`).
-/

namespace SceneScript

/-- The sum of two words, unless it wraps around. -/
def checkedSum? (a b : UInt64) : Option UInt64 :=
  if a + b < a then none else some (a + b)

theorem toNat_add_of_lt {a b : UInt64} (h : a.toNat + b.toNat < UInt64.size) :
    (a + b).toNat = a.toNat + b.toNat := by
  rw [UInt64.toNat_add]
  exact Nat.mod_eq_of_lt h

theorem checkedSum?_of_lt {a b : UInt64} (h : a.toNat + b.toNat < UInt64.size) :
    checkedSum? a b = some (a + b) := by
  rw [checkedSum?, if_neg]
  rw [UInt64.lt_iff_toNat_lt, toNat_add_of_lt h]
  omega

theorem checkedSum?_of_le {a b : UInt64} (h : UInt64.size ≤ a.toNat + b.toNat) :
    checkedSum? a b = none := by
  have ha := a.toNat_lt
  have hb := b.toNat_lt
  rw [UInt64.size] at h
  rw [checkedSum?, if_pos]
  rw [UInt64.lt_iff_toNat_lt, UInt64.toNat_add]
  omega

/-- A byte string whose length is a machine word. -/
structure Buffer where
  bytes : List UInt8
  length_lt : bytes.length < UInt64.size
  deriving DecidableEq, Repr

namespace Buffer

/-- Where the `len` bytes from `offset` on end, if they lie in the buffer. -/
def stretchEnd? (b : Buffer) (offset len : UInt64) : Option UInt64 :=
  (checkedSum? offset len).filter (fun stop => decide (stop.toNat ≤ b.bytes.length))

/-- The bytes from `start` on and before `stop`. -/
def slice (b : Buffer) (start stop : UInt64) : List UInt8 :=
  (b.bytes.take stop.toNat).drop start.toNat

variable {b : Buffer} {offset len : UInt64}

theorem exists_stretchEnd (h : offset.toNat + len.toNat ≤ b.bytes.length) :
    ∃ stop, b.stretchEnd? offset len = some stop ∧ stop.toNat = offset.toNat + len.toNat := by
  have hlt : offset.toNat + len.toNat < UInt64.size := Nat.lt_of_le_of_lt h b.length_lt
  have hstop := toNat_add_of_lt hlt
  refine ⟨offset + len, ?_, hstop⟩
  rw [stretchEnd?, checkedSum?_of_lt hlt]
  simpa [hstop] using h

/-- A stretch past the end is found out, also where its end wraps around. -/
theorem stretchEnd?_of_outside (h : b.bytes.length < offset.toNat + len.toNat) :
    b.stretchEnd? offset len = none := by
  rw [stretchEnd?]
  by_cases hlt : offset.toNat + len.toNat < UInt64.size
  · have hstop := toNat_add_of_lt hlt
    rw [checkedSum?_of_lt hlt]
    simpa [hstop] using h
  · rw [checkedSum?_of_le (Nat.le_of_not_lt hlt)]
    rfl

theorem slice_eq {start stop : UInt64} (h : stop.toNat = start.toNat + len.toNat) :
    b.slice start stop = (b.bytes.drop start.toNat).take len.toNat := by
  rw [slice, List.drop_take, h, Nat.add_sub_cancel_left]

end Buffer

end SceneScript
