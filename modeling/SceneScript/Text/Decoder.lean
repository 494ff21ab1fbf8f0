import SceneScript.Traced

/-
  A text decoder as the rest of the library sees it: a name, and a total
  function from bytes to text that also says whether anything was malformed.
  Everything that reads text takes the decoder as an argument.
-/

namespace SceneScript

/-- The text of a byte string, with the replacement character where the bytes
are malformed. -/
structure Decoded where
  text : String
  /-- Whether anything was replaced. -/
  malformed : Bool
  deriving DecidableEq, Repr

/-- One way to read bytes as text. -/
structure TextDecoder where
  name : String
  decode : List UInt8 → Decoded

namespace TextDecoder

/-- The text of `bytes`, with a warning when something was replaced. -/
def read (d : TextDecoder) (bytes : List UInt8) : Traced String := do
  if (d.decode bytes).malformed then
    Traced.report (.undecodable d.name bytes)
  return (d.decode bytes).text

/-- The text of the bytes before the first zero byte, or of all of them. -/
def readTerminated (d : TextDecoder) (bytes : List UInt8) : Traced String :=
  d.read (bytes.takeWhile (· ≠ 0))

@[simp] theorem outcome_read (d : TextDecoder) (bytes : List UInt8) :
    (d.read bytes).outcome = .ok (d.decode bytes).text := by
  unfold read
  split <;> rfl

end TextDecoder

end SceneScript
