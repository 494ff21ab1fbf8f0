import SceneScript.Text.Scanned

/-
  UTF-8. A malformed sequence is the longest beginning of a valid one, or a
  single byte that begins none; surrogates and overlong forms begin none.
-/

namespace SceneScript.Text.Utf8

def isContinuation (b : UInt8) : Bool := 0x80 ≤ b && b ≤ 0xBF

/-- Whether `b` may follow the lead byte of a three-byte sequence. -/
def isSecondOfThree (lead b : UInt8) : Bool :=
  if lead = 0xE0 then 0xA0 ≤ b && b ≤ 0xBF
  else if lead = 0xED then 0x80 ≤ b && b ≤ 0x9F
  else isContinuation b

/-- Whether `b` may follow the lead byte of a four-byte sequence. -/
def isSecondOfFour (lead b : UInt8) : Bool :=
  if lead = 0xF0 then 0x90 ≤ b && b ≤ 0xBF
  else if lead = 0xF4 then 0x80 ≤ b && b ≤ 0x8F
  else isContinuation b

/-- The six low bits of a continuation byte. -/
def payload (b : UInt8) : Nat := b.toNat % 64

def two? (b₁ b₂ : UInt8) : Option Char :=
  Text.char? (b₁.toNat % 32 * 64 + payload b₂)

def three? (b₁ b₂ b₃ : UInt8) : Option Char :=
  Text.char? ((b₁.toNat % 16 * 64 + payload b₂) * 64 + payload b₃)

def four? (b₁ b₂ b₃ b₄ : UInt8) : Option Char :=
  Text.char? (((b₁.toNat % 8 * 64 + payload b₂) * 64 + payload b₃) * 64 + payload b₄)

def scan : List UInt8 → Scanned
  | [] => []
  | b₁ :: rest =>
    if b₁ < 0x80 then Text.char? b₁.toNat :: scan rest
    else if 0xC2 ≤ b₁ ∧ b₁ ≤ 0xDF then
      match rest with
      | [] => [none]
      | b₂ :: rest₂ =>
        if isContinuation b₂ then two? b₁ b₂ :: scan rest₂
        else none :: scan (b₂ :: rest₂)
    else if 0xE0 ≤ b₁ ∧ b₁ ≤ 0xEF then
      match rest with
      | [] => [none]
      | b₂ :: rest₂ =>
        if isSecondOfThree b₁ b₂ then
          match rest₂ with
          | [] => [none]
          | b₃ :: rest₃ =>
            if isContinuation b₃ then three? b₁ b₂ b₃ :: scan rest₃
            else none :: scan (b₃ :: rest₃)
        else none :: scan (b₂ :: rest₂)
    else if 0xF0 ≤ b₁ ∧ b₁ ≤ 0xF4 then
      match rest with
      | [] => [none]
      | b₂ :: rest₂ =>
        if isSecondOfFour b₁ b₂ then
          match rest₂ with
          | [] => [none]
          | b₃ :: rest₃ =>
            if isContinuation b₃ then
              match rest₃ with
              | [] => [none]
              | b₄ :: rest₄ =>
                if isContinuation b₄ then four? b₁ b₂ b₃ b₄ :: scan rest₄
                else none :: scan (b₄ :: rest₄)
            else none :: scan (b₃ :: rest₃)
        else none :: scan (b₂ :: rest₂)
    else none :: scan rest

def encodeChar (c : Char) : List UInt8 :=
  let n := c.toNat
  if n < 0x80 then [UInt8.ofNat n]
  else if n < 0x800 then
    [UInt8.ofNat (0xC0 + n / 64), UInt8.ofNat (0x80 + n % 64)]
  else if n < 0x10000 then
    [UInt8.ofNat (0xE0 + n / 4096), UInt8.ofNat (0x80 + n / 64 % 64),
      UInt8.ofNat (0x80 + n % 64)]
  else
    [UInt8.ofNat (0xF0 + n / 262144), UInt8.ofNat (0x80 + n / 4096 % 64),
      UInt8.ofNat (0x80 + n / 64 % 64), UInt8.ofNat (0x80 + n % 64)]

def encode (text : String) : List UInt8 := text.toList.flatMap encodeChar

/-- The text that bytes are, if they are well-formed. -/
def text? (bytes : List UInt8) : Option String := String.fromUTF8? ⟨bytes.toArray⟩

end SceneScript.Text.Utf8
