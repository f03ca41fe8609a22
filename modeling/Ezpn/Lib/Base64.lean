import Mathlib.Data.Nat.Bitwise

/-!
# Base64

Decoding by RFC 4648, section 4: groups of four digits stand for three bytes, a
last group may be padded, and the bits that padding leaves over are zero.
-/

set_option autoImplicit false

namespace Base64

/-- `=` -/
def padding : UInt8 := 0x3D

/-- The six bits a character of the standard alphabet stands for. -/
def value (c : UInt8) : Option Nat :=
  if 0x41 ≤ c ∧ c ≤ 0x5A then some (c.toNat - 0x41)
  else if 0x61 ≤ c ∧ c ≤ 0x7A then some (c.toNat - 0x61 + 26)
  else if 0x30 ≤ c ∧ c ≤ 0x39 then some (c.toNat - 0x30 + 52)
  else if c = 0x2B then some 62
  else if c = 0x2F then some 63
  else none

/-- A character of the standard alphabet. -/
def Digit (c : UInt8) : Prop := (value c).isSome = true

instance (c : UInt8) : Decidable (Digit c) := inferInstanceAs (Decidable (_ = true))

/-- Two digits and two paddings: one byte. -/
def decodeOne (c0 c1 : UInt8) : Option (List UInt8) := do
  let d0 ← value c0
  let d1 ← value c1
  if d1 % 16 = 0 then some [.ofNat (d0 * 4 + d1 / 16)] else none

/-- Three digits and a padding: two bytes. -/
def decodeTwo (c0 c1 c2 : UInt8) : Option (List UInt8) := do
  let d0 ← value c0
  let d1 ← value c1
  let d2 ← value c2
  if d2 % 4 = 0 then some [.ofNat (d0 * 4 + d1 / 16), .ofNat (d1 % 16 * 16 + d2 / 4)] else none

/-- Four digits: three bytes. -/
def decodeThree (c0 c1 c2 c3 : UInt8) : Option (List UInt8) := do
  let d0 ← value c0
  let d1 ← value c1
  let d2 ← value c2
  let d3 ← value c3
  some [.ofNat (d0 * 4 + d1 / 16), .ofNat (d1 % 16 * 16 + d2 / 4), .ofNat (d2 % 4 * 64 + d3)]

def decode : List UInt8 → Option (List UInt8)
  | [] => some []
  | c0 :: c1 :: c2 :: c3 :: rest =>
      if c3 = padding then
        if rest ≠ [] then none
        else if c2 = padding then decodeOne c0 c1
        else decodeTwo c0 c1 c2
      else do
        let bytes ← decodeThree c0 c1 c2 c3
        let later ← decode rest
        some (bytes ++ later)
  | _ => none

/-! ## Groups -/

variable {c0 c1 c2 c3 : UInt8}

theorem Digit.ne_padding {c : UInt8} (digit : Digit c) : c ≠ padding := by
  rintro rfl
  exact absurd digit (by decide)

/-- The digits of a one-byte group. -/
theorem decode_one {n : Nat} (h0 : value c0 = some (n / 4)) (h1 : value c1 = some (n % 4 * 16)) :
    decode [c0, c1, padding, padding] = some [.ofNat n] := by
  have whole : n / 4 * 4 + n % 4 * 16 / 16 = n := by omega
  have clear : n % 4 * 16 % 16 = 0 := by omega
  have group : decodeOne c0 c1 = some [.ofNat n] := by
    simp only [decodeOne, h0, h1, Option.bind_eq_bind, Option.bind_some, clear, whole, if_true]
  simp [decode, group]

/-- The digits of a two-byte group, `n` being the two bytes. -/
theorem decode_two {a b : Nat} (small : b < 256) (h0 : value c0 = some (a / 4))
    (h1 : value c1 = some (a % 4 * 16 + b / 16)) (h2 : value c2 = some (b % 16 * 4)) :
    decode [c0, c1, c2, padding] = some [.ofNat a, .ofNat b] := by
  have digit : c2 ≠ padding := Digit.ne_padding (by simp [Digit, h2])
  have first : a / 4 * 4 + (a % 4 * 16 + b / 16) / 16 = a := by omega
  have second : (a % 4 * 16 + b / 16) % 16 * 16 + b % 16 * 4 / 4 = b := by omega
  have clear : b % 16 * 4 % 4 = 0 := by omega
  have group : decodeTwo c0 c1 c2 = some [.ofNat a, .ofNat b] := by
    simp only [decodeTwo, h0, h1, h2, Option.bind_eq_bind, Option.bind_some, clear, first, second, if_true]
  simp [decode, digit, group]

/-- The digits of a full group. -/
theorem decode_three {a b c : Nat} (small : b < 256) (small' : c < 256)
    (h0 : value c0 = some (a / 4)) (h1 : value c1 = some (a % 4 * 16 + b / 16))
    (h2 : value c2 = some (b % 16 * 4 + c / 64)) (h3 : value c3 = some (c % 64)) (rest : List UInt8) :
    decode (c0 :: c1 :: c2 :: c3 :: rest) = (decode rest).map ([.ofNat a, .ofNat b, .ofNat c] ++ ·) := by
  have digit : c3 ≠ padding := Digit.ne_padding (by simp [Digit, h3])
  have first : a / 4 * 4 + (a % 4 * 16 + b / 16) / 16 = a := by omega
  have second : (a % 4 * 16 + b / 16) % 16 * 16 + (b % 16 * 4 + c / 64) / 4 = b := by omega
  have third : (b % 16 * 4 + c / 64) % 4 * 64 + c % 64 = c := by omega
  have group : decodeThree c0 c1 c2 c3 = some [.ofNat a, .ofNat b, .ofNat c] := by
    simp only [decodeThree, h0, h1, h2, h3, Option.bind_eq_bind, Option.bind_some, first, second, third]
  rw [decode, if_neg digit, group]
  cases decode rest with
  | none => rfl
  | some bytes => rfl

end Base64
