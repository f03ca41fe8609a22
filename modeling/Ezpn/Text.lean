import Mathlib.Tactic.Linarith

/-!
# Text

The character and string functions of the Rust standard library that the
modelled code calls, on lists of characters.
-/

set_option autoImplicit false

namespace Ezpn.Text

/-- Unicode `White_Space`, as in `char::is_whitespace`. -/
def isWhitespace (c : Char) : Bool :=
  let n := c.toNat
  (9 ≤ n && n ≤ 13) || n = 0x20 || n = 0x85 || n = 0xA0 || n = 0x1680 || (0x2000 ≤ n && n ≤ 0x200A) ||
    n = 0x2028 || n = 0x2029 || n = 0x202F || n = 0x205F || n = 0x3000

/-- General category `Cc`, as in `char::is_control`. -/
def isControl (c : Char) : Bool :=
  c.toNat < 0x20 || (0x7F ≤ c.toNat && c.toNat ≤ 0x9F)

def trimStart (cs : List Char) : List Char := cs.dropWhile isWhitespace

def trim (cs : List Char) : List Char := (trimStart (trimStart cs).reverse).reverse

def digit? (c : Char) : Option Nat :=
  if '0' ≤ c && c ≤ '9' then some (c.toNat - '0'.toNat) else none

/-- The digit loop of `from_str_radix`, with its overflow check. -/
def digits? (max : Nat) : (acc : Nat) → List Char → Option Nat
  | acc, [] => some acc
  | acc, c :: cs =>
      match digit? c with
      | none => none
      | some d => if acc * 10 + d ≤ max then digits? max (acc * 10 + d) cs else none

/-- `str::parse` for an unsigned integer type with the given maximum. -/
def parseUnsigned (max : Nat) : List Char → Option Nat
  | [] => none
  | ['+'] => none
  | '+' :: cs => digits? max 0 cs
  | cs => digits? max 0 cs

/-- `str::split_once` at the first character satisfying `p`. -/
def splitOnce (p : Char → Bool) (cs : List Char) : Option (List Char × List Char) :=
  match cs.dropWhile (fun c => !p c) with
  | [] => none
  | _ :: rest => some (cs.takeWhile (fun c => !p c), rest)

/-- `str::strip_prefix`. -/
def stripPrefix (start cs : List Char) : Option (List Char) :=
  if start.isPrefixOf cs then some (cs.drop start.length) else none

theorem mem_of_mem_splitOn {α : Type} [BEq α] {a x : α} {part xs : List α}
    (piece : part ∈ xs.splitOn a) (member : x ∈ part) : x ∈ xs := by
  induction xs generalizing part with
  | nil =>
      simp only [List.splitOn_nil, List.mem_singleton] at piece
      exact piece ▸ member
  | cons y ys ih =>
      rw [List.splitOn_cons_eq_if_modifyHead] at piece
      split at piece
      · rcases List.mem_cons.mp piece with rfl | piece
        · simp at member
        · exact List.mem_cons_of_mem y (ih piece member)
      · cases parts : ys.splitOn a with
        | nil => exact absurd parts (List.splitOn_ne_nil a ys)
        | cons first rest =>
            rw [parts, List.modifyHead_cons] at piece
            rw [parts] at ih
            rcases List.mem_cons.mp piece with rfl | piece
            · rcases List.mem_cons.mp member with rfl | member
              · exact List.mem_cons_self
              · exact List.mem_cons_of_mem y (ih List.mem_cons_self member)
            · exact List.mem_cons_of_mem y (ih (List.mem_cons_of_mem first piece) member)

theorem ne_of_mem_splitOn {α : Type} [BEq α] [LawfulBEq α] {a x : α} {part xs : List α}
    (piece : part ∈ xs.splitOn a) (member : x ∈ part) : x ≠ a := by
  induction xs generalizing part with
  | nil =>
      simp only [List.splitOn_nil, List.mem_singleton] at piece
      subst piece
      simp at member
  | cons y ys ih =>
      rw [List.splitOn_cons_eq_if_modifyHead] at piece
      split at piece
      · rcases List.mem_cons.mp piece with rfl | piece
        · simp at member
        · exact ih piece member
      · rename_i other
        cases parts : ys.splitOn a with
        | nil => exact absurd parts (List.splitOn_ne_nil a ys)
        | cons first rest =>
            rw [parts, List.modifyHead_cons] at piece
            rw [parts] at ih
            rcases List.mem_cons.mp piece with rfl | piece
            · rcases List.mem_cons.mp member with rfl | member
              · simpa using other
              · exact ih List.mem_cons_self member
            · exact ih (List.mem_cons_of_mem first piece) member

/-- `str::lines`, which also drops a carriage return before the newline. -/
def lines (cs : List Char) : List (List Char) :=
  let parts := cs.splitOn '\n'
  let parts := if parts.getLast? = some [] then parts.dropLast else parts
  parts.map fun line => if line.getLast? = some '\r' then line.dropLast else line

/-! ## UTF-8 -/

/-- `str::from_utf8`. -/
def fromUtf8 (bytes : List UInt8) : Option String := String.fromUTF8? ⟨bytes.toArray⟩

def isContinuation (b : UInt8) : Bool := 0x80 ≤ b && b ≤ 0xBF

/-- Admissible second bytes of a multi-byte sequence, by its first byte. -/
def isSecond (first second : UInt8) : Bool :=
  if first = 0xE0 then 0xA0 ≤ second && second ≤ 0xBF
  else if first = 0xED then 0x80 ≤ second && second ≤ 0x9F
  else if first = 0xF0 then 0x90 ≤ second && second ≤ 0xBF
  else if first = 0xF4 then 0x80 ≤ second && second ≤ 0x8F
  else isContinuation second

def replacement : Char := Char.ofNat 0xFFFD

/-- One step of `String::from_utf8_lossy`: a character, or U+FFFD for a maximal
invalid prefix, with the number of bytes consumed after the first. -/
def decodeOne (first : UInt8) (rest : List UInt8) : Char × Nat :=
  let a := first.toNat
  if a < 0x80 then (Char.ofNat a, 0)
  else if a < 0xC2 || 0xF4 < a then (replacement, 0)
  else match rest with
    | [] => (replacement, 0)
    | second :: rest =>
        let b := second.toNat % 0x40
        if !isSecond first second then (replacement, 0)
        else if a < 0xE0 then (Char.ofNat (a % 0x20 * 0x40 + b), 1)
        else match rest with
          | [] => (replacement, 1)
          | third :: rest =>
              let c := third.toNat % 0x40
              if !isContinuation third then (replacement, 1)
              else if a < 0xF0 then (Char.ofNat (a % 0x10 * 0x1000 + b * 0x40 + c), 2)
              else match rest with
                | [] => (replacement, 2)
                | fourth :: _ =>
                    if !isContinuation fourth then (replacement, 2)
                    else (Char.ofNat (a % 0x08 * 0x40000 + b * 0x1000 + c * 0x40 + fourth.toNat % 0x40), 3)

/-- `String::from_utf8_lossy`; every step consumes a byte, so the length is enough fuel. -/
def decodeLossy : (fuel : Nat) → List UInt8 → List Char
  | 0, _ => []
  | _, [] => []
  | fuel + 1, first :: rest =>
      let (c, consumed) := decodeOne first rest
      c :: decodeLossy fuel (rest.drop consumed)

def fromUtf8Lossy (bytes : List UInt8) : String := String.ofList (decodeLossy bytes.length bytes)

example : fromUtf8Lossy [0x61, 0xC3, 0x9C, 0xE2, 0x28, 0xF0, 0x9F, 0x98, 0x80] = "aÜ�(😀" := by decide +kernel

end Ezpn.Text
