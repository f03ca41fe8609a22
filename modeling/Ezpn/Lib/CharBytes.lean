import Mathlib.Tactic.Linarith

/-!
# Characters and their bytes

Texts with their UTF-8 bytes: positions that are character boundaries, slices between
them, and classes of ASCII characters that can be told from the bytes alone.
-/

set_option autoImplicit false

namespace CharBytes

def encode (cs : List Char) : List UInt8 := cs.flatMap String.utf8EncodeChar

@[simp] theorem encode_nil : encode [] = [] := rfl

@[simp] theorem encode_cons (c : Char) (cs : List Char) : encode (c :: cs) = String.utf8EncodeChar c ++ encode cs := rfl

@[simp] theorem encode_append (front back : List Char) : encode (front ++ back) = encode front ++ encode back :=
  List.flatMap_append

theorem length_encode_cons (c : Char) (cs : List Char) : (encode (c :: cs)).length = c.utf8Size + (encode cs).length := by
  rw [encode_cons, List.length_append, String.length_utf8EncodeChar]

/-- An ASCII character is its own byte. -/
theorem encode_ascii {c : Char} (ascii : c.toNat < 128) : String.utf8EncodeChar c = [UInt8.ofNat c.toNat] := by
  have small : c.val.toNat ≤ 127 := Nat.le_of_lt_succ ascii
  simp only [String.utf8EncodeChar, small, if_true]
  rfl

/-- Other characters have no ASCII bytes. -/
theorem encode_other {c : Char} (other : 128 ≤ c.toNat) : ∀ b ∈ String.utf8EncodeChar c, 128 ≤ b.toNat := by
  have large : ¬c.val.toNat ≤ 127 := Nat.not_le.mpr other
  have valid : c.val.toNat < 1114112 := by
    have := c.valid
    simp only [UInt32.isValidChar, Nat.isValidChar] at this
    omega
  simp only [String.utf8EncodeChar, large, if_false]
  split
  · simp
    omega
  · split
    · simp
      omega
    · simp
      omega

theorem encode_ne_nil (c : Char) (cs : List Char) : encode (c :: cs) ≠ [] := by
  intro empty
  exact String.utf8EncodeChar_ne_nil (List.append_eq_nil_iff.mp empty).1

/-! ## Classes of ASCII characters -/

/-- A class of ASCII characters, on bytes and on characters. -/
structure AsciiClass (byte : UInt8 → Bool) (char : Char → Bool) : Prop where
  ascii : ∀ c : Char, c.toNat < 128 → byte (UInt8.ofNat c.toNat) = char c
  bytes : ∀ b : UInt8, 128 ≤ b.toNat → byte b = false
  chars : ∀ c : Char, 128 ≤ c.toNat → char c = false

namespace AsciiClass
variable {byte : UInt8 → Bool} {char : Char → Bool}

/-- The first byte tells whether a character is in the class. -/
theorem first (kind : AsciiClass byte char) (c : Char) (cs : List Char) :
    ∃ b rest, encode (c :: cs) = b :: rest ∧ byte b = char c ∧ (char c = true → rest = encode cs) := by
  rcases Nat.lt_or_ge c.toNat 128 with ascii | other
  · exact ⟨UInt8.ofNat c.toNat, encode cs, by rw [encode_cons, encode_ascii ascii]; rfl, kind.ascii c ascii, fun _ => rfl⟩
  · have out := kind.chars c other
    cases bytes : String.utf8EncodeChar c with
    | nil => exact absurd bytes String.utf8EncodeChar_ne_nil
    | cons b more =>
        have large := encode_other other b (by rw [bytes]; exact List.mem_cons_self)
        refine ⟨b, more ++ encode cs, by rw [encode_cons, bytes]; rfl, ?_, ?_⟩
        · rw [out, kind.bytes b large]
        · intro inside
          rw [out] at inside
          cases inside

theorem takeWhile (kind : AsciiClass byte char) (cs : List Char) : (encode cs).takeWhile byte = encode (cs.takeWhile char) := by
  induction cs with
  | nil => rfl
  | cons c cs ih =>
      obtain ⟨b, rest, bytes, same, whole⟩ := kind.first c cs
      rw [bytes, List.takeWhile_cons, List.takeWhile_cons, same]
      cases inside : char c with
      | false => rfl
      | true =>
          have tail := whole inside
          rw [tail] at bytes
          have single : String.utf8EncodeChar c = [b] := by
            rw [encode_cons] at bytes
            exact List.append_cancel_right (bytes.trans (List.singleton_append).symm)
          simp only [if_true]
          rw [tail, ih, encode_cons, single]
          rfl

theorem all (kind : AsciiClass byte char) (cs : List Char) : (encode cs).all byte = cs.all char := by
  induction cs with
  | nil => rfl
  | cons c cs ih =>
      rw [encode_cons, List.all_append, ih, List.all_cons]
      congr 1
      rcases Nat.lt_or_ge c.toNat 128 with ascii | other
      · rw [encode_ascii ascii, List.all_cons, List.all_nil, Bool.and_true, kind.ascii c ascii]
      · rw [kind.chars c other, List.all_eq_false]
        obtain ⟨b, rest, bytes⟩ := List.exists_cons_of_ne_nil (@String.utf8EncodeChar_ne_nil c)
        refine ⟨b, by rw [bytes]; exact List.mem_cons_self, ?_⟩
        rw [kind.bytes b (encode_other other b (by rw [bytes]; exact List.mem_cons_self))]
        exact Bool.false_ne_true

/-- The position of the first byte in a class is where the first character of the class is. -/
theorem findIdx? (kind : AsciiClass byte char) {front back : List Char} {c : Char} (before : ∀ d ∈ front, char d = false)
    (inside : char c = true) : (encode (front ++ c :: back)).findIdx? byte = some (encode front).length := by
  induction front with
  | nil =>
      obtain ⟨b, rest, bytes, same, _⟩ := kind.first c back
      rw [List.nil_append, bytes, List.findIdx?_cons, same, inside]
      rfl
  | cons d front ih =>
      have rest := ih fun e member => before e (List.mem_cons_of_mem _ member)
      have skipped : ∀ b ∈ String.utf8EncodeChar d, byte b = false := by
        intro b member
        rcases Nat.lt_or_ge d.toNat 128 with ascii | other
        · rw [encode_ascii ascii, List.mem_singleton] at member
          rw [member, kind.ascii d ascii, before d List.mem_cons_self]
        · exact kind.bytes b (encode_other other b member)
      rw [List.cons_append, encode_cons, List.findIdx?_append, List.findIdx?_eq_none_iff.mpr skipped, rest, encode_cons,
        List.length_append]
      simp only [Option.none_or, Option.map_some, Nat.add_comm]

theorem findIdx?_none (kind : AsciiClass byte char) {cs : List Char} (absent : ∀ c ∈ cs, char c = false) :
    (encode cs).findIdx? byte = none := by
  rw [List.findIdx?_eq_none_iff]
  intro b member
  obtain ⟨c, listed, within⟩ := List.mem_flatMap.mp member
  rcases Nat.lt_or_ge c.toNat 128 with ascii | other
  · rw [encode_ascii ascii, List.mem_singleton] at within
    rw [within, kind.ascii c ascii, absent c listed]
  · exact kind.bytes b (encode_other other b within)

end AsciiClass

/-- One ASCII character is a class. -/
theorem asciiClass_char {a : Char} (ascii : a.toNat < 128) :
    AsciiClass (fun b => b == UInt8.ofNat a.toNat) (fun c => c == a) where
  ascii c small := by
    rw [Bool.eq_iff_iff, beq_iff_eq, beq_iff_eq]
    constructor
    · intro same
      have numbers := congrArg UInt8.toNat same
      simp only [UInt8.toNat_ofNat'] at numbers
      rw [Nat.mod_eq_of_lt (by omega), Nat.mod_eq_of_lt (by omega)] at numbers
      exact Char.toNat_inj.mp numbers
    · rintro rfl
      rfl
  bytes b large := by
    rw [beq_eq_false_iff_ne]
    rintro rfl
    rw [UInt8.toNat_ofNat', Nat.mod_eq_of_lt (by omega)] at large
    omega
  chars c large := by
    rw [beq_eq_false_iff_ne]
    rintro rfl
    omega

/-! ## Slices -/

/-- The characters from a byte position on, none when it is not a character boundary. -/
def dropBytes : (n : Nat) → List Char → Option (List Char)
  | 0, cs => some cs
  | _ + 1, [] => none
  | n + 1, c :: cs => if c.utf8Size ≤ n + 1 then dropBytes (n + 1 - c.utf8Size) cs else none

/-- The characters up to a byte position, none when it is not a character boundary. -/
def takeBytes : (n : Nat) → List Char → Option (List Char)
  | 0, _ => some []
  | _ + 1, [] => none
  | n + 1, c :: cs => if c.utf8Size ≤ n + 1 then (takeBytes (n + 1 - c.utf8Size) cs).map (c :: ·) else none

/-- `&text[start..stop]`, none where the slice panics. -/
def slice (text : List Char) (start stop : Nat) : Option (List Char) :=
  if start ≤ stop then (dropBytes start text).bind (takeBytes (stop - start)) else none

theorem dropBytes_encode (front back : List Char) : dropBytes (encode front).length (front ++ back) = some back := by
  induction front with
  | nil => cases back <;> rfl
  | cons c front ih =>
      have positive := c.utf8Size_pos
      obtain ⟨n, size⟩ : ∃ n, (encode (c :: front)).length = n + 1 := ⟨_, (Nat.succ_pred (by rw [length_encode_cons]; omega)).symm⟩
      have rest : n + 1 - c.utf8Size = (encode front).length := by
        rw [← size, length_encode_cons]
        omega
      rw [size, List.cons_append, dropBytes, if_pos (by rw [← size, length_encode_cons]; omega), rest, ih]

theorem takeBytes_encode (front back : List Char) : takeBytes (encode front).length (front ++ back) = some front := by
  induction front with
  | nil => cases back <;> rfl
  | cons c front ih =>
      have positive := c.utf8Size_pos
      obtain ⟨n, size⟩ : ∃ n, (encode (c :: front)).length = n + 1 := ⟨_, (Nat.succ_pred (by rw [length_encode_cons]; omega)).symm⟩
      have rest : n + 1 - c.utf8Size = (encode front).length := by
        rw [← size, length_encode_cons]
        omega
      rw [size, List.cons_append, takeBytes, if_pos (by rw [← size, length_encode_cons]; omega), rest, ih]
      rfl

/-- Between the positions of two character boundaries are the characters between them. -/
theorem slice_encode (front middle back : List Char) :
    slice (front ++ (middle ++ back)) (encode front).length ((encode front).length + (encode middle).length) = some middle := by
  unfold slice
  rw [if_pos (Nat.le_add_right _ _), dropBytes_encode, Nat.add_sub_cancel_left]
  exact takeBytes_encode middle back

end CharBytes
