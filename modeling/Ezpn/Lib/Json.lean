import Mathlib.Data.List.Forall2
import Mathlib.Tactic.Linarith

/-!
# JSON documents and derived codecs

Values, their pretty text, and codecs in the manner of a derive: a struct is read
by field name or by position, fields may have defaults, and unknown fields are
ignored. A codec need not accept what it wrote; the ones built here accept
whatever they have decoded before.
-/

set_option autoImplicit false

inductive Json where
  | null
  | bool (value : Bool)
  | nat (value : Nat)
  /-- `-(value + 1)` -/
  | negative (value : Nat)
  /-- `mantissa * 10 ^ exponent` -/
  | float (mantissa exponent : Int)
  | string (value : String)
  | array (values : List Json)
  | object (fields : List (String × Json))
  deriving Inhabited

namespace Json

/-! ## Access -/

def get? (key : String) : Json → Option Json
  | object fields => fields.lookup key
  | _ => none

/-- Indexing by a key: `null` where there is nothing. -/
def index (value : Json) (key : String) : Json := (value.get? key).getD null

/-- A larger literal is read as a float. -/
def asU64 : Json → Option Nat
  | nat value => if value < 2 ^ 64 then some value else none
  | _ => none

def asStr : Json → Option String
  | string value => some value
  | _ => none

def asBool : Json → Option Bool
  | bool value => some value
  | _ => none

def asArray : Json → Option (List Json)
  | array values => some values
  | _ => none

/-- `Map::insert` on an object; any other value is left alone. -/
def insert (value : Json) (key : String) (field : Json) : Json :=
  match value with
  | object fields => object ((key, field) :: fields.filter (·.1 ≠ key))
  | value => value

theorem lookup_filter_ne {key other : String} (different : key ≠ other) (fields : List (String × Json)) :
    (fields.filter (·.1 ≠ other)).lookup key = fields.lookup key := by
  induction fields with
  | nil => rfl
  | cons field fields ih =>
      obtain ⟨name, value⟩ := field
      by_cases kept : name = other
      · subst kept
        simpa [List.lookup_cons, beq_false_of_ne different] using ih
      · by_cases found : key = name
        · subst found
          simp [kept]
        · simpa [kept, List.lookup_cons, beq_false_of_ne found] using ih

@[simp] theorem get?_insert_same (key : String) (field : Json) (fields : List (String × Json)) :
    ((object fields).insert key field).get? key = some field := by
  simp [insert, get?]

theorem get?_insert_ne {key other : String} (different : key ≠ other) (field value : Json) :
    (value.insert other field).get? key = value.get? key := by
  cases value with
  | object fields =>
      simpa [insert, get?, List.lookup_cons, beq_false_of_ne different]
        using lookup_filter_ne different fields
  | _ => rfl

theorem sizeOf_lookup {key : String} {field : Json} {fields : List (String × Json)}
    (found : fields.lookup key = some field) : sizeOf field < sizeOf fields := by
  induction fields with
  | nil => cases found
  | cons entry fields ih =>
      obtain ⟨name, value⟩ := entry
      rw [List.lookup_cons] at found
      split at found
      · cases found
        simp only [List.cons.sizeOf_spec, Prod.mk.sizeOf_spec]
        omega
      · have smaller := ih found
        simp only [List.cons.sizeOf_spec]
        omega

theorem sizeOf_get? {key : String} {field value : Json} (found : value.get? key = some field) :
    sizeOf field < sizeOf value := by
  cases value with
  | object fields =>
      have smaller := sizeOf_lookup found
      simp only [object.sizeOf_spec]
      omega
  | _ => cases found

/-! ## Text -/

def hexDigit (value : Nat) : Char := Nat.digitChar (value % 16)

def escapeChar (c : Char) : List Char :=
  if c == '"' then ['\\', '"']
  else if c == '\\' then ['\\', '\\']
  else if c == '\n' then ['\\', 'n']
  else if c == '\r' then ['\\', 'r']
  else if c == '\t' then ['\\', 't']
  else if c == Char.ofNat 0x08 then ['\\', 'b']
  else if c == Char.ofNat 0x0C then ['\\', 'f']
  else if c.toNat < 0x20 then ['\\', 'u', '0', '0', hexDigit (c.toNat / 16), hexDigit c.toNat]
  else [c]

def quote (text : String) : List Char := '"' :: text.toList.flatMap escapeChar ++ ['"']

def newline (depth : Nat) : List Char := '\n' :: List.replicate (2 * depth) ' '

mutual

/-- Two spaces a level, one item a line. -/
def pretty (depth : Nat) : Json → List Char
  | null => ['n', 'u', 'l', 'l']
  | bool true => ['t', 'r', 'u', 'e']
  | bool false => ['f', 'a', 'l', 's', 'e']
  | nat value => Nat.toDigits 10 value
  | negative value => '-' :: Nat.toDigits 10 (value + 1)
  | float mantissa exponent => (toString mantissa).toList ++ 'e' :: (toString exponent).toList
  | string value => quote value
  | array [] => ['[', ']']
  | array (value :: values) =>
      '[' :: newline (depth + 1) ++ pretty (depth + 1) value ++ prettyItems depth values ++ newline depth ++ [']']
  | object [] => [Char.ofNat 0x7B, Char.ofNat 0x7D]
  | object ((name, value) :: fields) =>
      Char.ofNat 0x7B :: newline (depth + 1) ++ quote name ++ [':', ' '] ++ pretty (depth + 1) value ++
        prettyFields depth fields ++ newline depth ++ [Char.ofNat 0x7D]

def prettyItems (depth : Nat) : List Json → List Char
  | [] => []
  | value :: values => ',' :: newline (depth + 1) ++ pretty (depth + 1) value ++ prettyItems depth values

def prettyFields (depth : Nat) : List (String × Json) → List Char
  | [] => []
  | (name, value) :: fields =>
      ',' :: newline (depth + 1) ++ quote name ++ [':', ' '] ++ pretty (depth + 1) value ++ prettyFields depth fields

end

def prettyText (value : Json) : String := String.ofList (pretty 0 value)

/-! ## Length of the text -/

theorem utf8ByteSize_ofList_cons (c : Char) (chars : List Char) :
    (String.ofList (c :: chars)).utf8ByteSize = c.utf8Size + (String.ofList chars).utf8ByteSize := by
  simp only [String.ofList_cons, String.utf8ByteSize_append, String.utf8ByteSize_singleton]

/-- A character takes one to four bytes. -/
theorem utf8ByteSize_ofList_bounds (chars : List Char) :
    chars.length ≤ (String.ofList chars).utf8ByteSize ∧ (String.ofList chars).utf8ByteSize ≤ 4 * chars.length := by
  induction chars with
  | nil => exact ⟨Nat.zero_le _, Nat.le_refl _⟩
  | cons c chars ih =>
      have least := c.utf8Size_pos
      have most := c.utf8Size_le_four
      rw [utf8ByteSize_ofList_cons, List.length_cons]
      omega

theorem length_newline (depth : Nat) : (newline depth).length = 2 * depth + 1 := by
  rw [newline, List.length_cons, List.length_replicate]

theorem length_prettyItems_replicate (depth n : Nat) (value : Json) :
    (prettyItems depth (List.replicate n value)).length =
      n * (2 * depth + (pretty (depth + 1) value).length + 4) := by
  induction n with
  | zero => rw [List.replicate_zero, prettyItems, Nat.zero_mul]; rfl
  | succ n ih =>
      rw [List.replicate_succ, prettyItems, Nat.succ_mul]
      simp only [List.cons_append, List.length_cons, List.length_append, length_newline, ih]
      omega

theorem length_prettyItems_le (depth : Nat) (value : Json) (values : List Json) :
    (prettyItems depth values).length + (pretty (depth + 1) value).length ≤
      (pretty depth (array (value :: values))).length := by
  rw [pretty]
  simp only [List.cons_append, List.length_cons, List.length_append]
  omega

theorem length_prettyFields_le {depth : Nat} {name : String} {value : Json} {fields : List (String × Json)}
    (member : (name, value) ∈ fields) :
    (pretty (depth + 1) value).length ≤ (prettyFields depth fields).length := by
  induction fields with
  | nil => cases member
  | cons field fields ih =>
      obtain ⟨other, first⟩ := field
      rw [prettyFields]
      simp only [List.cons_append, List.length_cons, List.length_append]
      rcases List.mem_cons.1 member with same | member
      · cases same
        omega
      · have longer := ih member
        omega

/-- A field's text is part of the object's. -/
theorem length_pretty_field_le {depth : Nat} {name : String} {value : Json} {fields : List (String × Json)}
    (member : (name, value) ∈ fields) :
    (pretty (depth + 1) value).length ≤ (pretty depth (object fields)).length := by
  cases fields with
  | nil => cases member
  | cons field fields =>
      obtain ⟨other, first⟩ := field
      rw [pretty]
      simp only [List.cons_append, List.length_cons, List.length_append]
      rcases List.mem_cons.1 member with same | member
      · cases same
        omega
      · have longer := @length_prettyFields_le depth _ _ _ member
        omega

end Json
