import Ezpn.Lib.Json

/-!
# Derived codecs

A codec need not accept every value it writes (a number may be out of range), but
what it has decoded once it accepts again. Fields and containers inherit this.
-/

set_option autoImplicit false

structure JsonCodec (α : Type) where
  encode : α → Json
  decode : Json → Except String α
  stable : ∀ {value : Json} {a : α}, decode value = .ok a → decode (encode a) = .ok a

namespace JsonCodec

variable {α β : Type}

def Fits (codec : JsonCodec α) (a : α) : Prop := codec.decode (codec.encode a) = .ok a

theorem bind_ok {x : Except String α} {f : α → Except String β} {b : β} :
    (x >>= f) = .ok b ↔ ∃ a, x = .ok a ∧ f a = .ok b := by
  cases x with
  | ok a => exact ⟨fun found => ⟨a, rfl, found⟩, fun ⟨_, same, found⟩ => by cases same; exact found⟩
  | error message => exact ⟨nofun, fun ⟨_, same, _⟩ => nomatch same⟩

/-! ## Scalars -/

def string : JsonCodec String where
  encode := .string
  decode
    | .string value => .ok value
    | _ => .error "invalid type: expected a string"
  stable _ := rfl

theorem string_fits (value : String) : string.Fits value := rfl

def bool : JsonCodec Bool where
  encode := .bool
  decode
    | .bool value => .ok value
    | _ => .error "invalid type: expected a boolean"
  stable _ := rfl

theorem bool_fits (value : Bool) : bool.Fits value := rfl

def unsignedDecode (bits : Nat) : Json → Except String Nat
  | .nat value => if value < 2 ^ bits then .ok value else .error "invalid value: out of range"
  | _ => .error "invalid type: expected an unsigned integer"

theorem unsignedDecode_ok {bits n : Nat} {value : Json} :
    unsignedDecode bits value = .ok n ↔ value = .nat n ∧ n < 2 ^ bits := by
  cases value with
  | nat value =>
      by_cases inRange : value < 2 ^ bits
      · simp only [unsignedDecode, inRange, if_true, Except.ok.injEq, Json.nat.injEq]
        exact ⟨fun same => ⟨same, same ▸ inRange⟩, And.left⟩
      · simp only [unsignedDecode, inRange, if_false, Json.nat.injEq, reduceCtorEq, false_iff, not_and]
        rintro rfl
        exact inRange
  | _ => simp only [unsignedDecode, reduceCtorEq, false_and]

/-- Unsigned integers of `bits` bits. -/
def unsigned (bits : Nat) : JsonCodec Nat where
  encode := .nat
  decode := unsignedDecode bits
  stable found := unsignedDecode_ok.2 ⟨rfl, (unsignedDecode_ok.1 found).2⟩

theorem unsigned_fits {bits n : Nat} (inRange : n < 2 ^ bits) : (unsigned bits).Fits n :=
  unsignedDecode_ok.2 ⟨rfl, inRange⟩

/-! ## Containers -/

def optionDecode (codec : JsonCodec α) : Json → Except String (Option α)
  | .null => .ok none
  | value => codec.decode value >>= fun a => .ok (some a)

theorem optionDecode_some {codec : JsonCodec α} {value : Json} {a : α} (present : value ≠ .null) :
    optionDecode codec value = .ok (some a) ↔ codec.decode value = .ok a := by
  have unfolded : optionDecode codec value = (codec.decode value >>= fun a => .ok (some a)) := by
    cases value with
    | null => exact absurd rfl present
    | _ => rfl
  rw [unfolded, bind_ok]
  constructor
  · rintro ⟨b, decoded, same⟩
    cases same
    exact decoded
  · exact fun decoded => ⟨a, decoded, rfl⟩

/-- `null` stands for an absent value; `solid` values are never written as `null`. -/
def option (codec : JsonCodec α) (solid : ∀ a, codec.encode a ≠ .null) : JsonCodec (Option α) where
  encode
    | none => .null
    | some a => codec.encode a
  decode := optionDecode codec
  stable {value a} found := by
    cases a with
    | none => rfl
    | some a =>
        have present : value ≠ .null := by
          rintro rfl
          cases found
        exact (optionDecode_some (solid a)).2 (codec.stable ((optionDecode_some present).1 found))

theorem option_none_fits (codec : JsonCodec α) (solid : ∀ a, codec.encode a ≠ .null) :
    (codec.option solid).Fits none := rfl

def decodeItems (codec : JsonCodec α) : List Json → Except String (List α)
  | [] => .ok []
  | value :: values => do
      let a ← codec.decode value
      let rest ← decodeItems codec values
      .ok (a :: rest)

theorem decodeItems_forall₂ {codec : JsonCodec α} {values : List Json} {items : List α}
    (found : decodeItems codec values = .ok items) :
    List.Forall₂ (fun value item => codec.decode value = .ok item) values items := by
  induction values generalizing items with
  | nil => cases found; exact .nil
  | cons value values ih =>
      obtain ⟨a, first, found⟩ := bind_ok.1 found
      obtain ⟨rest, decoded, same⟩ := bind_ok.1 found
      cases same
      exact .cons first (ih decoded)

theorem decodeItems_encode {codec : JsonCodec α} {items : List α} (fits : ∀ item ∈ items, codec.Fits item) :
    decodeItems codec (items.map codec.encode) = .ok items := by
  induction items with
  | nil => rfl
  | cons item items ih =>
      have first : codec.decode (codec.encode item) = .ok item := fits item (List.mem_cons_self ..)
      have rest := ih fun other member => fits other (List.mem_cons_of_mem _ member)
      simp only [List.map_cons, decodeItems, first, rest, bind, Except.bind]

theorem decodeItems_fits {codec : JsonCodec α} {values : List Json} {items : List α}
    (found : decodeItems codec values = .ok items) : ∀ item ∈ items, codec.Fits item := by
  have pairs := decodeItems_forall₂ found
  clear found
  induction pairs with
  | nil => nofun
  | cons decoded _ ih =>
      intro item member
      rcases List.mem_cons.1 member with rfl | member
      · exact codec.stable decoded
      · exact ih item member

def list (codec : JsonCodec α) : JsonCodec (List α) where
  encode items := .array (items.map codec.encode)
  decode
    | .array values => decodeItems codec values
    | _ => .error "invalid type: expected a sequence"
  stable {value items} found := by
    cases value with
    | array values => exact decodeItems_encode (decodeItems_fits found)
    | _ => cases found

theorem list_fits {codec : JsonCodec α} {items : List α} (fits : ∀ item ∈ items, codec.Fits item) :
    codec.list.Fits items := decodeItems_encode fits

/-! ## Enumerations -/

/-- Externally tagged: a bare name, or an object of one entry. -/
def variant : Json → Except String (String × Option Json)
  | .string name => .ok (name, none)
  | .object [(name, content)] => .ok (name, some content)
  | _ => .error "invalid type: expected an enumeration"

def unitVariant (table : String → Option α) (value : Json) : Except String α :=
  match variant value with
  | .ok (name, none) | .ok (name, some .null) =>
      match table name with
      | some a => .ok a
      | none => .error s!"unknown variant `{name}`"
  | .ok _ => .error "invalid type: expected unit variant"
  | .error message => .error message

/-- An enumeration without content. -/
def enumeration (name : α → String) (table : String → Option α) (sound : ∀ a, table (name a) = some a) :
    JsonCodec α where
  encode a := .string (name a)
  decode := unitVariant table
  stable {_ a} _ := by simp only [unitVariant, variant, sound]

theorem enumeration_fits {name : α → String} {table : String → Option α} (sound : ∀ a, table (name a) = some a)
    (a : α) : (enumeration name table sound).Fits a := by
  simp only [Fits, enumeration, unitVariant, variant, sound]

/-! ## Structs -/

/-- A struct's entries: those of an object, or an array's in the order of the fields. -/
def entries (names : List String) : Json → Except String Json
  | .object fields => .ok (.object fields)
  | .array values =>
      if values.length ≤ names.length then .ok (.object (names.zip values)) else .error "invalid length"
  | _ => .error "invalid type: expected a struct"

def required (codec : JsonCodec α) (key : String) (value : Json) : Except String α :=
  match value.get? key with
  | some field => codec.decode field
  | none => .error s!"missing field `{key}`"

def defaulted (codec : JsonCodec α) (default : α) (key : String) (value : Json) : Except String α :=
  match value.get? key with
  | some field => codec.decode field
  | none => .ok default

theorem required_fits {codec : JsonCodec α} {key : String} {value : Json} {a : α}
    (found : codec.required key value = .ok a) : codec.Fits a := by
  unfold required at found
  split at found
  · exact codec.stable found
  · cases found

theorem defaulted_fits {codec : JsonCodec α} {default : α} {key : String} {value : Json} {a : α}
    (standing : codec.Fits default) (found : codec.defaulted default key value = .ok a) : codec.Fits a := by
  unfold defaulted at found
  split at found
  · exact codec.stable found
  · cases found
    exact standing

theorem required_encoded {codec : JsonCodec α} {key : String} {value : Json} {a : α}
    (written : value.get? key = some (codec.encode a)) (fits : codec.Fits a) :
    codec.required key value = .ok a := by
  simp only [required, written]
  exact fits

theorem defaulted_encoded {codec : JsonCodec α} {default : α} {key : String} {value : Json} {a : α}
    (written : value.get? key = some (codec.encode a)) (fits : codec.Fits a) :
    codec.defaulted default key value = .ok a := by
  simp only [defaulted, written]
  exact fits

theorem defaulted_skipped {codec : JsonCodec α} {default : α} {key : String} {value : Json}
    (skipped : value.get? key = none) : codec.defaulted default key value = .ok default := by
  simp only [defaulted, skipped]

end JsonCodec
