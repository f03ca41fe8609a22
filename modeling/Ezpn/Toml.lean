import Mathlib.Data.List.Defs

/-!
# TOML values

The values of a parsed TOML document and the typed reading of its fields. A table
lists its entries in the order in which they are iterated.
-/

set_option autoImplicit false

namespace Ezpn

inductive Toml where
  | string (s : String)
  | integer (n : Int)
  | float (bits : UInt64)
  | boolean (b : Bool)
  | datetime (text : String)
  | array (items : List Toml)
  | table (entries : List (String × Toml))

namespace Toml

def asStr : Toml → Option String
  | .string s => some s
  | _ => none

def asBool : Toml → Option Bool
  | .boolean b => some b
  | _ => none

def asTable : Toml → Option (List (String × Toml))
  | .table entries => some entries
  | _ => none

def asInteger : Toml → Option Int
  | .integer n => some n
  | _ => none

def asArray : Toml → Option (List Toml)
  | .array items => some items
  | _ => none

def asStrings (v : Toml) : Option (List String) := v.asArray.bind (·.mapM asStr)

/-- `Value::type_str`. -/
def typeStr : Toml → String
  | .string _ => "string"
  | .integer _ => "integer"
  | .float _ => "float"
  | .boolean _ => "boolean"
  | .datetime _ => "datetime"
  | .array _ => "array"
  | .table _ => "table"

end Toml

theorem except_bind_eq_ok {ε α β : Type} {x : Except ε α} {f : α → Except ε β} {b : β} :
    (x >>= f) = .ok b ↔ ∃ a, x = .ok a ∧ f a = .ok b := by
  cases x with
  | error e => exact iff_of_false nofun nofun
  | ok a => exact ⟨fun equal => ⟨a, rfl, equal⟩, fun ⟨_, equal, rest⟩ => Except.ok.inj equal ▸ rest⟩

/-- The library that reads and writes documents. `message` is what it says about a
value that is not of the expected kind, or missing. -/
class TomlCrate where
  document : String → Except String (List (String × Toml))
  encode : List (String × Toml) → Except String String
  message : (expected : String) → Option Toml → String

namespace Toml
variable [TomlCrate] {α : Type}

/-- A field of a deserialized record that may be left out. -/
def optional (entries : List (String × Toml)) (key : String) (read : Toml → Option α) (expected : String) :
    Except String (Option α) :=
  match entries.lookup key with
  | none => .ok none
  | some v =>
      match read v with
      | none => .error (TomlCrate.message expected (some v))
      | some a => .ok (some a)

def required (entries : List (String × Toml)) (key : String) (read : Toml → Option α) (expected : String) :
    Except String α := do
  match ← optional entries key read expected with
  | none => .error (TomlCrate.message expected none)
  | some a => .ok a

end Toml

end Ezpn
