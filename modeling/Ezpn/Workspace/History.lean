import Ezpn.Lib.Source
import Ezpn.Workspace.Validation

/-!
# Reading history back

The decoder of history blobs with its reads of the decompressed stream and with the
size limit of its deserializer.
-/

set_option autoImplicit false

namespace Source
variable {α : Type}

/-! ## Bounded reads -/

end Source

namespace Ezpn

/-! ## The limited deserializer -/

/-- What is left of the input and of the size limit. -/
structure BincodeInput where
  bytes : Bytes
  limit : Nat

namespace BincodeInput

def take (n : Nat) (input : BincodeInput) : Except String (Bytes × BincodeInput) :=
  if input.limit < n then .error "the size limit has been reached"
  else if input.bytes.length < n then .error "unexpected end of file"
  else .ok (input.bytes.take n, { bytes := input.bytes.drop n, limit := input.limit - n })

/-- A length and that many bytes. -/
def block (input : BincodeInput) : Except String (Bytes × BincodeInput) :=
  match input.take 8 with
  | .error message => .error message
  | .ok (size, input) => input.take (u64Value size)

def row (input : BincodeInput) : Except String (RowSnapshot × BincodeInput) :=
  match input.block with
  | .error message => .error message
  | .ok (text, input) =>
      match Text.fromUtf8 text with
      | none => .error "string is not valid utf8"
      | some text =>
          match input.block with
          | .error message => .error message
          | .ok (attrs, input) => .ok ({ text, attrs }, input)

def rows : (count : Nat) → BincodeInput → Except String (List RowSnapshot × BincodeInput)
  | 0, input => .ok ([], input)
  | count + 1, input =>
      match input.row with
      | .error message => .error message
      | .ok (row, input) =>
          match rows count input with
          | .error message => .error message
          | .ok (rows, input) => .ok (row :: rows, input)

end BincodeInput

namespace BincodeInput

theorem take_append {a b : Bytes} {n limit : Nat} (length : a.length = n) (within : n ≤ limit) :
    take n { bytes := a ++ b, limit } = .ok (a, { bytes := b, limit := limit - n }) := by
  subst length
  unfold take
  rw [if_neg (Nat.not_lt.mpr within), if_neg (by simp)]
  simp only [List.take_left', List.drop_left']

end BincodeInput

/-- A compressor with its streaming decompressor, for one blob at a time. -/
structure Gzip where
  compress : Bytes → Bytes
  reader : (payload : Bytes) → Source UInt8
  fresh : ∀ payload, (reader payload).received = 0

namespace Gzip

/-- `take(max)` and `read_to_end`, where `window` is the room that the growing buffer offers. -/
def gunzip (gzip : Gzip) (window : Nat → Nat) (max : Nat) (payload : Bytes) : Except String Bytes :=
  match Source.fill window max 0 (gzip.reader payload) with
  | .error e _ => .error e.message
  | .ok buf _ => .ok buf

/-- A format that compresses with `gzip`. -/
def format {R : Type} (gzip : Gzip) (window : Nat → Nat) (base : SnapshotFormat R) : SnapshotFormat R :=
  { base with gzip := gzip.compress, gunzip := gzip.gunzip window }

end Gzip

namespace ScrollbackBlob
variable {R : Type}

end ScrollbackBlob

end Ezpn
