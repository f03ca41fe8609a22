import Ezpn.Events
import Mathlib.Data.List.MinMax

/-!
# Named copy buffers

`BufferStore`: texts under names, with the sequence numbers that tell which buffer
was set least recently.
-/

set_option autoImplicit false

namespace Ezpn

structure BufferEntry where
  text : String
  createdAt : Nat
  deriving DecidableEq, Repr

/-- The ordered map from names to entries. -/
abbrev BufferMap : Type := Std.ExtTreeMap String BufferEntry compare

inductive SetError where
  | tooLarge (name : String) (size cap : Nat)
  deriving DecidableEq, Repr

def SetError.message : SetError → String
  | tooLarge name size cap => s!"buffer '{name}' rejected: {size} bytes exceeds {cap} byte cap"

structure BufferStore where
  buffers : BufferMap := ∅
  nextSeq : Nat := 0

namespace BufferStore

def maxBuffers : Nat := 100

/-- 16 MiB. -/
def maxBytes : Nat := 16 * 1024 * 1024

def defaultName : String := ""

/-- Number the entries in the given order. -/
def number : List (String × BufferEntry) → (seq : Nat) → BufferMap → BufferMap
  | [], _, buffers => buffers
  | (name, entry) :: rest, seq, buffers => number rest (seq + 1) (buffers.insert name { entry with createdAt := seq })

/-- Sort the entries by sequence number and number them anew. -/
def renumber (store : BufferStore) : BufferStore :=
  let entries := store.buffers.toList.mergeSort fun a b => a.2.createdAt ≤ b.2.createdAt
  { buffers := number entries 0 store.buffers, nextSeq := entries.length }

/-- `next_seq`: the number and the store after it, `none` when the counter overflows. -/
def takeSeq (store : BufferStore) : Option (Nat × BufferStore) :=
  let store := if store.nextSeq = Events.u64Max then store.renumber else store
  if store.nextSeq + 1 ≤ Events.u64Max then some (store.nextSeq, { store with nextSeq := store.nextSeq + 1 })
  else none

/-- Drop the entry with the smallest sequence number. -/
def evictOldest (store : BufferStore) : BufferStore :=
  match store.buffers.toList.argmin (·.2.createdAt) with
  | some (oldest, _) => { store with buffers := store.buffers.erase oldest }
  | none => store

def set (store : BufferStore) (name text : String) : Option (BufferStore × Except SetError Unit) :=
  if text.utf8ByteSize > maxBytes then some (store, .error (.tooLarge name text.utf8ByteSize maxBytes))
  else match store.takeSeq with
    | none => none
    | some (seq, store) =>
        let isNew := !store.buffers.contains name
        let store := if isNew && maxBuffers ≤ store.buffers.size then store.evictOldest else store
        some ({ store with buffers := store.buffers.insert name { text, createdAt := seq } }, .ok ())

def get (store : BufferStore) (name : String) : Option BufferEntry := store.buffers[name]?

def defaultBuffer (store : BufferStore) : Option BufferEntry := store.get defaultName

def delete (store : BufferStore) (name : String) : BufferStore × Option BufferEntry :=
  ({ store with buffers := store.buffers.erase name }, store.buffers[name]?)

/-- The buffers with their texts, the last set first. -/
def recent (store : BufferStore) : List (String × String) :=
  (store.buffers.toList.mergeSort fun a b => b.2.createdAt ≤ a.2.createdAt).map fun entry => (entry.1, entry.2.text)

/-! ## Runs -/

end BufferStore

inductive BufferOp where
  | set (name text : String)
  | get (name : String)
  | defaultBuffer
  | delete (name : String)
  deriving DecidableEq, Repr

inductive BufferReply where
  | set (result : Except SetError Unit)
  | text (found : Option String)

namespace BufferStore

def apply (store : BufferStore) : BufferOp → Option (BufferStore × BufferReply)
  | .set name text => (store.set name text).map fun result => (result.1, .set result.2)
  | .get name => some (store, .text ((store.get name).map (·.text)))
  | .defaultBuffer => some (store, .text (store.defaultBuffer.map (·.text)))
  | .delete name => some ((store.delete name).1, .text ((store.delete name).2.map (·.text)))

def run (store : BufferStore) : List BufferOp → Option (BufferStore × List BufferReply)
  | [] => some (store, [])
  | op :: ops =>
      match store.apply op with
      | none => none
      | some (store, reply) => (run store ops).map fun result => (result.1, reply :: result.2)

end BufferStore

end Ezpn
