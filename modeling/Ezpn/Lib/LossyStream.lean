import Mathlib.Data.List.Chain
import Mathlib.Tactic.Linarith

/-!
# Streams with announced losses

A producer offers items to a stream that may lose them. Losses are counted, up
to a limit of the counter, and announced in the stream by a notice with the
count. After a notice the next entry is an item. The ledger of a stream holds
everything that was ever put into it, whether it has been read or not.
-/

set_option autoImplicit false

namespace LossyStream
variable {α ν : Type}

/-- What a stream carries; a notice may say more than its count. -/
inductive Entry (α ν : Type) where
  | notice (count : Nat) (note : ν)
  /-- an item, with the number of items offered before it -/
  | item (a : α) (serial : Nat)
  deriving DecidableEq, Repr

namespace Entry

def serial? : Entry α ν → Option Nat
  | notice .. => none
  | item _ serial => some serial

def item? : Entry α ν → Option α
  | notice .. => none
  | item a _ => some a

/-- The losses that an entry announces. -/
def count : Entry α ν → Nat
  | notice count _ => count
  | item .. => 0

/-- What may stand next to each other: an item before another one comes right after it in the offers,
and no notice stands before another one. -/
def Adjacent : Entry α ν → Entry α ν → Prop
  | notice .., notice .. => False
  | item _ serial, item _ next => next = serial + 1
  | _, _ => True

end Entry

structure Ledger (α ν : Type) where
  log : List (Entry α ν) := []
  offered : List α := []
  /-- losses that no notice has announced -/
  dropped : Nat := 0
  /-- the next entry is to be an item -/
  owed : Bool := false

namespace Ledger

/-- Items in the stream. -/
def delivered (ledger : Ledger α ν) : Nat := (ledger.log.filterMap Entry.serial?).length

/-- Losses announced in the stream. -/
def announced (ledger : Ledger α ν) : Nat := (ledger.log.map Entry.count).sum

/-! ## Moves -/

def lose (limit : Nat) (a : α) (ledger : Ledger α ν) : Ledger α ν :=
  { ledger with offered := ledger.offered ++ [a], dropped := min (ledger.dropped + 1) limit }

def deliver (a : α) (ledger : Ledger α ν) : Ledger α ν :=
  { ledger with
    log := ledger.log ++ [.item a ledger.offered.length]
    offered := ledger.offered ++ [a]
    owed := false }

def announce (note : ν) (ledger : Ledger α ν) : Ledger α ν :=
  { ledger with log := ledger.log ++ [.notice ledger.dropped note], dropped := 0, owed := true }

/-! ## Soundness -/

/-- What the end of the log says about the counter and the flag. -/
def Ending (ledger : Ledger α ν) : Prop :=
  match ledger.log.getLast? with
  | none => ledger.owed = false
  | some (.notice ..) => ledger.owed = true
  | some (.item _ serial) => ledger.owed = false ∧ (ledger.dropped = 0 → serial + 1 = ledger.offered.length)

structure Sound (limit : Nat) (ledger : Ledger α ν) : Prop where
  /-- every item was offered where its serial number says -/
  genuine : ∀ a serial, .item a serial ∈ ledger.log → ledger.offered[serial]? = some a
  ordered : (ledger.log.filterMap Entry.serial?).Pairwise (· < ·)
  kept : (ledger.log.filterMap Entry.item?).Sublist ledger.offered
  adjacent : ledger.log.IsChain Entry.Adjacent
  ending : ledger.Ending
  /-- nothing is lost without being counted, as long as the counter can hold it -/
  counted : ledger.offered.length ≤ limit → ledger.delivered + ledger.announced + ledger.dropped = ledger.offered.length

theorem sound_empty (limit : Nat) : ({} : Ledger α ν).Sound limit where
  genuine _ _ member := nomatch member
  ordered := .nil
  kept := .refl _
  adjacent := .nil
  ending := rfl
  counted _ := rfl

section Moves
variable {limit : Nat} {ledger : Ledger α ν}

theorem Sound.genuine_append (sound : ledger.Sound limit) {a b : α} {serial : Nat}
    (member : .item a serial ∈ ledger.log) : (ledger.offered ++ [b])[serial]? = some a := by
  have found := sound.genuine a serial member
  have bound := (List.getElem?_eq_some_iff.mp found).1
  rwa [List.getElem?_append_left bound]

theorem Sound.serial_lt (sound : ledger.Sound limit) {serial : Nat}
    (member : serial ∈ ledger.log.filterMap Entry.serial?) : serial < ledger.offered.length := by
  obtain ⟨entry, logged, shown⟩ := List.mem_filterMap.mp member
  cases entry with
  | notice => cases shown
  | item a place =>
      cases shown
      exact (List.getElem?_eq_some_iff.mp (sound.genuine a _ logged)).1

theorem Sound.lose (positive : 0 < limit) (sound : ledger.Sound limit) (a : α) : (ledger.lose limit a).Sound limit where
  genuine _ _ member := sound.genuine_append member
  ordered := sound.ordered
  kept := sound.kept.trans (List.sublist_append_left _ _)
  adjacent := sound.adjacent
  ending := by
    have ending := sound.ending
    simp only [Ending, Ledger.lose] at ending ⊢
    split at ending
    · exact ending
    · exact ending
    · exact ⟨ending.1, by omega⟩
  counted within := by
    simp only [Ledger.lose, List.length_append, List.length_singleton] at within ⊢
    have before := sound.counted (by omega)
    simp only [delivered, announced] at before ⊢
    omega

/-- An item may come after a notice, and wherever nothing has been lost. -/
theorem Sound.deliver (sound : ledger.Sound limit) (a : α) (current : ledger.owed = true ∨ ledger.dropped = 0) :
    (ledger.deliver a).Sound limit where
  genuine b serial member := by
    rcases List.mem_append.mp member with old | new
    · exact sound.genuine_append old
    · cases List.mem_singleton.mp new
      exact List.getElem?_concat_length
  ordered := by
    simp only [Ledger.deliver, List.filterMap_append, List.pairwise_append]
    refine ⟨sound.ordered, List.pairwise_singleton _ _, fun serial member last shown => ?_⟩
    cases List.mem_singleton.mp shown
    exact sound.serial_lt member
  kept := by
    simp only [Ledger.deliver, List.filterMap_append]
    exact sound.kept.append (.refl _)
  adjacent := by
    refine List.isChain_append.mpr ⟨sound.adjacent, .singleton _, fun entry ends next starts => ?_⟩
    cases starts
    have ending := sound.ending
    rw [Option.mem_def] at ends
    rw [Ending, ends] at ending
    cases entry with
    | notice => trivial
    | item b serial =>
        obtain ⟨notOwed, last⟩ := ending
        have none : ledger.dropped = 0 := current.resolve_left (by simp [notOwed])
        exact (last none).symm
  ending := by
    simp [Ending, Ledger.deliver]
  counted within := by
    simp only [Ledger.deliver, List.length_append, List.length_singleton] at within ⊢
    have before := sound.counted (by omega)
    simp only [delivered, announced, List.filterMap_append, List.map_append, List.length_append, List.sum_append,
      List.filterMap_cons, List.filterMap_nil, Entry.serial?, List.map_cons, List.map_nil, Entry.count, List.sum_cons,
      List.sum_nil, List.length_singleton] at before ⊢
    omega

/-- A notice comes after an item only. -/
theorem Sound.announce (sound : ledger.Sound limit) (note : ν) (due : ledger.owed = false) :
    (ledger.announce note).Sound limit where
  genuine a serial member := by
    rcases List.mem_append.mp member with old | new
    · exact sound.genuine a serial old
    · cases List.mem_singleton.mp new
  ordered := by
    simp only [Ledger.announce, List.filterMap_append, List.filterMap_cons, Entry.serial?, List.filterMap_nil,
      List.append_nil]
    exact sound.ordered
  kept := by
    simp only [Ledger.announce, List.filterMap_append, List.filterMap_cons, Entry.item?, List.filterMap_nil,
      List.append_nil]
    exact sound.kept
  adjacent := by
    refine List.isChain_append.mpr ⟨sound.adjacent, .singleton _, fun entry ends next starts => ?_⟩
    cases starts
    have ending := sound.ending
    rw [Option.mem_def] at ends
    rw [Ending, ends] at ending
    cases entry with
    | notice => exact absurd ending (by simp [due])
    | item => trivial
  ending := by simp only [Ending, Ledger.announce, List.getLast?_concat]
  counted within := by
    have before := sound.counted within
    simp only [Ledger.announce, delivered, announced, List.filterMap_append, List.map_append, List.length_append,
      List.sum_append, List.filterMap_cons, List.filterMap_nil, Entry.serial?, List.map_cons, List.map_nil, Entry.count,
      List.sum_cons, List.sum_nil, List.length_nil] at before ⊢
    omega

end Moves

end Ledger

end LossyStream
