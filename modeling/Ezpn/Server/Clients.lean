import Mathlib.Data.List.Basic

/-!
# Attached clients

The server shows one screen to all clients. Its size is the smallest of the
clients that may type, or of all when none may.
-/

set_option autoImplicit false

namespace Ezpn

/-- How a client wants to attach to a session. -/
inductive AttachMode where
  /-- detach every other client -/
  | steal
  | shared
  | readonly
  deriving DecidableEq, Repr

structure ConnectedClient where
  id : Nat
  mode : AttachMode
  tw : Nat
  th : Nat
  deriving DecidableEq, Repr

def ConnectedClient.writes (client : ConnectedClient) : Bool := client.mode ≠ .readonly

def maxClients : Nat := 32

def normalizeSize (cols rows : Nat) : Nat × Nat := (min (max cols 1) 1000, min (max rows 1) 500)

/-- The smaller width with the smaller height. -/
def smallest (a b : Nat × Nat) : Nat × Nat := (min a.1 b.1, min a.2 b.2)

def effectiveSize (clients : List ConnectedClient) : Nat × Nat :=
  let hasWriter := clients.any (·.writes)
  let sizes := (clients.filter fun c => !hasWriter || c.writes).map fun c => normalizeSize c.tw c.th
  match sizes with
  | [] => (80, 24)
  | first :: rest => rest.foldl smallest first

/-- The clients that the size depends on: those that may type, or all when none may. -/
def counted (clients : List ConnectedClient) : List ConnectedClient :=
  clients.filter fun c => !clients.any (·.writes) || c.writes

/-- The largest size that fits on the screens of all counted clients. -/
structure FitsAll (clients : List ConnectedClient) (size : Nat × Nat) : Prop where
  le : ∀ c ∈ counted clients, size.1 ≤ (normalizeSize c.tw c.th).1 ∧ size.2 ≤ (normalizeSize c.tw c.th).2
  width : ∃ c ∈ counted clients, size.1 = (normalizeSize c.tw c.th).1
  height : ∃ c ∈ counted clients, size.2 = (normalizeSize c.tw c.th).2

theorem smallest_of_all (first : Nat × Nat) (rest : List (Nat × Nat)) :
    let size := rest.foldl smallest first
    (∀ other ∈ first :: rest, size.1 ≤ other.1 ∧ size.2 ≤ other.2) ∧
      (∃ other ∈ first :: rest, size.1 = other.1) ∧ ∃ other ∈ first :: rest, size.2 = other.2 := by
  induction rest generalizing first with
  | nil => simp
  | cons next rest ih =>
      obtain ⟨least, ⟨width, widthMember, sameWidth⟩, height, heightMember, sameHeight⟩ := ih (smallest first next)
      have start := least _ List.mem_cons_self
      simp only [smallest, Nat.le_min] at start
      refine ⟨fun other member => ?_, ?_, ?_⟩
      · rcases List.mem_cons.mp member with rfl | member
        · exact ⟨start.1.1, start.2.1⟩
        rcases List.mem_cons.mp member with rfl | member
        · exact ⟨start.1.2, start.2.2⟩
        · exact least other (List.mem_cons_of_mem _ member)
      · rcases List.mem_cons.mp widthMember with rfl | member
        · rcases Nat.le_total first.1 next.1 with le | le
          · exact ⟨first, List.mem_cons_self, sameWidth.trans (Nat.min_eq_left le)⟩
          · exact ⟨next, by simp, sameWidth.trans (Nat.min_eq_right le)⟩
        · exact ⟨width, by simp [member], sameWidth⟩
      · rcases List.mem_cons.mp heightMember with rfl | member
        · rcases Nat.le_total first.2 next.2 with le | le
          · exact ⟨first, List.mem_cons_self, sameHeight.trans (Nat.min_eq_left le)⟩
          · exact ⟨next, by simp, sameHeight.trans (Nat.min_eq_right le)⟩
        · exact ⟨height, by simp [member], sameHeight⟩

theorem counted_ne_nil {clients : List ConnectedClient} (attached : clients ≠ []) : counted clients ≠ [] := by
  intro none
  rw [counted, List.filter_eq_nil_iff] at none
  cases typed : clients.any (·.writes) with
  | true =>
      obtain ⟨client, member, writes⟩ := List.any_eq_true.mp typed
      exact none client member (by simp [writes])
  | false =>
      obtain ⟨client, member⟩ := List.exists_mem_of_ne_nil _ attached
      exact none client member (by simp [typed])

theorem effectiveSize_fitsAll {clients : List ConnectedClient} (attached : clients ≠ []) :
    FitsAll clients (effectiveSize clients) := by
  have some := counted_ne_nil attached
  have shown : effectiveSize clients = match (counted clients).map fun c => normalizeSize c.tw c.th with
      | [] => (80, 24)
      | first :: rest => rest.foldl smallest first := rfl
  rw [shown]
  have sizes {size : Nat × Nat} (member : size ∈ (counted clients).map fun c => normalizeSize c.tw c.th) :
      ∃ c ∈ counted clients, normalizeSize c.tw c.th = size := List.mem_map.mp member
  cases entries : (counted clients).map fun c => normalizeSize c.tw c.th with
  | nil => exact absurd (List.map_eq_nil_iff.mp entries) some
  | cons first rest =>
      rw [entries] at sizes
      obtain ⟨least, ⟨width, widthMember, sameWidth⟩, height, heightMember, sameHeight⟩ := smallest_of_all first rest
      refine ⟨fun c member => least _ ?_, ?_, ?_⟩
      · rw [← entries]
        exact List.mem_map_of_mem member
      · obtain ⟨c, member, rfl⟩ := sizes widthMember
        exact ⟨c, member, sameWidth⟩
      · obtain ⟨c, member, rfl⟩ := sizes heightMember
        exact ⟨c, member, sameHeight⟩

/-- With a client that may type, the others do not count. -/
theorem effectiveSize_writers {clients : List ConnectedClient} (typed : clients.any (·.writes) = true) :
    effectiveSize clients = effectiveSize (clients.filter (·.writes)) := by
  have stillTyped : (clients.filter (·.writes)).any (·.writes) = true := by
    obtain ⟨client, member, writes⟩ := List.any_eq_true.mp typed
    exact List.any_eq_true.mpr ⟨client, List.mem_filter.mpr ⟨member, writes⟩, writes⟩
  simp only [effectiveSize, typed, stillTyped, Bool.not_true, Bool.false_or, List.filter_filter, Bool.and_self]

end Ezpn
