import Mathlib.Data.List.Induction
import Mathlib.Data.List.Nodup

/-!
# Recency lists

Bounded lists of keys with values, the last set key first. Setting a new key in a
full list evicts the key that was set least recently.
-/

set_option autoImplicit false

namespace Recency
variable {κ ν : Type} [DecidableEq κ]

def get (key : κ) (list : List (κ × ν)) : Option ν := (list.find? fun entry => entry.1 = key).map Prod.snd

def delete (key : κ) (list : List (κ × ν)) : List (κ × ν) := list.filter fun entry => entry.1 ≠ key

/-- The key that makes room when `key` is set. -/
def evicted (capacity : Nat) (key : κ) (list : List (κ × ν)) : Option κ :=
  if key ∈ list.map Prod.fst then none
  else if capacity ≤ list.length then list.getLast?.map Prod.fst
  else none

def set (capacity : Nat) (key : κ) (value : ν) (list : List (κ × ν)) : List (κ × ν) :=
  (key, value) ::
    if key ∈ list.map Prod.fst then delete key list
    else if capacity ≤ list.length then list.dropLast
    else list

theorem get_eq_some_iff {key : κ} {value : ν} {list : List (κ × ν)} (distinct : (list.map Prod.fst).Nodup) :
    get key list = some value ↔ (key, value) ∈ list := by
  induction list with
  | nil => exact iff_of_false nofun List.not_mem_nil
  | cons entry list ih =>
      obtain ⟨first, rest⟩ := List.nodup_cons.mp distinct
      have tail := ih rest
      unfold get at tail ⊢
      rw [List.find?_cons, List.mem_cons]
      by_cases here : entry.1 = key
      · simp only [here, decide_true]
        constructor
        · intro same
          left
          exact Prod.ext here.symm (Option.some.inj same).symm
        · intro member
          rcases member with same | member
          · rw [← same]
            rfl
          · exact absurd (here ▸ List.mem_map_of_mem member) first
      · simp only [here, decide_false]
        rw [tail]
        constructor
        · exact .inr
        · intro member
          rcases member with same | member
          · exact absurd (congrArg Prod.fst same).symm here
          · exact member

theorem get_eq_none_iff {key : κ} {list : List (κ × ν)} : get key list = none ↔ key ∉ list.map Prod.fst := by
  unfold get
  rw [Option.map_eq_none_iff, List.find?_eq_none]
  constructor
  · intro none member
    obtain ⟨entry, listed, same⟩ := List.mem_map.mp member
    exact none entry listed (decide_eq_true same)
  · intro absent entry listed same
    exact absent (of_decide_eq_true same ▸ List.mem_map_of_mem listed)

theorem delete_sublist (key : κ) (list : List (κ × ν)) : (delete key list).Sublist list := List.filter_sublist

theorem delete_distinct {key : κ} {list : List (κ × ν)} (distinct : (list.map Prod.fst).Nodup) :
    ((delete key list).map Prod.fst).Nodup :=
  distinct.sublist ((delete_sublist key list).map Prod.fst)

theorem not_mem_delete (key : κ) (list : List (κ × ν)) : key ∉ (delete key list).map Prod.fst := by
  intro member
  obtain ⟨entry, listed, same⟩ := List.mem_map.mp member
  exact of_decide_eq_true (List.mem_filter.mp listed).2 same

/-- A key that is not there is deleted without effect. -/
theorem delete_of_not_mem {key : κ} {list : List (κ × ν)} (absent : key ∉ list.map Prod.fst) : delete key list = list := by
  refine List.filter_eq_self.mpr fun entry member => decide_eq_true fun same => absent ?_
  rw [← same]
  exact List.mem_map_of_mem member

theorem set_distinct {key : κ} {list : List (κ × ν)} (distinct : (list.map Prod.fst).Nodup) (capacity : Nat) (value : ν) :
    ((set capacity key value list).map Prod.fst).Nodup := by
  unfold set
  rw [List.map_cons, List.nodup_cons]
  split
  · exact ⟨not_mem_delete key list, delete_distinct distinct⟩
  · rename_i absent
    have shorter := (List.dropLast_sublist list).map Prod.fst
    split
    · exact ⟨fun member => absent (shorter.subset member), distinct.sublist shorter⟩
    · exact ⟨absent, distinct⟩

theorem length_delete_lt {key : κ} {list : List (κ × ν)} (present : key ∈ list.map Prod.fst) :
    (delete key list).length < list.length := by
  obtain ⟨entry, listed, same⟩ := List.mem_map.mp present
  exact List.length_filter_lt_length_iff_exists.mpr ⟨entry, listed, by simpa using same⟩

theorem set_length {capacity : Nat} (positive : 0 < capacity) (key : κ) (value : ν) (list : List (κ × ν)) :
    (set capacity key value list).length ≤ max capacity list.length := by
  unfold set
  rw [List.length_cons]
  split
  · rename_i present
    have shorter := length_delete_lt present
    omega
  · split
    · rw [List.length_dropLast]
      omega
    · omega

theorem get_set_self (capacity : Nat) (key : κ) (value : ν) (list : List (κ × ν)) :
    get key (set capacity key value list) = some value := by
  simp [get, set]

theorem get_delete_self (key : κ) (list : List (κ × ν)) : get key (delete key list) = none :=
  get_eq_none_iff.mpr (not_mem_delete key list)

theorem get_delete_other {key other : κ} (differs : other ≠ key) {list : List (κ × ν)} (distinct : (list.map Prod.fst).Nodup) :
    get other (delete key list) = get other list := by
  apply Option.ext
  intro value
  rw [get_eq_some_iff distinct, get_eq_some_iff (delete_distinct distinct), delete, List.mem_filter]
  exact and_iff_left (decide_eq_true differs)

/-- Another key keeps its value, unless it makes room. -/
theorem get_set_other {key other : κ} (differs : other ≠ key) {list : List (κ × ν)} (distinct : (list.map Prod.fst).Nodup)
    (capacity : Nat) (value : ν) :
    get other (set capacity key value list) = if evicted capacity key list = some other then none else get other list := by
  have behind (rest : List (κ × ν)) : get other ((key, value) :: rest) = get other rest := by
    unfold get
    rw [List.find?_cons]
    simp only [Ne.symm differs, decide_false]
  unfold set evicted
  rw [behind]
  split
  · rw [if_neg nofun, get_delete_other differs distinct]
  · split
    · induction list using List.reverseRecOn with
      | nil => rfl
      | append_singleton front last _ =>
          rw [List.dropLast_concat, List.getLast?_concat, Option.map_some]
          rw [List.map_append, List.nodup_append] at distinct
          by_cases same : last.1 = other
          · rw [if_pos (by rw [same]), get_eq_none_iff]
            intro member
            exact distinct.2.2 other member last.1 (List.mem_singleton_self _) same.symm
          · rw [if_neg (by simpa using same)]
            unfold get
            rw [List.find?_append]
            simp only [List.find?_cons, same, decide_false, List.find?_nil, Option.or_none]
    · rw [if_neg nofun]

end Recency
