import Ezpn.Toml.Reader

/-!
# Documents of simple statements

What the groups of a document define stands in the document, whatever follows them.
-/

set_option autoImplicit false

namespace Ezpn

namespace Toml.Reader

/-! ## Sorted tables -/

section Sorted
variable {α : Type}

theorem lookup_place {key : String} (a : α) {entries : List (String × α)} (new : key ∉ entries.map Prod.fst) (other : String) :
    (place key a entries).lookup other = if other == key then some a else entries.lookup other := by
  induction entries with
  | nil =>
      rw [place, List.lookup_cons]
      cases other == key <;> rfl
  | cons entry entries ih =>
      obtain ⟨different, later⟩ := not_or.mp (mt List.mem_cons.mpr new)
      rw [place]
      split
      · rw [List.lookup_cons]
        cases other == key <;> rfl
      · rw [List.lookup_cons, ih later, List.lookup_cons]
        cases here : other == entry.1 with
        | true =>
            have apart : (other == key) = false := by
              rw [eq_of_beq here]
              exact beq_eq_false_iff_ne.mpr (Ne.symm different)
            rw [apart]
            rfl
        | false => rfl

theorem mem_place {key other : String} {a : α} {entries : List (String × α)} :
    other ∈ (place key a entries).map Prod.fst ↔ other = key ∨ other ∈ entries.map Prod.fst := by
  induction entries with
  | nil => simp only [place, List.map_cons, List.map_nil, List.mem_cons, List.not_mem_nil, or_false]
  | cons entry entries ih =>
      rw [place]
      split
      · rw [List.map_cons, List.mem_cons]
      · rw [List.map_cons, List.mem_cons, ih, List.map_cons, List.mem_cons, or_left_comm]

theorem mem_sorted {entries : List (String × α)} {other : String} :
    other ∈ (sorted entries).map Prod.fst ↔ other ∈ entries.map Prod.fst := by
  induction entries with
  | nil => exact Iff.rfl
  | cons entry entries ih =>
      change other ∈ (place entry.1 entry.2 (sorted entries)).map Prod.fst ↔ _
      rw [mem_place, ih, List.map_cons, List.mem_cons]

/-- A sorted table has the entries of the list. -/
theorem lookup_sorted {entries : List (String × α)} (distinct : (entries.map Prod.fst).Nodup) (other : String) :
    (sorted entries).lookup other = entries.lookup other := by
  induction entries with
  | nil => rfl
  | cons entry entries ih =>
      obtain ⟨new, distinct⟩ := List.nodup_cons.mp distinct
      change (place entry.1 entry.2 (sorted entries)).lookup other = _
      rw [lookup_place _ (fun member => new (mem_sorted.mp member)), ih distinct, List.lookup_cons]
      cases other == entry.1 <;> rfl

theorem lookup_of_mem {entries : List (String × α)} (distinct : (entries.map Prod.fst).Nodup) {key : String} {a : α}
    (member : (key, a) ∈ entries) : entries.lookup key = some a := by
  induction entries with
  | nil => nomatch member
  | cons entry entries ih =>
      obtain ⟨new, distinct⟩ := List.nodup_cons.mp distinct
      rw [List.lookup_cons]
      rcases List.mem_cons.mp member with rfl | later
      · rw [beq_self_eq_true]
      · have other : (key == entry.1) = false := by
          rw [beq_eq_false_iff_ne]
          rintro rfl
          exact new (List.mem_map.mpr ⟨_, later, rfl⟩)
        rw [other]
        exact ih distinct later

theorem lookup_none {entries : List (String × α)} {key : String} (absent : key ∉ entries.map Prod.fst) :
    entries.lookup key = none := by
  induction entries with
  | nil => rfl
  | cons entry entries ih =>
      obtain ⟨different, later⟩ := not_or.mp (mt List.mem_cons.mpr absent)
      rw [List.lookup_cons, beq_eq_false_iff_ne.mpr different]
      exact ih later

end Sorted

/-! ## Groups -/

/-- The open group is the first one, with the pairs that follow. -/
theorem groups_open (current : Group) (statements : List Statement) :
    ∃ more tail, groups current statements = { current with pairs := current.pairs ++ more } :: tail := by
  induction statements generalizing current with
  | nil => exact ⟨[], [], by rw [groups, List.append_nil]⟩
  | cons statement statements ih =>
      cases statement with
      | header header => exact ⟨[], _, by rw [groups, List.append_nil]⟩
      | pair key value =>
          obtain ⟨more, tail, whole⟩ := ih { current with pairs := current.pairs ++ [(key, value)] }
          exact ⟨(key, value) :: more, tail, by rw [groups, whole, List.append_assoc, List.singleton_append]⟩

/-- A header with its pairs. -/
def Group.statements (group : Group) : List Statement :=
  .header group.header :: group.pairs.map fun (key, value) => .pair key value

theorem groups_pairs (current : Group) (pairs : List (String × String)) (rest : List Statement) :
    groups current (pairs.map (fun (key, value) => .pair key value) ++ rest) =
      groups { current with pairs := current.pairs ++ pairs } rest := by
  induction pairs generalizing current with
  | nil => rw [List.map_nil, List.nil_append, List.append_nil]
  | cons pair pairs ih =>
      rw [List.map_cons, List.cons_append, groups, ih, List.append_assoc, List.singleton_append]

theorem groups_statements (current : Group) (front : List Group) (header : Header) (rest : List Statement) :
    groups current (front.flatMap Group.statements ++ .header header :: rest) = current :: (front ++ groups { header } rest) := by
  induction front generalizing current with
  | nil => rfl
  | cons group front ih =>
      rw [List.flatMap_cons, List.append_assoc, Group.statements, List.cons_append, groups, groups_pairs, ih]
      rfl

theorem groups_all (current : Group) (front : List Group) : groups current (front.flatMap Group.statements) = current :: front := by
  induction front generalizing current with
  | nil => rfl
  | cons group front ih =>
      rw [List.flatMap_cons, Group.statements, List.cons_append, groups, groups_pairs, ih]
      rfl

/-! ## Entries -/

section Document
variable {all : List Group} {doc : List (String × Toml)}

theorem document_some (defined : document all = some doc) :
    (∀ group ∈ all, (group.pairs.map Prod.fst).Nodup) ∧ ((entries all).map Prod.fst).Nodup ∧ doc = sorted (entries all) := by
  unfold document at defined
  split at defined
  · rename_i valid
    cases defined
    obtain ⟨pairs, keys⟩ := Bool.and_eq_true_iff.mp valid
    exact ⟨fun group member => of_decide_eq_true (List.all_eq_true.mp pairs group member), of_decide_eq_true keys, rfl⟩
  · nomatch defined

/-- A pair of a group is in its table. -/
theorem lookup_table {group : Group} (distinct : (group.pairs.map Prod.fst).Nodup) {key value : String}
    (member : (key, value) ∈ group.pairs) :
    ∃ tbl, group.table = .table tbl ∧ tbl.lookup key = some (.string value) := by
  have keys : (group.pairs.map fun (key, value) => (key, Toml.string value)).map Prod.fst = group.pairs.map Prod.fst := by
    rw [List.map_map]
    rfl
  refine ⟨_, rfl, ?_⟩
  rw [lookup_sorted (keys ▸ distinct)]
  exact lookup_of_mem (keys ▸ distinct) (List.mem_map.mpr ⟨_, member, rfl⟩)

theorem lookup_table_none {group : Group} (distinct : (group.pairs.map Prod.fst).Nodup) {key : String}
    (absent : key ∉ group.pairs.map Prod.fst) : ∃ tbl, group.table = .table tbl ∧ tbl.lookup key = none := by
  have keys : (group.pairs.map fun (key, value) => (key, Toml.string value)).map Prod.fst = group.pairs.map Prod.fst := by
    rw [List.map_map]
    rfl
  refine ⟨_, rfl, ?_⟩
  rw [lookup_sorted (keys ▸ distinct)]
  exact lookup_none (keys ▸ absent)

theorem lookup_named (defined : document all = some doc) {group : Group} {key : String} (member : group ∈ all)
    (header : group.header = .table key) : doc.lookup key = some group.table := by
  obtain ⟨-, keys, rfl⟩ := document_some defined
  rw [lookup_sorted keys]
  refine lookup_of_mem keys (List.mem_append_left _ (List.mem_append_right _ ?_))
  exact List.mem_filterMap.mpr ⟨group, member, by rw [Group.named, header]⟩

theorem lookup_items (defined : document all = some doc) {group : Group} {key : String} (member : group ∈ all)
    (header : group.header = .item key) : doc.lookup key = some (.array (items all key)) := by
  obtain ⟨-, keys, rfl⟩ := document_some defined
  rw [lookup_sorted keys]
  refine lookup_of_mem keys (List.mem_append_right _ (List.mem_map.mpr ⟨key, List.mem_eraseDups.mpr ?_, rfl⟩))
  exact List.mem_filterMap.mpr ⟨group, member, by rw [Group.itemKey, header]⟩

end Document

end Toml.Reader

end Ezpn
