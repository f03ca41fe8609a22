import Ezpn.Buffers
import Ezpn.Lib.Recency

/-!
# Buffers by recency

Every run of the buffer store is a run of a recency list of 100 texts, also when the
sequence counter is exhausted.
-/

set_option autoImplicit false

namespace Ezpn

/-- The entries of a map by descending sequence number. -/
structure Lists (buffers : BufferMap) (list : List (String × BufferEntry)) : Prop where
  descending : list.Pairwise fun a b => b.2.createdAt < a.2.createdAt
  members : ∀ name entry, buffers[name]? = some entry ↔ (name, entry) ∈ list

namespace Lists
variable {buffers : BufferMap} {list : List (String × BufferEntry)}

theorem distinct (lists : Lists buffers list) : (list.map Prod.fst).Nodup := by
  refine List.pairwise_map.mpr (lists.descending.imp_of_mem ?_)
  intro a b first second older same
  have one := (lists.members a.1 a.2).mpr first
  have two := (lists.members b.1 b.2).mpr second
  rw [same, two] at one
  rw [Option.some.inj one] at older
  exact Nat.lt_irrefl _ older

theorem perm (lists : Lists buffers list) : buffers.toList.Perm list := by
  refine (List.perm_ext_iff_of_nodup ?_ (List.Nodup.of_map _ lists.distinct)).mpr ?_
  · refine Std.ExtTreeMap.distinct_keys_toList.imp ?_
    intro a b differs same
    rw [same] at differs
    exact differs Std.ReflCmp.compare_self
  · rintro ⟨name, entry⟩
    rw [Std.ExtTreeMap.mem_toList_iff_getElem?_eq_some, lists.members]

theorem size (lists : Lists buffers list) : buffers.size = list.length := by
  rw [← Std.ExtTreeMap.length_toList, lists.perm.length_eq]

theorem contains (lists : Lists buffers list) (name : String) : buffers.contains name = true ↔ name ∈ list.map Prod.fst := by
  rw [Std.ExtTreeMap.contains_eq_isSome_getElem?, Option.isSome_iff_exists, List.mem_map]
  constructor
  · rintro ⟨entry, found⟩
    exact ⟨_, (lists.members name entry).mp found, rfl⟩
  · rintro ⟨⟨_, entry⟩, listed, rfl⟩
    exact ⟨entry, (lists.members _ entry).mpr listed⟩

theorem unique (lists : Lists buffers list) {a b : String × BufferEntry} (first : a ∈ list) (second : b ∈ list)
    (same : a.2.createdAt = b.2.createdAt) : a = b := by
  have numbers : (list.map fun entry => entry.2.createdAt).Nodup :=
    List.pairwise_map.mpr (lists.descending.imp fun older => (Nat.ne_of_lt older).symm)
  exact List.inj_on_of_nodup_map numbers first second same

theorem sorted (lists : Lists buffers list) :
    (buffers.toList.mergeSort fun a b => b.2.createdAt ≤ a.2.createdAt) = list := by
  have order := (List.mergeSort_perm buffers.toList fun a b => b.2.createdAt ≤ a.2.createdAt).trans lists.perm
  refine @List.Perm.eq_of_pairwise _ (fun a b => b.2.createdAt ≤ a.2.createdAt) _ _ ?_ ?_ (lists.descending.imp Nat.le_of_lt) order
  · intro a b first second one two
    exact lists.unique (order.subset first) second (le_antisymm two one)
  · refine (List.pairwise_mergeSort ?_ ?_ buffers.toList).imp of_decide_eq_true
    · intro a b c one two
      exact decide_eq_true (le_trans (of_decide_eq_true two) (of_decide_eq_true one))
    · intro a b
      rw [Bool.or_eq_true, decide_eq_true_eq, decide_eq_true_eq]
      exact le_total _ _

/-- By ascending sequence number, the entries are the reversed list. -/
theorem ascending (lists : Lists buffers list) :
    (buffers.toList.mergeSort fun a b => a.2.createdAt ≤ b.2.createdAt) = list.reverse := by
  have order := (List.mergeSort_perm buffers.toList fun a b => a.2.createdAt ≤ b.2.createdAt).trans
    (lists.perm.trans list.reverse_perm.symm)
  refine @List.Perm.eq_of_pairwise _ (fun a b => a.2.createdAt ≤ b.2.createdAt) _ _ ?_ ?_ ?_ order
  · intro a b first second one two
    exact lists.unique (List.mem_reverse.mp (order.subset first)) (List.mem_reverse.mp second) (le_antisymm one two)
  · refine (List.pairwise_mergeSort ?_ ?_ buffers.toList).imp of_decide_eq_true
    · intro a b c one two
      exact decide_eq_true (le_trans (of_decide_eq_true one) (of_decide_eq_true two))
    · intro a b
      rw [Bool.or_eq_true, decide_eq_true_eq, decide_eq_true_eq]
      exact le_total _ _
  · exact List.pairwise_reverse.mpr (lists.descending.imp Nat.le_of_lt)

theorem erase (lists : Lists buffers list) (name : String) : Lists (buffers.erase name) (Recency.delete name list) := by
  constructor
  · exact lists.descending.sublist (Recency.delete_sublist name list)
  · intro other entry
    rw [Std.ExtTreeMap.getElem?_erase, Recency.delete, List.mem_filter]
    split
    · rename_i same
      obtain rfl := Std.LawfulEqCmp.eq_of_compare same
      exact iff_of_false (by rintro ⟨⟩) fun kept => of_decide_eq_true kept.2 rfl
    · rename_i differs
      rw [lists.members]
      constructor
      · intro listed
        refine ⟨listed, decide_eq_true ?_⟩
        intro same
        dsimp only at same
        rw [same] at differs
        exact differs Std.ReflCmp.compare_self
      · exact And.left

/-- An entry with a new number is in front. -/
theorem insert (lists : Lists buffers list) {seq : Nat} (newer : ∀ entry ∈ list, entry.2.createdAt < seq) (name text : String) :
    Lists (buffers.insert name { text, createdAt := seq }) ((name, { text, createdAt := seq }) :: Recency.delete name list) := by
  constructor
  · refine List.pairwise_cons.mpr ⟨?_, lists.descending.sublist (Recency.delete_sublist name list)⟩
    intro entry member
    exact newer entry ((Recency.delete_sublist name list).subset member)
  · intro other entry
    rw [Std.ExtTreeMap.getElem?_insert, List.mem_cons]
    split
    · rename_i same
      obtain rfl := Std.LawfulEqCmp.eq_of_compare same
      constructor
      · intro found
        left
        rw [Option.some.inj found]
      · intro listed
        rcases listed with here | older
        · rw [(Prod.mk.inj here).2]
        · exact absurd (List.mem_map_of_mem older) (Recency.not_mem_delete name list)
    · rename_i differs
      have other_ne : other ≠ name := by
        intro same
        rw [same] at differs
        exact differs Std.ReflCmp.compare_self
      rw [lists.members, Recency.delete, List.mem_filter]
      constructor
      · intro listed
        exact .inr ⟨listed, decide_eq_true other_ne⟩
      · intro listed
        rcases listed with here | ⟨older, _⟩
        · exact absurd (Prod.mk.inj here).1 other_ne
        · exact older

/-- The evicted entry is the last one. -/
theorem evictOldest {store : BufferStore} {front : List (String × BufferEntry)} {last : String × BufferEntry}
    (lists : Lists store.buffers (front ++ [last])) :
    Lists store.evictOldest.buffers front ∧ store.evictOldest.nextSeq = store.nextSeq := by
  unfold BufferStore.evictOldest
  have there : last ∈ front ++ [last] := List.mem_append_right _ (List.mem_singleton_self last)
  split
  · rename_i oldest entry found
    refine ⟨?_, rfl⟩
    have listed := lists.perm.subset (List.argmin_mem found)
    have least : entry.createdAt ≤ last.2.createdAt :=
      List.le_of_mem_argmin (f := fun entry : String × BufferEntry => entry.2.createdAt) (lists.perm.symm.subset there) found
    obtain rfl : (oldest, entry) = last := by
      rcases List.mem_append.mp listed with newer | here
      · have later := (List.pairwise_append.mp lists.descending).2.2 _ newer _ (List.mem_singleton_self last)
        exact absurd least (Nat.not_le.mpr later)
      · exact List.mem_singleton.mp here
    have shorter : Recency.delete oldest (front ++ [(oldest, entry)]) = front := by
      have distinct := lists.distinct
      rw [List.map_append, List.nodup_append] at distinct
      have absent : oldest ∉ front.map Prod.fst := fun member => distinct.2.2 oldest member oldest (List.mem_singleton_self _) rfl
      rw [Recency.delete, List.filter_append, ← Recency.delete, Recency.delete_of_not_mem absent]
      simp
    rw [← shorter]
    exact lists.erase oldest
  · rename_i none
    rw [List.argmin_eq_none] at none
    have empty := lists.perm
    rw [none] at empty
    exact absurd (empty.symm.eq_nil ▸ there) List.not_mem_nil

end Lists

/-! ## Renumbering -/

/-- The entries after some that have their new numbers, the last numbered first. -/
def numbered : List (String × BufferEntry) → (seq : Nat) → List (String × BufferEntry) → List (String × BufferEntry)
  | [], _, done => done
  | (name, entry) :: rest, seq, done => numbered rest (seq + 1) ((name, { entry with createdAt := seq }) :: done)

theorem numbered_texts (rest done : List (String × BufferEntry)) (seq : Nat) :
    (numbered rest seq done).map (fun entry => (entry.1, entry.2.text)) =
      rest.reverse.map (fun entry => (entry.1, entry.2.text)) ++ done.map fun entry => (entry.1, entry.2.text) := by
  induction rest generalizing seq done with
  | nil => rfl
  | cons entry rest ih =>
      obtain ⟨name, entry⟩ := entry
      rw [numbered, ih, List.reverse_cons, List.map_append, List.append_assoc]
      rfl

theorem numbered_below {rest done : List (String × BufferEntry)} {seq : Nat} (below : ∀ entry ∈ done, entry.2.createdAt < seq) :
    ∀ entry ∈ numbered rest seq done, entry.2.createdAt < seq + rest.length := by
  induction rest generalizing seq done with
  | nil => exact below
  | cons entry rest ih =>
      obtain ⟨name, entry⟩ := entry
      rw [List.length_cons, ← Nat.add_assoc, Nat.add_right_comm]
      refine ih (List.forall_mem_cons.mpr ⟨Nat.lt_succ_self seq, ?_⟩)
      intro old member
      exact Nat.lt_succ_of_lt (below old member)

/-- What the map holds while some entries still have their old numbers. -/
theorem number_lists {rest done : List (String × BufferEntry)} {seq : Nat} {buffers : BufferMap}
    (distinct : ((rest ++ done).map Prod.fst).Nodup) (below : ∀ entry ∈ done, entry.2.createdAt < seq)
    (descending : done.Pairwise fun a b => b.2.createdAt < a.2.createdAt)
    (members : ∀ name entry, buffers[name]? = some entry ↔ (name, entry) ∈ rest ++ done) :
    Lists (BufferStore.number rest seq buffers) (numbered rest seq done) := by
  induction rest generalizing seq done buffers with
  | nil => exact ⟨descending, members⟩
  | cons entry rest ih =>
      obtain ⟨name, entry⟩ := entry
      rw [BufferStore.number, numbered]
      obtain ⟨absent, others⟩ := List.nodup_cons.mp distinct
      refine ih ?_ ?_ ?_ ?_
      · rw [List.map_append, List.map_cons]
        refine List.perm_middle.nodup_iff.mpr ?_
        rw [← List.map_append]
        exact List.nodup_cons.mpr ⟨absent, others⟩
      · refine List.forall_mem_cons.mpr ⟨Nat.lt_succ_self seq, ?_⟩
        intro old member
        exact Nat.lt_succ_of_lt (below old member)
      · exact List.pairwise_cons.mpr ⟨below, descending⟩
      · intro other found
        rw [Std.ExtTreeMap.getElem?_insert, List.perm_middle.mem_iff, List.mem_cons]
        split
        · rename_i same
          obtain rfl := Std.LawfulEqCmp.eq_of_compare same
          constructor
          · intro here
            left
            rw [Option.some.inj here]
          · intro listed
            rcases listed with here | older
            · rw [(Prod.mk.inj here).2]
            · exact absurd (List.mem_map_of_mem older) absent
        · rename_i differs
          have other_ne : other ≠ name := by
            intro same
            rw [same] at differs
            exact differs Std.ReflCmp.compare_self
          rw [members, List.cons_append, List.mem_cons]
          refine or_congr_left (iff_of_false ?_ ?_)
          · intro same
            exact other_ne (Prod.mk.inj same).1
          · intro same
            exact other_ne (Prod.mk.inj same).1

/-- Renumbering keeps the names, the texts and their order. -/
theorem renumber_lists {store : BufferStore} {list : List (String × BufferEntry)} (lists : Lists store.buffers list) :
    ∃ list', Lists store.renumber.buffers list' ∧ store.renumber.nextSeq = list.length ∧
      (∀ entry ∈ list', entry.2.createdAt < list.length) ∧
      list'.map (fun entry => (entry.1, entry.2.text)) = list.map fun entry => (entry.1, entry.2.text) := by
  refine ⟨numbered list.reverse 0 [], ?_, ?_, ?_, ?_⟩
  · unfold BufferStore.renumber
    rw [lists.ascending]
    refine number_lists ?_ nofun .nil ?_
    · rw [List.append_nil, List.map_reverse]
      exact List.nodup_reverse.mpr lists.distinct
    · intro name entry
      rw [List.append_nil, List.mem_reverse, lists.members]
  · unfold BufferStore.renumber
    rw [lists.ascending]
    exact List.length_reverse
  · have below := @numbered_below list.reverse [] 0 nofun
    rw [List.length_reverse, Nat.zero_add] at below
    exact below
  · rw [numbered_texts, List.reverse_reverse, List.map_nil, List.append_nil]

/-! ## Operations -/

/-- The names with their texts. -/
def texts (list : List (String × BufferEntry)) : List (String × String) := list.map fun entry => (entry.1, entry.2.text)

theorem texts_keys (list : List (String × BufferEntry)) : (texts list).map Prod.fst = list.map Prod.fst := by
  simp [texts]

theorem texts_delete (name : String) (list : List (String × BufferEntry)) :
    texts (Recency.delete name list) = Recency.delete name (texts list) := by
  simp [texts, Recency.delete, List.filter_map, Function.comp_def]

/-- A store whose entries are listed, with a counter above them. -/
structure Holds (store : BufferStore) (list : List (String × BufferEntry)) : Prop where
  lists : Lists store.buffers list
  below : ∀ entry ∈ list, entry.2.createdAt < store.nextSeq
  counter : store.nextSeq ≤ Events.u64Max
  fits : list.length ≤ 2 ^ 63

namespace Holds
variable {store : BufferStore} {list : List (String × BufferEntry)}

theorem recent (holds : Holds store list) : store.recent = texts list := by
  unfold BufferStore.recent
  rw [holds.lists.sorted]
  rfl

theorem get (holds : Holds store list) (name : String) :
    (store.get name).map (·.text) = Recency.get name (texts list) := by
  have distinct : ((texts list).map Prod.fst).Nodup := by
    rw [texts_keys]
    exact holds.lists.distinct
  apply Option.ext
  intro text
  rw [Recency.get_eq_some_iff distinct, Option.map_eq_some_iff]
  constructor
  · intro found
    obtain ⟨entry, held, rfl⟩ := found
    exact List.mem_map_of_mem ((holds.lists.members name entry).mp held)
  · intro listed
    obtain ⟨⟨_, entry⟩, held, same⟩ := List.mem_map.mp listed
    cases same
    exact ⟨entry, (holds.lists.members _ entry).mpr held, rfl⟩

/-- The next number is above all others, and the counter stays in its range. -/
theorem takeSeq (holds : Holds store list) :
    ∃ seq after list', store.takeSeq = some (seq, after) ∧ Lists after.buffers list' ∧
      (∀ entry ∈ list', entry.2.createdAt < seq) ∧ after.nextSeq = seq + 1 ∧ seq + 1 ≤ Events.u64Max ∧ texts list' = texts list := by
  have counter := holds.counter
  unfold BufferStore.takeSeq
  by_cases exhausted : store.nextSeq = Events.u64Max
  · obtain ⟨list', lists, next, below, same⟩ := renumber_lists holds.lists
    have room : list.length + 1 ≤ Events.u64Max := by
      have fits := holds.fits
      unfold Events.u64Max
      omega
    rw [if_pos exhausted]
    dsimp only
    rw [next, if_pos room]
    exact ⟨_, _, list', rfl, lists, below, rfl, room, same⟩
  · have room : store.nextSeq + 1 ≤ Events.u64Max := by omega
    rw [if_neg exhausted]
    dsimp only
    rw [if_pos room]
    exact ⟨_, _, list, rfl, holds.lists, holds.below, rfl, room, rfl⟩

/-- A new entry with the number that was taken, in front of older ones. -/
theorem front {name text : String} {base : BufferStore} {rest : List (String × BufferEntry)} {seq : Nat} (lists : Lists base.buffers rest)
    (below : ∀ entry ∈ rest, entry.2.createdAt < seq) (next : base.nextSeq = seq + 1) (room : seq + 1 ≤ Events.u64Max)
    (fits : (Recency.delete name rest).length < 2 ^ 63) :
    Holds { base with buffers := base.buffers.insert name { text, createdAt := seq } }
      ((name, { text, createdAt := seq }) :: Recency.delete name rest) where
  lists := lists.insert below name text
  below := by
    dsimp only
    rw [next]
    refine List.forall_mem_cons.mpr ⟨Nat.lt_succ_self seq, fun entry member => ?_⟩
    exact Nat.lt_succ_of_lt (below entry ((Recency.delete_sublist name rest).subset member))
  counter := by
    dsimp only
    rw [next]
    exact room
  fits := fits

/-- Setting a name moves it to the front, and makes room for a new one. -/
theorem set (holds : Holds store list) {name text : String} (small : text.utf8ByteSize ≤ BufferStore.maxBytes) :
    ∃ after list', store.set name text = some (after, .ok ()) ∧ Holds after list' ∧
      texts list' = Recency.set BufferStore.maxBuffers name text (texts list) := by
  obtain ⟨seq, numbered, listed, taken, lists, below, next, room, same⟩ := holds.takeSeq
  have length : listed.length = list.length := by simpa [texts] using congrArg List.length same
  have fits := holds.fits
  have keys : (texts list).map Prod.fst = listed.map Prod.fst := by rw [← same, texts_keys]
  have full : (texts list).length = listed.length := by rw [← same, texts, List.length_map]
  unfold BufferStore.set
  rw [if_neg (Nat.not_lt.mpr small), taken]
  dsimp only
  unfold Recency.set
  rw [keys, full, lists.size]
  by_cases present : name ∈ listed.map Prod.fst
  · rw [if_pos present, (lists.contains name).mpr present]
    have shorter := Recency.length_delete_lt present
    refine ⟨_, _, rfl, front lists below next room (by omega), ?_⟩
    rw [← same, ← texts_delete]
    rfl
  · have absent : numbered.buffers.contains name = false := by
      rw [← Bool.not_eq_true, lists.contains]
      exact present
    rw [if_neg present, absent]
    by_cases crowded : BufferStore.maxBuffers ≤ listed.length
    · have some : listed ≠ [] := by
        intro none
        rw [none] at crowded
        exact absurd crowded (by decide)
      obtain ⟨rest, last, rfl⟩ : ∃ rest last, listed = rest ++ [last] :=
        ⟨listed.dropLast, listed.getLast some, (List.dropLast_append_getLast some).symm⟩
      obtain ⟨evicted, kept⟩ := lists.evictOldest
      have unmoved : Recency.delete name rest = rest := by
        refine Recency.delete_of_not_mem fun member => present ?_
        rw [List.map_append]
        exact List.mem_append_left _ member
      rw [List.length_append, List.length_singleton] at length
      simp only [crowded, decide_true, Bool.not_false, Bool.and_self, if_true]
      refine ⟨_, _, rfl, front evicted (fun entry member => below entry (List.mem_append_left _ member)) (kept.trans next) room
        (by rw [unmoved]; omega), ?_⟩
      rw [unmoved, ← same, texts, texts, List.map_append, List.map_singleton, List.dropLast_concat, List.map_cons]
    · have unmoved := Recency.delete_of_not_mem present
      simp only [crowded, decide_false, Bool.and_false, Bool.false_eq_true, if_false]
      unfold BufferStore.maxBuffers at crowded
      refine ⟨_, _, rfl, front lists below next room (by rw [unmoved]; omega), ?_⟩
      rw [unmoved, ← same]
      rfl

theorem delete (holds : Holds store list) (name : String) : Holds (store.delete name).1 (Recency.delete name list) where
  lists := holds.lists.erase name
  below entry member := holds.below entry ((Recency.delete_sublist name list).subset member)
  counter := holds.counter
  fits := le_trans (Recency.delete_sublist name list).length_le holds.fits

end Holds

namespace BufferStore

/-- Distinct numbers below the counter; what fits into memory has at most `isize::MAX` entries. -/
structure Sound (store : BufferStore) : Prop where
  distinct : ∀ (a b : String) (x y : BufferEntry), store.buffers[a]? = some x → store.buffers[b]? = some y →
    x.createdAt = y.createdAt → a = b
  below : ∀ (name : String) (entry : BufferEntry), store.buffers[name]? = some entry → entry.createdAt < store.nextSeq
  counter : store.nextSeq ≤ Events.u64Max
  fits : store.buffers.size ≤ 2 ^ 63

theorem Sound.holds {store : BufferStore} (sound : store.Sound) : ∃ list, Holds store list := by
  have order := List.mergeSort_perm store.buffers.toList fun a b => b.2.createdAt ≤ a.2.createdAt
  have members (name : String) (entry : BufferEntry) : store.buffers[name]? = some entry ↔
      (name, entry) ∈ store.buffers.toList.mergeSort fun a b => b.2.createdAt ≤ a.2.createdAt := by
    rw [order.mem_iff, Std.ExtTreeMap.mem_toList_iff_getElem?_eq_some]
  refine ⟨store.buffers.toList.mergeSort fun a b => b.2.createdAt ≤ a.2.createdAt, ⟨?_, members⟩, ?_, sound.counter, ?_⟩
  · have sorted := @List.pairwise_mergeSort (String × BufferEntry) (fun a b => b.2.createdAt ≤ a.2.createdAt) ?_ ?_
      store.buffers.toList
    · have named : (store.buffers.toList.mergeSort fun a b => b.2.createdAt ≤ a.2.createdAt).Pairwise fun a b => a.1 ≠ b.1 := by
        refine order.symm.pairwise (Std.ExtTreeMap.distinct_keys_toList.imp ?_) ?_
        · intro a b differs same
          rw [same] at differs
          exact differs Std.ReflCmp.compare_self
        · intro a b differs
          exact differs.symm
      refine (sorted.and named).imp_of_mem ?_
      intro a b first second later
      obtain ⟨le, differs⟩ := later
      refine lt_of_le_of_ne (of_decide_eq_true le) ?_
      intro same
      exact differs (sound.distinct a.1 b.1 a.2 b.2 ((members _ _).mpr first) ((members _ _).mpr second) same.symm)
    · intro a b c one two
      exact decide_eq_true (le_trans (of_decide_eq_true two) (of_decide_eq_true one))
    · intro a b
      rw [Bool.or_eq_true, decide_eq_true_eq, decide_eq_true_eq]
      exact le_total _ _
  · intro entry member
    exact sound.below entry.1 entry.2 ((members _ _).mpr member)
  · rw [order.length_eq, Std.ExtTreeMap.length_toList]
    exact sound.fits

end BufferStore

theorem Holds.sound {store : BufferStore} {list : List (String × BufferEntry)} (holds : Holds store list) : store.Sound where
  distinct a b x y first second same :=
    congrArg Prod.fst (holds.lists.unique ((holds.lists.members a x).mp first) ((holds.lists.members b y).mp second) same)
  below name entry held := holds.below (name, entry) ((holds.lists.members name entry).mp held)
  counter := holds.counter
  fits := by
    rw [holds.lists.size]
    exact holds.fits

/-! ## Runs -/

namespace BufferOp

/-- What an operation is to a recency list. -/
def onList (list : List (String × String)) : BufferOp → List (String × String) × BufferReply
  | set name text =>
      if text.utf8ByteSize > BufferStore.maxBytes then
        (list, .set (.error (.tooLarge name text.utf8ByteSize BufferStore.maxBytes)))
      else (Recency.set BufferStore.maxBuffers name text list, .set (.ok ()))
  | get name => (list, .text (Recency.get name list))
  | defaultBuffer => (list, .text (Recency.get BufferStore.defaultName list))
  | delete name => (Recency.delete name list, .text (Recency.get name list))

def runOnList (list : List (String × String)) : List BufferOp → List (String × String) × List BufferReply
  | [] => (list, [])
  | op :: ops => ((runOnList (op.onList list).1 ops).1, (op.onList list).2 :: (runOnList (op.onList list).1 ops).2)

/-- The text last set under a name after an operation, none once the name is deleted or evicted. -/
def track (name : String) (list : List (String × String)) (text : Option String) : BufferOp → Option String
  | set other new =>
      if new.utf8ByteSize > BufferStore.maxBytes then text
      else if other = name then some new
      else if Recency.evicted BufferStore.maxBuffers other list = some name then none
      else text
  | delete other => if other = name then none else text
  | get _ | defaultBuffer => text

def latest (name : String) (list : List (String × String)) (text : Option String) : List BufferOp → Option String
  | [] => text
  | op :: ops => latest name (op.onList list).1 (op.track name list text) ops

theorem onList_distinct {list : List (String × String)} (distinct : (list.map Prod.fst).Nodup) (op : BufferOp) :
    ((op.onList list).1.map Prod.fst).Nodup := by
  cases op with
  | set name text =>
      rw [onList]
      split
      · exact distinct
      · exact Recency.set_distinct distinct _ _
  | get name => exact distinct
  | defaultBuffer => exact distinct
  | delete name => exact Recency.delete_distinct distinct

theorem onList_length (list : List (String × String)) (op : BufferOp) :
    (op.onList list).1.length ≤ max BufferStore.maxBuffers list.length := by
  cases op with
  | set name text =>
      rw [onList]
      split
      · exact le_max_right _ _
      · exact Recency.set_length (by decide) _ _ _
  | get name => exact le_max_right _ _
  | defaultBuffer => exact le_max_right _ _
  | delete name => exact le_trans (Recency.delete_sublist name list).length_le (le_max_right _ _)

/-- A list of distinct names stays one, and does not grow over its capacity. -/
theorem runOnList_bounded {list : List (String × String)} (distinct : (list.map Prod.fst).Nodup) (ops : List BufferOp) :
    ((runOnList list ops).1.map Prod.fst).Nodup ∧ (runOnList list ops).1.length ≤ max BufferStore.maxBuffers list.length := by
  induction ops generalizing list with
  | nil => exact ⟨distinct, le_max_right _ _⟩
  | cons op ops ih =>
      obtain ⟨names, bounded⟩ := ih (onList_distinct distinct op)
      have grown := onList_length list op
      refine ⟨names, le_trans bounded ?_⟩
      omega

theorem track_onList {list : List (String × String)} (distinct : (list.map Prod.fst).Nodup) (name : String) (op : BufferOp) :
    op.track name list (Recency.get name list) = Recency.get name (op.onList list).1 := by
  cases op with
  | set other text =>
      rw [track, onList]
      split
      · rfl
      · by_cases same : other = name
        · rw [if_pos same, same, Recency.get_set_self]
        · rw [if_neg same, Recency.get_set_other (Ne.symm same) distinct]
  | get other => rfl
  | defaultBuffer => rfl
  | delete other =>
      rw [track, onList]
      by_cases same : other = name
      · rw [if_pos same, same, Recency.get_delete_self]
      · rw [if_neg same, Recency.get_delete_other (Ne.symm same) distinct]

theorem latest_runOnList {list : List (String × String)} (distinct : (list.map Prod.fst).Nodup) (name : String)
    (ops : List BufferOp) : latest name list (Recency.get name list) ops = Recency.get name (runOnList list ops).1 := by
  induction ops generalizing list with
  | nil => rfl
  | cons op ops ih => rw [latest, track_onList distinct, ih (onList_distinct distinct op), runOnList]

end BufferOp

namespace BufferStore

/-- One operation of the store is one of its recency list. -/
theorem apply_refines {store : BufferStore} (sound : store.Sound) (op : BufferOp) :
    ∃ after, store.apply op = some (after, (op.onList store.recent).2) ∧ after.Sound ∧ after.recent = (op.onList store.recent).1 := by
  obtain ⟨list, holds⟩ := sound.holds
  rw [holds.recent]
  cases op with
  | set name text =>
      by_cases large : text.utf8ByteSize > maxBytes
      · refine ⟨store, ?_, sound, ?_⟩
        · rw [apply, set, if_pos large, BufferOp.onList, if_pos large]
          rfl
        · rw [BufferOp.onList, if_pos large, holds.recent]
      · obtain ⟨after, list', ran, held, same⟩ := @Holds.set store list holds name text (Nat.le_of_not_lt large)
        refine ⟨after, ?_, held.sound, ?_⟩
        · rw [apply, ran, BufferOp.onList, if_neg large]
          rfl
        · rw [held.recent, same, BufferOp.onList, if_neg large]
  | get name =>
      refine ⟨store, ?_, sound, holds.recent⟩
      rw [apply, holds.get]
      rfl
  | defaultBuffer =>
      refine ⟨store, ?_, sound, holds.recent⟩
      rw [apply, defaultBuffer, holds.get]
      rfl
  | delete name =>
      have deleted := holds.delete name
      refine ⟨(store.delete name).1, ?_, deleted.sound, ?_⟩
      · have found : (store.delete name).2 = store.get name := rfl
        rw [apply, found, holds.get]
        rfl
      · rw [deleted.recent, texts_delete]
        rfl

/-- A run of the store answers as its recency list does. -/
theorem run_refines {store : BufferStore} (sound : store.Sound) (ops : List BufferOp) :
    ∃ final, store.run ops = some (final, (BufferOp.runOnList store.recent ops).2) ∧ final.Sound ∧
      final.recent = (BufferOp.runOnList store.recent ops).1 := by
  induction ops generalizing store with
  | nil => exact ⟨store, rfl, sound, rfl⟩
  | cons op ops ih =>
      obtain ⟨middle, applied, middleSound, middleRecent⟩ := apply_refines sound op
      obtain ⟨final, ran, finalSound, finalRecent⟩ := ih middleSound
      refine ⟨final, ?_, finalSound, ?_⟩
      · rw [run, applied]
        dsimp only
        rw [ran, middleRecent]
        rfl
      · rw [finalRecent, middleRecent]
        rfl

/-- Every run is the run of a recency list of at most 100 names, the last set first, and no counter overflows. -/
theorem buffers_by_recency {store : BufferStore} (sound : store.Sound) (ops : List BufferOp) :
    ∃ final, store.run ops = some (final, (BufferOp.runOnList store.recent ops).2) ∧ final.Sound ∧
      final.recent = (BufferOp.runOnList store.recent ops).1 ∧
      (final.recent.map Prod.fst).Nodup ∧ final.buffers.size = final.recent.length ∧
      final.recent.length ≤ max maxBuffers store.buffers.size ∧
      (∀ name, (final.get name).map (·.text) = BufferOp.latest name store.recent ((store.get name).map (·.text)) ops) ∧
      ∀ name text, text.utf8ByteSize > maxBytes →
        final.set name text = some (final, .error (.tooLarge name text.utf8ByteSize maxBytes)) := by
  obtain ⟨list, holds⟩ := sound.holds
  have distinct : (store.recent.map Prod.fst).Nodup := by
    rw [holds.recent, texts_keys]
    exact holds.lists.distinct
  obtain ⟨final, ran, finalSound, finalRecent⟩ := run_refines sound ops
  obtain ⟨finalList, finalHolds⟩ := finalSound.holds
  obtain ⟨names, bounded⟩ := BufferOp.runOnList_bounded distinct ops
  have size : store.buffers.size = store.recent.length := by rw [holds.lists.size, holds.recent, texts, List.length_map]
  refine ⟨final, ran, finalSound, finalRecent, ?_, ?_, ?_, ?_, ?_⟩
  · rw [finalRecent]
    exact names
  · rw [finalHolds.lists.size, finalHolds.recent, texts, List.length_map]
  · rw [finalRecent, size]
    exact bounded
  · intro name
    rw [finalHolds.get, ← finalHolds.recent, finalRecent, holds.get, ← holds.recent, BufferOp.latest_runOnList distinct]
  · intro name text large
    rw [set, if_pos large]

/-- Two buffers at the end of the counter's range. -/
def exhausted : BufferStore where
  buffers := (∅ : BufferMap).insert "old" { text := "a", createdAt := 5 } |>.insert "newer" { text := "b", createdAt := 9 }
  nextSeq := Events.u64Max

theorem exhausted_holds :
    Holds exhausted [("newer", { text := "b", createdAt := 9 }), ("old", { text := "a", createdAt := 5 })] := by
  have listed : exhausted.buffers.toList = [("newer", { text := "b", createdAt := 9 }), ("old", { text := "a", createdAt := 5 })] := by
    decide +kernel
  refine ⟨⟨by decide, ?_⟩, by decide, le_refl _, by decide⟩
  intro name entry
  rw [← Std.ExtTreeMap.mem_toList_iff_getElem?_eq_some, listed]

/-- After the counter is renumbered, the oldest buffer is still the least recent one. -/
theorem exhausted_renumbered :
    ∃ final, exhausted.run [.set "newest" "c", .get "old"] = some (final, [.set (.ok ()), .text (some "a")]) ∧
      final.recent = [("newest", "c"), ("newer", "b"), ("old", "a")] := by
  obtain ⟨final, ran, _, recent, _⟩ := buffers_by_recency exhausted_holds.sound [.set "newest" "c", .get "old"]
  rw [exhausted_holds.recent] at ran recent
  exact ⟨final, ran, recent⟩

end BufferStore

end Ezpn
