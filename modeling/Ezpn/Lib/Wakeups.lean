import Mathlib.Data.List.Basic

/-!
# Wakeups

Producers put items into bounded channels and then send a token into a channel
with one slot. The consumer drains the channels under a budget, waits for the
token or a timeout, and throws the tokens away. An item that was in its channel at
that moment is old: the next drain can reach it.
-/

set_option autoImplicit false

namespace Wakeups

structure Item where
  /-- its producer has sent the token -/
  sent : Bool
  old : Bool
  deriving DecidableEq, Repr

abbrev Channel : Type := List Item

namespace Channel

/-- `try_send` into a channel with the given room. -/
def offer (room : Nat) (channel : Channel) : Channel :=
  if channel.length < room then channel ++ [{ sent := false, old := false }] else channel

/-- The producer of an item sends its token. -/
def tell (position : Nat) (channel : Channel) : Channel :=
  channel.modify position fun item => { item with sent := true }

/-- What the consumer throwing the tokens away makes of a channel. -/
def age (channel : Channel) : Channel := channel.map fun item => { item with old := true }

/-- Only the first items are old. -/
def Aged (count : Nat) (channel : Channel) : Prop := ∀ item ∈ channel.drop count, item.old = false

instance (count : Nat) (channel : Channel) : Decidable (channel.Aged count) :=
  inferInstanceAs (Decidable (∀ _ ∈ _, _))

/-- With no token in the slot, an item whose token was sent is old. -/
def Told (slot : Bool) (channel : Channel) : Prop :=
  slot = false → ∀ item ∈ channel, item.sent = true → item.old = true

/-- Nothing in the channel has had its token sent and thrown away. -/
def Settled (slot : Bool) (channel : Channel) : Prop := slot = true ∨ ∀ item ∈ channel, item.sent = false

variable {channel : Channel} {slot : Bool} {count room position : Nat}

theorem aged_iff : channel.Aged count ↔ ∀ i item, count ≤ i → channel[i]? = some item → item.old = false := by
  constructor
  · intro aged i item late found
    refine aged item (List.mem_iff_getElem?.mpr ⟨i - count, ?_⟩)
    rw [List.getElem?_drop, Nat.add_sub_cancel' late]
    exact found
  · intro aged item member
    obtain ⟨i, found⟩ := List.mem_iff_getElem?.mp member
    rw [List.getElem?_drop] at found
    exact aged _ item (Nat.le_add_right count i) found

theorem aged_of_length (short : channel.length ≤ count) : channel.Aged count := by
  intro item member
  rw [List.drop_eq_nil_of_le short] at member
  cases member

theorem Aged.mono {more : Nat} (aged : channel.Aged count) (le : count ≤ more) : channel.Aged more :=
  aged_iff.mpr fun i item late found => aged_iff.mp aged i item (Nat.le_trans le late) found

theorem Aged.offer (aged : channel.Aged count) : (channel.offer room).Aged count := by
  unfold Channel.offer
  split
  · refine aged_iff.mpr fun i item late found => ?_
    rw [List.getElem?_append] at found
    split at found
    · exact aged_iff.mp aged i item late found
    · rw [List.mem_singleton.mp (List.mem_of_getElem? found)]
  · exact aged

theorem Aged.tell (aged : channel.Aged count) : (channel.tell position).Aged count := by
  refine aged_iff.mpr fun i item late found => ?_
  rw [Channel.tell, List.getElem?_modify] at found
  obtain ⟨before, had, rfl⟩ := Option.map_eq_some_iff.mp found
  have old := aged_iff.mp aged i before late had
  split
  · exact old
  · exact old

theorem Aged.tail (aged : channel.Aged (count + 1)) : Channel.Aged count channel.tail := by
  refine aged_iff.mpr fun i item late found => ?_
  rw [List.getElem?_tail] at found
  exact aged_iff.mp aged (i + 1) item (Nat.succ_le_succ late) found

theorem Aged.rest (aged : channel.Aged count) : Channel.Aged count channel.tail := Aged.tail (aged.mono (Nat.le_succ count))

/-- Taking an item off helps whether one was counted or not. -/
theorem Aged.taken (aged : channel.Aged (count - position)) : Channel.Aged (count - (position + 1)) channel.tail := by
  refine Aged.tail (aged.mono ?_)
  omega

theorem Told.offer (told : channel.Told slot) : (channel.offer room).Told slot := by
  unfold Channel.offer
  split
  · intro empty item member sent
    rcases List.mem_append.mp member with before | new
    · exact told empty item before sent
    · rw [List.mem_singleton.mp new] at sent
      cases sent
  · exact told

theorem told_full (channel : Channel) : channel.Told true := by
  intro empty
  cases empty

theorem Told.tail (told : channel.Told slot) : Channel.Told slot channel.tail :=
  fun empty item member sent => told empty item (List.mem_of_mem_tail member) sent

theorem told_age (channel : Channel) : channel.age.Told slot := by
  intro _ item member _
  obtain ⟨before, _, rfl⟩ := List.mem_map.mp member
  rfl

/-- In a drained channel no producer is waiting for the consumer. -/
theorem Told.settled (told : channel.Told slot) (drained : channel.Aged 0) : channel.Settled slot := by
  cases slot with
  | true => exact .inl rfl
  | false =>
      refine .inr fun item member => ?_
      cases sent : item.sent with
      | false => rfl
      | true =>
          have old := told rfl item member sent
          rw [drained item member] at old
          cases old

theorem length_offer (short : channel.length ≤ room) : (channel.offer room).length ≤ room := by
  unfold Channel.offer
  split
  · rw [List.length_append]
    exact ‹channel.length < room›
  · exact short

@[simp] theorem length_tell (channel : Channel) (position : Nat) : (channel.tell position).length = channel.length :=
  List.length_modify _ _ _

@[simp] theorem length_age (channel : Channel) : channel.age.length = channel.length := List.length_map _

end Channel

/-- A channel of the given size that keeps its tokens. -/
structure Channel.Sound (room : Nat) (slot : Bool) (channel : Channel) : Prop where
  short : channel.length ≤ room
  told : channel.Told slot

namespace Channel.Sound
variable {room : Nat} {slot : Bool} {channel : Channel}

theorem nil (room : Nat) (slot : Bool) : Channel.Sound room slot [] := ⟨Nat.zero_le _, fun _ _ member => by cases member⟩

theorem offer (sound : channel.Sound room slot) : (channel.offer room).Sound room slot :=
  ⟨length_offer sound.short, sound.told.offer⟩

theorem full (sound : channel.Sound room slot) : channel.Sound room true := ⟨sound.short, told_full _⟩

theorem tell (sound : channel.Sound room slot) (position : Nat) : (channel.tell position).Sound room true :=
  ⟨by rw [length_tell]; exact sound.short, told_full _⟩

theorem tail (sound : channel.Sound room slot) : Channel.Sound room slot channel.tail :=
  ⟨by rw [List.length_tail]; exact Nat.le_trans (Nat.sub_le _ _) sound.short, sound.told.tail⟩

theorem age (sound : channel.Sound room slot) (after : Bool) : channel.age.Sound room after :=
  ⟨by rw [length_age]; exact sound.short, told_age _⟩

end Channel.Sound

end Wakeups
