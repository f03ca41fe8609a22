import Ezpn.Server.Idle

/-!
# What waits while the loop sleeps

Every channel is drained once in an iteration. What a drain leaves behind is newer
than the last wait, or keeps the loop awake; the exceptions are long bursts without
a client, and connections that come together.
-/

set_option autoImplicit false

namespace Ezpn.Idle

open Wakeups

/-! ## Channels and panes -/

namespace Backlog
variable {b : Backlog}

theorem pane?_modifyPane (b : Backlog) (place other : Place) (f : PaneOutput → PaneOutput) :
    (b.modifyPane place f).pane? other = (b.pane? other).map fun pane => if other = place then f pane else pane := by
  cases place with
  | active id =>
      cases other with
      | active otherId =>
          simp only [modifyPane, pane?, IdMap.getElem?_modify, Place.active.injEq]
          split
          · rfl
          · simp
      | stored tab otherId => simp [modifyPane, pane?]
  | stored tab id =>
      cases other with
      | active otherId => simp [modifyPane, pane?]
      | stored otherTab otherId =>
          simp only [modifyPane, pane?, List.getElem?_modify, Place.stored.injEq]
          cases b.stored[otherTab]? with
          | none => rfl
          | some panes =>
              by_cases sameTab : tab = otherTab
              · by_cases sameId : otherId = id
                · simp [sameTab, sameId]
                · simp [sameTab, sameId, IdMap.getElem?_modify]
              · have apart : ¬(otherTab = tab ∧ otherId = id) := fun same => sameTab same.1.symm
                simp [sameTab, apart]

theorem pane?_modify (b : Backlog) (source : Source) (f : Channel → Channel) (place : Place) :
    (b.modify source f).pane? place =
      (b.pane? place).map fun pane => if source = .pane place then { pane with chunks := f pane.chunks } else pane := by
  cases source with
  | pane other =>
      simp only [modify, pane?_modifyPane, Source.pane.injEq, eq_comm]
  | client index => simp [modify, pane?]
  | connections => simp [modify, pane?]
  | commands => simp [modify, pane?]

theorem clients_modify (b : Backlog) (source : Source) (f : Channel → Channel) (index : Nat) :
    (b.modify source f).clients[index]? =
      b.clients[index]?.map fun c => if source = .client index then { c with events := f c.events } else c := by
  cases source with
  | pane place => cases place <;> simp [modify, modifyPane]
  | client other =>
      simp only [modify, List.getElem?_modify, Source.client.injEq, Option.map_eq_map]
  | connections => simp [modify]
  | commands => simp [modify]

theorem channel?_modify (b : Backlog) (source other : Source) (f : Channel → Channel) :
    (b.modify source f).channel? other = (b.channel? other).map fun ch => if source = other then f ch else ch := by
  cases other with
  | pane place =>
      simp only [channel?, pane?_modify, Option.map_map]
      refine congrArg (Option.map · _) (funext fun pane => ?_)
      simp only [Function.comp_apply]
      split
      · rfl
      · rfl
  | client index =>
      simp only [channel?, clients_modify, Option.map_map]
      refine congrArg (Option.map · _) (funext fun c => ?_)
      simp only [Function.comp_apply]
      split
      · rfl
      · rfl
  | connections =>
      cases source with
      | pane place => cases place <;> simp [modify, modifyPane, channel?]
      | _ => simp [modify, channel?]
  | commands =>
      cases source with
      | pane place => cases place <;> simp [modify, modifyPane, channel?]
      | _ => simp [modify, channel?]

theorem pane?_map (b : Backlog) (place : Place) (f : PaneOutput → PaneOutput) :
    ({ b with
      panes := b.panes.map fun _ pane => f pane
      stored := b.stored.map fun panes => panes.map fun _ pane => f pane } : Backlog).pane? place =
        (b.pane? place).map f := by
  cases place with
  | active id => exact Std.ExtTreeMap.getElem?_map
  | stored tab id =>
      simp only [pane?, List.getElem?_map]
      cases b.stored[tab]? with
      | none => rfl
      | some panes => exact Std.ExtTreeMap.getElem?_map

theorem channel?_age (b : Backlog) (source : Source) : b.age.channel? source = (b.channel? source).map Channel.age := by
  cases source with
  | pane place =>
      have panes := pane?_map b place fun pane => { pane with chunks := pane.chunks.age }
      have same : b.age.pane? place = _ := panes
      simp only [channel?, same, Option.map_map]
      rfl
  | client index =>
      simp only [channel?, age, List.getElem?_map, Option.map_map]
      rfl
  | connections => rfl
  | commands => rfl

theorem pane?_unread (b : Backlog) (place : Place) :
    b.unread.pane? place = (b.pane? place).map fun pane => { pane with read := false } := pane?_map b place _

theorem channel?_unread (b : Backlog) (source : Source) : b.unread.channel? source = b.channel? source := by
  cases source with
  | pane place =>
      rw [channel?, channel?, pane?_unread, Option.map_map]
      rfl
  | client index => rfl
  | connections => rfl
  | commands => rfl

theorem read_of_allRead (all : b.allRead = true) {place : Place} {pane : PaneOutput} (found : b.pane? place = some pane) :
    pane.read = true := by
  obtain ⟨active, stored⟩ := Bool.and_eq_true_iff.mp all
  cases place with
  | active id => exact List.all_eq_true.mp active _ (Std.ExtTreeMap.mem_toList_iff_getElem?_eq_some.mpr found)
  | stored tab id =>
      obtain ⟨panes, here, found⟩ := Option.bind_eq_some_iff.mp found
      have tabRead := List.all_eq_true.mp stored panes (List.mem_of_getElem? here)
      exact List.all_eq_true.mp tabRead _ (Std.ExtTreeMap.mem_toList_iff_getElem?_eq_some.mpr found)

end Backlog

/-! ## What the loop keeps -/

/-- In an iteration, from the reads to the frame. -/
def Phase.busy : Phase → Bool
  | top | waiting _ | ended => false
  | _ => true

namespace Daemon
variable {s t : Daemon}

/-- Why a pane with chunks left behind does not let the loop sleep. -/
def Excused (s : Daemon) (place : Place) (pane : PaneOutput) : Prop :=
  s.backgroundOutput = true ∨ s.long = true ∧ (s.syncWaiting = true ∨ s.update.fullRedraw = true ∨
    ∃ id, place = .active id ∧ id ∈ s.update.dirtyPanes ∧ pane.inSync = false)

/-- Every channel keeps its tokens. -/
def Kept (s : Daemon) : Prop := ∀ source ch, s.backlog.channel? source = some ch → ch.Sound source.room s.slot

/-- A pane that has been read has nothing old left, or an excuse. -/
def Read (s : Daemon) : Prop :=
  ∀ place pane, s.backlog.pane? place = some pane → pane.read = true → pane.chunks.Aged 0 ∨ s.Excused place pane

def AllRead (s : Daemon) : Prop := ∀ place pane, s.backlog.pane? place = some pane → pane.read = true

def Taken (s : Daemon) : Prop := s.crowded = false → s.backlog.connections.Aged 0

/-- A client that has been served and stays has nothing old left. -/
def Served (s : Daemon) : Prop :=
  ∀ (index : Nat) (c : Peer), s.backlog.clients[index]? = some c → c.served = true → c.leaving = true ∨ c.events.Aged 0

def Attended (s : Daemon) : Prop := ∀ (index : Nat) (c : Peer), s.backlog.clients[index]? = some c → c.events.Aged 0

/-- What has been drained at each point of an iteration. -/
def Stage (s : Daemon) : Prop :=
  match s.phase with
  | .top => True
  | .reading none => True
  | .reading (some (place, taken)) =>
      ∃ pane, s.backlog.pane? place = some pane ∧
        (place.isActive = true → s.long = true ∨ pane.chunks.Aged (maxDrain - taken))
  | .upkeep => s.AllRead
  | .accepting => s.AllRead
  | .serving none => s.AllRead ∧ s.Taken ∧ s.Served
  | .serving (some (index, taken)) =>
      s.AllRead ∧ s.Taken ∧ s.Served ∧ ∃ c, s.backlog.clients[index]? = some c ∧ c.events.Aged (maxEvents - taken)
  | .tabs => s.AllRead ∧ s.Taken ∧ s.Attended
  | .commanding taken => s.AllRead ∧ s.Taken ∧ s.Attended ∧ s.backlog.commands.Aged (maxCommands - taken)
  | .rendering => s.AllRead ∧ s.Taken ∧ s.Attended ∧ s.backlog.commands.Aged 0
  | .waiting timeout => timeout = .idle → ∀ source ch, s.backlog.channel? source = some ch → ch.Aged 0
  | .ended => True

structure Sound (s : Daemon) : Prop where
  kept : s.Kept
  read : s.phase.busy = true → s.Read
  stage : s.Stage

theorem Excused.mono {place : Place} {pane : PaneOutput} (excused : s.Excused place pane)
    (background : s.backgroundOutput = true → t.backgroundOutput = true) (long : s.long = true → t.long = true)
    (waiting : s.syncWaiting = true → t.syncWaiting = true)
    (redraw : s.update.fullRedraw = true → t.update.fullRedraw = true)
    (dirty : ∀ id ∈ s.update.dirtyPanes, id ∈ t.update.dirtyPanes) : t.Excused place pane := by
  rcases excused with output | ⟨burst, sync | full | ⟨id, here, member, shown⟩⟩
  · exact .inl (background output)
  · exact .inr ⟨long burst, .inl (waiting sync)⟩
  · exact .inr ⟨long burst, .inr (.inl (redraw full))⟩
  · exact .inr ⟨long burst, .inr (.inr ⟨id, here, dirty id member, shown⟩)⟩

/-! ## Producers -/

theorem Kept.modify (kept : s.Kept) {source : Source} {f : Channel → Channel}
    (sound : ∀ ch, ch.Sound source.room s.slot → (f ch).Sound source.room s.slot) : (s.modify source f).Kept := by
  intro other ch found
  rw [show (s.modify source f).backlog = s.backlog.modify source f from rfl, Backlog.channel?_modify] at found
  obtain ⟨before, had, rfl⟩ := Option.map_eq_some_iff.mp found
  have fits := kept other before had
  split
  · rename_i same
    rw [← same] at fits ⊢
    exact sound before fits
  · exact fits

theorem Read.modify (read : s.Read) {source : Source} {f : Channel → Channel}
    (aged : ∀ ch count, Channel.Aged count ch → Channel.Aged count (f ch)) : (s.modify source f).Read := by
  intro place pane found isRead
  rw [show (s.modify source f).backlog = s.backlog.modify source f from rfl, Backlog.pane?_modify] at found
  obtain ⟨before, had, rfl⟩ := Option.map_eq_some_iff.mp found
  split at isRead
  · rename_i same
    rw [if_pos same]
    exact (read place before had isRead).imp (aged _ 0) id
  · rename_i other
    rw [if_neg other]
    exact read place before had isRead

theorem AllRead.modify (all : s.AllRead) (source : Source) (f : Channel → Channel) : (s.modify source f).AllRead := by
  intro place pane found
  rw [show (s.modify source f).backlog = s.backlog.modify source f from rfl, Backlog.pane?_modify] at found
  obtain ⟨before, had, rfl⟩ := Option.map_eq_some_iff.mp found
  split
  · exact all place before had
  · exact all place before had

theorem client_modify {source : Source} {f : Channel → Channel} {index : Nat} {c : Peer}
    (found : (s.modify source f).backlog.clients[index]? = some c) :
    ∃ before, s.backlog.clients[index]? = some before ∧ c.served = before.served ∧ c.leaving = before.leaving ∧
      (c.events = before.events ∨ source = .client index ∧ c.events = f before.events) := by
  rw [show (s.modify source f).backlog = s.backlog.modify source f from rfl, Backlog.clients_modify] at found
  obtain ⟨before, had, rfl⟩ := Option.map_eq_some_iff.mp found
  refine ⟨before, had, ?_⟩
  split
  · rename_i same
    exact ⟨rfl, rfl, .inr ⟨same, rfl⟩⟩
  · exact ⟨rfl, rfl, .inl rfl⟩

section Modify
variable {source : Source} {f : Channel → Channel} (aged : ∀ ch count, Channel.Aged count ch → Channel.Aged count (f ch))
include aged

theorem Served.modify (served : s.Served) : (s.modify source f).Served := by
  intro index c found isServed
  obtain ⟨before, had, same, leaves, events⟩ := client_modify found
  refine (served index before had (same ▸ isServed)).imp (fun gone => leaves.trans gone) fun drained => ?_
  rcases events with unchanged | ⟨_, changed⟩
  · rw [unchanged]
    exact drained
  · rw [changed]
    exact aged _ 0 drained

theorem Attended.modify (attended : s.Attended) : (s.modify source f).Attended := by
  intro index c found
  obtain ⟨before, had, _, _, unchanged | ⟨_, changed⟩⟩ := client_modify found
  · rw [unchanged]
    exact attended index before had
  · rw [changed]
    exact aged _ 0 (attended index before had)

theorem aged_connections {count : Nat} (drained : s.backlog.connections.Aged count) :
    (s.modify source f).backlog.connections.Aged count := by
  cases source with
  | pane place => cases place <;> exact drained
  | client index => exact drained
  | connections => exact aged _ count drained
  | commands => exact drained

theorem aged_commands {count : Nat} (drained : s.backlog.commands.Aged count) :
    (s.modify source f).backlog.commands.Aged count := by
  cases source with
  | pane place => cases place <;> exact drained
  | client index => exact drained
  | connections => exact drained
  | commands => exact aged _ count drained

/-- Producers undo no drain. -/
theorem Stage.modify (stage : s.Stage) : (s.modify source f).Stage := by
  unfold Stage at stage ⊢
  rw [show (s.modify source f).phase = s.phase from rfl]
  cases phase : s.phase with
  | top => trivial
  | reading drain =>
      rw [phase] at stage
      cases drain with
      | none => trivial
      | some drain =>
          obtain ⟨pane, found, drained⟩ := stage
          refine ⟨if source = .pane drain.1 then { pane with chunks := f pane.chunks } else pane, ?_, fun active => ?_⟩
          · rw [show (s.modify source f).backlog = s.backlog.modify source f from rfl, Backlog.pane?_modify, found]
            rfl
          · refine (drained active).imp id fun drained => ?_
            split
            · exact aged _ _ drained
            · exact drained
  | upkeep =>
      rw [phase] at stage
      exact AllRead.modify stage source f
  | accepting =>
      rw [phase] at stage
      exact AllRead.modify stage source f
  | serving drain =>
      rw [phase] at stage
      cases drain with
      | none =>
          obtain ⟨all, taken, served⟩ := stage
          exact ⟨all.modify source f, fun alone => aged_connections aged (taken alone), served.modify aged⟩
      | some drain =>
          obtain ⟨all, taken, served, c, found, drained⟩ := stage
          refine ⟨all.modify source f, fun alone => aged_connections aged (taken alone), served.modify aged,
            if source = .client drain.1 then { c with events := f c.events } else c, ?_, ?_⟩
          · rw [show (s.modify source f).backlog = s.backlog.modify source f from rfl, Backlog.clients_modify, found]
            rfl
          · split
            · exact aged _ _ drained
            · exact drained
  | tabs =>
      rw [phase] at stage
      obtain ⟨all, taken, attended⟩ := stage
      exact ⟨all.modify source f, fun alone => aged_connections aged (taken alone), attended.modify aged⟩
  | commanding count =>
      rw [phase] at stage
      obtain ⟨all, taken, attended, commands⟩ := stage
      exact ⟨all.modify source f, fun alone => aged_connections aged (taken alone), attended.modify aged,
        aged_commands aged commands⟩
  | rendering =>
      rw [phase] at stage
      obtain ⟨all, taken, attended, commands⟩ := stage
      exact ⟨all.modify source f, fun alone => aged_connections aged (taken alone), attended.modify aged,
        aged_commands aged commands⟩
  | waiting timeout =>
      rw [phase] at stage
      intro idle other ch found
      rw [show (s.modify source f).backlog = s.backlog.modify source f from rfl, Backlog.channel?_modify] at found
      obtain ⟨before, had, rfl⟩ := Option.map_eq_some_iff.mp found
      have drained := stage idle other before had
      split
      · exact aged _ 0 drained
      · exact drained
  | ended => trivial

end Modify

theorem Sound.produce (sound : s.Sound) (source : Source) : (s.modify source (·.offer source.room)).Sound where
  kept := sound.kept.modify fun _ fits => fits.offer
  read busy := (sound.read busy).modify fun _ _ drained => drained.offer
  stage := sound.stage.modify fun _ _ drained => drained.offer

theorem Kept.ring (kept : s.Kept) : ({ s with slot := true } : Daemon).Kept :=
  fun source ch found => (kept source ch found).full

theorem Stage.ring (stage : s.Stage) : ({ s with slot := true } : Daemon).Stage := by
  cases s
  exact stage

theorem Sound.ring (sound : s.Sound) : ({ s with slot := true } : Daemon).Sound :=
  ⟨sound.kept.ring, sound.read, sound.stage.ring⟩

theorem Sound.tell (sound : s.Sound) (source : Source) (position : Nat) :
    ({ s.modify source (·.tell position) with slot := true } : Daemon).Sound where
  kept := Kept.modify (s := { s with slot := true }) sound.kept.ring fun _ fits => fits.tell position
  read busy := (sound.read busy).modify fun _ _ drained => drained.tell
  stage := (sound.stage.modify fun _ _ drained => drained.tell).ring

/-! ## Handlers -/

/-- What handlers may do: panes stay, move with a full redraw, go, or are new. -/
structure Changed (s t : Daemon) : Prop where
  frame : ∃ panes stored update, t = { s.withTabs panes stored with update := update }
  panes : ∀ place pane, t.backlog.pane? place = some pane →
    pane = {} ∨ s.backlog.pane? place = some pane ∨
      t.update.fullRedraw = true ∧ ∃ before, s.backlog.pane? before = some pane
  redraw : s.update.fullRedraw = true → t.update.fullRedraw = true
  dirty : ∀ id ∈ s.update.dirtyPanes, id ∈ t.update.dirtyPanes

namespace Changed

theorem refl (s : Daemon) : Changed s s where
  frame := ⟨s.backlog.panes, s.backlog.stored, s.update, rfl⟩
  panes _ _ found := .inr (.inl found)
  redraw := id
  dirty _ member := member

theorem trans {u : Daemon} (first : Changed s t) (second : Changed t u) : Changed s u where
  frame := by
    obtain ⟨_, _, _, rfl⟩ := first.frame
    obtain ⟨panes, stored, update, rfl⟩ := second.frame
    exact ⟨panes, stored, update, rfl⟩
  panes place pane found := by
    rcases second.panes place pane found with fresh | there | ⟨redraw, before, there⟩
    · exact .inl fresh
    · rcases first.panes place pane there with fresh | here | ⟨redraw, before, here⟩
      · exact .inl fresh
      · exact .inr (.inl here)
      · exact .inr (.inr ⟨second.redraw redraw, before, here⟩)
    · rcases first.panes before pane there with fresh | here | ⟨_, earlier, here⟩
      · exact .inl fresh
      · exact .inr (.inr ⟨redraw, before, here⟩)
      · exact .inr (.inr ⟨redraw, earlier, here⟩)
  redraw full := second.redraw (first.redraw full)
  dirty id member := second.dirty id (first.dirty id member)

theorem mark (s : Daemon) (marks : RenderUpdate) : Changed s (s.mark marks) where
  frame := ⟨s.backlog.panes, s.backlog.stored, _, rfl⟩
  panes _ _ found := .inr (.inl found)
  redraw full := by simp [Daemon.mark, RenderUpdate.merge, full]
  dirty _ member := List.mem_append_left _ member

/-- A change of one tab's panes. -/
theorem tabs {panes : IdMap PaneOutput} {stored : List (IdMap PaneOutput)}
    (kept : ∀ place pane, (s.withTabs panes stored).backlog.pane? place = some pane →
      pane = {} ∨ s.backlog.pane? place = some pane) : Changed s (s.withTabs panes stored) where
  frame := ⟨panes, stored, s.update, rfl⟩
  panes place pane found := (kept place pane found).imp_right .inl
  redraw := id
  dirty _ member := member

/-- Another tab is shown, with a full redraw. -/
theorem shown {panes : IdMap PaneOutput} {stored : List (IdMap PaneOutput)}
    (kept : ∀ place pane, (s.withTabs panes stored).backlog.pane? place = some pane →
      pane = {} ∨ ∃ before, s.backlog.pane? before = some pane) : Changed s (s.withTabs panes stored).markAll where
  frame := ⟨panes, stored, _, rfl⟩
  panes place pane found := (kept place pane found).imp_right fun old => .inr ⟨by
    simp [markAll, Daemon.mark, RenderUpdate.merge], old⟩
  redraw _ := by simp [markAll, Daemon.mark, RenderUpdate.merge]
  dirty _ member := List.mem_append_left _ member

end Changed

theorem fresh_of_freshPanes {ids : List Nat} {id : Nat} {pane : PaneOutput} (found : (freshPanes ids)[id]? = some pane) :
    pane = {} :=
  IdMap.value_of_inserts ids ∅ (fun id pane found => by simp at found) found

theorem change_changed (s : Daemon) (change : Change) : Changed s (s.change change) := by
  cases change with
  | mark marks => exact .mark s marks
  | spawn id =>
      refine .tabs fun place pane found => ?_
      cases place with
      | active other =>
          simp only [withTabs, Backlog.pane?, IdMap.getElem?_insert] at found
          split at found
          · exact .inl (Option.some.inj found).symm
          · exact .inr found
      | stored tab other => exact .inr found
  | spawnStored tab id =>
      refine .tabs fun place pane found => ?_
      cases place with
      | active other => exact .inr found
      | stored otherTab other =>
          simp only [withTabs, Backlog.pane?, List.getElem?_modify] at found
          obtain ⟨panes, here, found⟩ := Option.bind_eq_some_iff.mp found
          obtain ⟨before, had, rfl⟩ := Option.map_eq_some_iff.mp here
          split at found
          · rw [IdMap.getElem?_insert] at found
            split at found
            · exact .inl (Option.some.inj found).symm
            · exact .inr (Option.bind_eq_some_iff.mpr ⟨before, had, found⟩)
          · exact .inr (Option.bind_eq_some_iff.mpr ⟨before, had, found⟩)
  | close id =>
      refine .tabs fun place pane found => ?_
      cases place with
      | active other =>
          simp only [withTabs, Backlog.pane?, IdMap.getElem?_erase] at found
          split at found
          · cases found
          · exact .inr found
      | stored tab other => exact .inr found
  | newTab id =>
      refine .shown fun place pane found => ?_
      cases place with
      | active other => exact .inl (fresh_of_freshPanes found)
      | stored tab other =>
          cases tab with
          | zero => exact .inr ⟨.active other, found⟩
          | succ tab => exact .inr ⟨.stored tab other, found⟩
  | goToTab tab =>
      simp only [Daemon.change]
      split
      · exact .refl s
      · rename_i panes here
        refine .shown fun place pane found => .inr ?_
        cases place with
        | active other => exact ⟨.stored tab other, Option.bind_eq_some_iff.mpr ⟨panes, here, found⟩⟩
        | stored otherTab other =>
            simp only [withTabs, Backlog.pane?, List.getElem?_set] at found
            obtain ⟨stored, there, found⟩ := Option.bind_eq_some_iff.mp found
            split at there
            · split at there
              · cases there
                exact ⟨.active other, found⟩
              · cases there
            · exact ⟨.stored otherTab other, Option.bind_eq_some_iff.mpr ⟨stored, there, found⟩⟩
  | closeTab next =>
      simp only [Daemon.change]
      split
      · exact .refl s
      · rename_i panes here
        refine .shown fun place pane found => .inr ?_
        cases place with
        | active other => exact ⟨.stored next other, Option.bind_eq_some_iff.mpr ⟨panes, here, found⟩⟩
        | stored tab other =>
            obtain ⟨stored, there, found⟩ := Option.bind_eq_some_iff.mp found
            obtain ⟨index, inTabs⟩ := List.mem_iff_getElem?.mp (List.mem_of_mem_eraseIdx (List.mem_of_getElem? there))
            exact ⟨.stored index other, Option.bind_eq_some_iff.mpr ⟨stored, inTabs, found⟩⟩
  | load panes stored =>
      refine .shown fun place pane found => .inl ?_
      cases place with
      | active other => exact fresh_of_freshPanes found
      | stored tab other =>
          obtain ⟨panes, there, found⟩ := Option.bind_eq_some_iff.mp found
          simp only [withTabs, List.getElem?_map] at there
          obtain ⟨ids, _, rfl⟩ := Option.map_eq_some_iff.mp there
          exact fresh_of_freshPanes found

theorem changes_changed (s : Daemon) (list : List Change) : Changed s (s.changes list) := by
  unfold changes
  induction list generalizing s with
  | nil => exact .refl s
  | cons change list ih => exact (change_changed s change).trans (ih _)

namespace Changed
variable (changed : Changed s t)
include changed

theorem kept (kept : s.Kept) : t.Kept := by
  intro source ch found
  have slot : t.slot = s.slot := by
    obtain ⟨_, _, _, rfl⟩ := changed.frame
    rfl
  rw [slot]
  cases source with
  | pane place =>
      obtain ⟨pane, here, rfl⟩ := Option.map_eq_some_iff.mp found
      rcases changed.panes place pane here with rfl | same | ⟨_, before, moved⟩
      · exact .nil _ _
      · exact kept (.pane place) _ (Option.map_eq_some_iff.mpr ⟨pane, same, rfl⟩)
      · exact kept (.pane before) _ (Option.map_eq_some_iff.mpr ⟨pane, moved, rfl⟩)
  | client index =>
      obtain ⟨_, _, _, rfl⟩ := changed.frame
      exact kept (.client index) ch found
  | connections =>
      obtain ⟨_, _, _, rfl⟩ := changed.frame
      exact kept .connections ch found
  | commands =>
      obtain ⟨_, _, _, rfl⟩ := changed.frame
      exact kept .commands ch found

theorem read (read : s.Read) : t.Read := by
  have flags : t.backgroundOutput = s.backgroundOutput ∧ t.long = s.long ∧ t.syncWaiting = s.syncWaiting := by
    obtain ⟨_, _, _, rfl⟩ := changed.frame
    exact ⟨rfl, rfl, rfl⟩
  intro place pane found isRead
  rcases changed.panes place pane found with rfl | same | ⟨redraw, before, moved⟩
  · exact .inl (Channel.aged_of_length (Nat.le_refl 0))
  · refine (read place pane same isRead).imp_right fun excused => ?_
    exact excused.mono (flags.1.trans ·) (flags.2.1.trans ·) (flags.2.2.trans ·) changed.redraw changed.dirty
  · refine (read before pane moved isRead).imp_right ?_
    rintro (output | ⟨burst, _⟩)
    · exact .inl (flags.1.trans output)
    · exact .inr ⟨flags.2.1.trans burst, .inr (.inl redraw)⟩

theorem allRead (all : s.AllRead) : t.AllRead := by
  intro place pane found
  rcases changed.panes place pane found with rfl | same | ⟨_, before, moved⟩
  · rfl
  · exact all place pane same
  · exact all before pane moved

theorem taken (taken : s.Taken) : t.Taken := by
  obtain ⟨_, _, _, rfl⟩ := changed.frame
  exact taken

theorem served (served : s.Served) : t.Served := by
  obtain ⟨_, _, _, rfl⟩ := changed.frame
  exact served

theorem attended (attended : s.Attended) : t.Attended := by
  obtain ⟨_, _, _, rfl⟩ := changed.frame
  exact attended

theorem clients : t.backlog.clients = s.backlog.clients := by
  obtain ⟨_, _, _, rfl⟩ := changed.frame
  rfl

theorem commands : t.backlog.commands = s.backlog.commands := by
  obtain ⟨_, _, _, rfl⟩ := changed.frame
  rfl

end Changed

/-! ## The loop -/

/-- Where a drain stops, its budget is used up or the channel is empty. -/
theorem drained_of_stopped {source : Source} {taken budget : Nat} {ch : Channel}
    (stopped : s.drains source taken budget = false) (found : s.backlog.channel? source = some ch) : budget ≤ taken ∨ ch = [] := by
  unfold drains at stopped
  rw [found] at stopped
  simp only [Bool.and_eq_false_iff, decide_eq_false_iff_not, ne_eq, Option.some.injEq, not_not] at stopped
  exact stopped.imp_left Nat.le_of_not_lt

theorem aged_of_stopped {source : Source} {taken budget : Nat} {ch : Channel}
    (stopped : s.drains source taken budget = false) (found : s.backlog.channel? source = some ch) (aged : ch.Aged (budget - taken)) : ch.Aged 0 := by
  rcases drained_of_stopped stopped found with full | rfl
  · rwa [Nat.sub_eq_zero_of_le full] at aged
  · exact Channel.aged_of_length (Nat.le_refl 0)

theorem Sound.begin (sound : s.Sound) (marks : RenderUpdate) :
    ({ s.mark marks with
      phase := .reading none
      backlog := s.backlog.unread
      backgroundOutput := false
      syncWaiting := false
      long := false
      crowded := false } : Daemon).Sound where
  kept source ch found := sound.kept source ch (by rwa [show _ = _ from Backlog.channel?_unread s.backlog source] at found)
  read _ place pane found isRead := by
    rw [show _ = _ from Backlog.pane?_unread s.backlog place] at found
    obtain ⟨before, _, rfl⟩ := Option.map_eq_some_iff.mp found
    cases isRead
  stage := trivial

theorem Sound.startRead (sound : s.Sound) (reading : s.phase = .reading none) {place : Place} {pane : PaneOutput}
    (found : s.backlog.pane? place = some pane) :
    ({ s with
      phase := .reading (some (place, 0))
      long := s.long || (place.isActive && !decide (pane.chunks.Aged maxDrain)) } : Daemon).Sound where
  kept := sound.kept
  read _ other before had isRead := by
    refine (sound.read (by rw [reading]; rfl) other before had isRead).imp_right fun excused => ?_
    refine excused.mono id (fun long => ?_) id id fun _ => id
    simp [long]
  stage := by
    refine ⟨pane, found, fun active => ?_⟩
    by_cases few : pane.chunks.Aged maxDrain
    · exact .inr few
    · simp [active, few]

theorem Sound.chunk (sound : s.Sound) {place : Place} {taken : Nat} (reading : s.phase = .reading (some (place, taken))) :
    ({ s.modify (.pane place) List.tail with phase := .reading (some (place, taken + 1)) } : Daemon).Sound where
  kept := sound.kept.modify fun _ fits => fits.tail
  read _ := (sound.read (by rw [reading]; rfl)).modify fun _ _ drained => drained.rest
  stage := by
    have stage := sound.stage
    rw [Stage, reading] at stage
    obtain ⟨pane, found, drained⟩ := stage
    refine ⟨{ pane with chunks := pane.chunks.tail }, ?_, fun active => (drained active).imp id fun aged => aged.taken⟩
    change (s.backlog.modify (.pane place) List.tail).pane? place = _
    rw [Backlog.pane?_modify, found]
    simp

theorem pane_modifyPane {place other : Place} {f : PaneOutput → PaneOutput} {pane : PaneOutput}
    (found : (s.backlog.modifyPane place f).pane? other = some pane) :
    ∃ before, s.backlog.pane? other = some before ∧ pane = if other = place then f before else before := by
  rw [Backlog.pane?_modifyPane] at found
  obtain ⟨before, had, same⟩ := Option.map_eq_some_iff.mp found
  exact ⟨before, had, same.symm⟩

/-- Flags of a pane are no part of its channel. -/
theorem kept_modifyPane (kept : s.Kept) {place : Place} {f : PaneOutput → PaneOutput}
    (same : ∀ pane, (f pane).chunks = pane.chunks)
    (source : Source) (ch : Channel) (found : (s.backlog.modifyPane place f).channel? source = some ch) :
    ch.Sound source.room s.slot := by
  cases source with
  | pane other =>
      obtain ⟨pane, here, rfl⟩ := Option.map_eq_some_iff.mp found
      obtain ⟨before, had, rfl⟩ := pane_modifyPane here
      have fits := kept (.pane other) _ (Option.map_eq_some_iff.mpr ⟨before, had, rfl⟩)
      split
      · rw [same]
        exact fits
      · exact fits
  | client index => exact kept (.client index) ch (by cases place <;> exact found)
  | connections => exact kept .connections ch (by cases place <;> exact found)
  | commands => exact kept .commands ch (by cases place <;> exact found)

theorem Sound.finishRead (sound : s.Sound) {place : Place} {taken : Nat} (reading : s.phase = .reading (some (place, taken)))
    (stopped : s.drains (.pane place) taken maxDrain = false) (exited synced overdue : Bool) :
    (s.finishRead place (decide (0 < taken) || exited) synced overdue).Sound := by
  have stage := sound.stage
  have read := sound.read (by rw [reading]; rfl)
  rw [Stage, reading] at stage
  obtain ⟨current, here, drained⟩ := stage
  have ends := drained_of_stopped stopped (Option.map_eq_some_iff.mpr ⟨current, here, rfl⟩)
  have used (left : current.chunks ≠ []) : 0 < taken := by
    have := ends.resolve_right left
    unfold maxDrain at this
    omega
  have empty (none : current.chunks = []) : current.chunks.Aged 0 :=
    Channel.aged_of_length (Nat.le_zero.mpr (List.length_eq_zero_iff.mpr none))
  cases place with
  | stored tab paneId =>
      refine ⟨kept_modifyPane sound.kept fun _ => rfl, ?_, trivial⟩
      intro _ other pane found isRead
      obtain ⟨before, had, rfl⟩ := pane_modifyPane found
      by_cases same : other = .stored tab paneId
      · rw [if_pos same]
        cases Option.some.inj ((same ▸ had).symm.trans here)
        by_cases none : current.chunks = []
        · exact .inl (empty none)
        · exact .inr (.inl (by simp [Daemon.finishRead, used none]))
      · rw [if_neg same] at isRead ⊢
        refine (read other before had isRead).imp_right fun excused => ?_
        exact excused.mono (fun output => by simp [Daemon.finishRead, output]) id id id fun _ => id
  | active paneId =>
      have flags : (s.finishRead (.active paneId) (decide (0 < taken) || exited) synced overdue).backlog =
          s.backlog.modifyPane (.active paneId) fun pane => { pane with inSync := synced && !overdue, read := true } := by
        simp only [Daemon.finishRead]
        split
        · rfl
        · rfl
      have others (place : Place) (pane : PaneOutput) (excused : s.Excused place pane) :
          (s.finishRead (.active paneId) (decide (0 < taken) || exited) synced overdue).Excused place pane := by
        simp only [Daemon.finishRead]
        split
        · exact excused.mono (t := Daemon.mark _ (.pane paneId)) id id (fun waiting => by simp [Daemon.mark, waiting])
            (fun full => by simp [Daemon.mark, RenderUpdate.merge, full]) fun _ member => List.mem_append_left _ member
        · exact excused.mono id id (fun waiting => by simp [waiting]) id fun _ => id
      refine ⟨?_, ?_, ?_⟩
      · intro source ch found
        rw [flags] at found
        have slot : (s.finishRead (.active paneId) (decide (0 < taken) || exited) synced overdue).slot = s.slot := by
          simp only [Daemon.finishRead]
          split
          · rfl
          · rfl
        rw [slot]
        refine kept_modifyPane sound.kept ?_ source ch found
        intro _
        rfl
      · intro _ other pane found isRead
        rw [flags] at found
        obtain ⟨before, had, rfl⟩ := pane_modifyPane found
        by_cases same : other = .active paneId
        · rw [if_pos same]
          cases Option.some.inj ((same ▸ had).symm.trans here)
          by_cases none : current.chunks = []
          · exact .inl (empty none)
          rcases drained rfl with burst | aged
          · refine .inr (.inr ?_)
            simp only [Daemon.finishRead, used none]
            cases batch : synced && !overdue with
            | true => simp [burst]
            | false => simp [burst, same, Daemon.mark, RenderUpdate.merge, RenderUpdate.pane]
          · exact .inl (aged_of_stopped stopped (Option.map_eq_some_iff.mpr ⟨current, here, rfl⟩) aged)
        · rw [if_neg same] at isRead ⊢
          exact (read other before had isRead).imp_right (others other before)
      · simp only [Daemon.finishRead]
        split
        · trivial
        · trivial

/-! ## Clients -/

theorem Kept.client (kept : s.Kept) {c : Peer} (member : c ∈ s.backlog.clients) :
    c.events.Sound (Source.client 0).room s.slot := by
  obtain ⟨index, found⟩ := List.mem_iff_getElem?.mp member
  exact kept (.client index) _ (Option.map_eq_some_iff.mpr ⟨c, found, rfl⟩)

theorem Kept.withClients (kept : s.Kept) {clients : List Peer}
    (fits : ∀ c ∈ clients, c.events.Sound (Source.client 0).room s.slot) : (s.withClients clients).Kept := by
  intro source ch found
  cases source with
  | pane place => exact kept (.pane place) ch (by cases place <;> exact found)
  | client index =>
      obtain ⟨c, here, rfl⟩ := Option.map_eq_some_iff.mp found
      exact fits c (List.mem_of_getElem? here)
  | connections => exact kept .connections ch found
  | commands => exact kept .commands ch found

theorem pane?_withClients (s : Daemon) (clients : List Peer) (place : Place) :
    (s.withClients clients).backlog.pane? place = s.backlog.pane? place := by
  cases place with
  | active id => rfl
  | stored tab id => rfl

theorem Read.withClients (read : s.Read) (clients : List Peer) : (s.withClients clients).Read :=
  fun place pane found => read place pane (pane?_withClients s clients place ▸ found)

theorem AllRead.withClients (all : s.AllRead) (clients : List Peer) : (s.withClients clients).AllRead :=
  fun place pane found => all place pane (pane?_withClients s clients place ▸ found)

/-- The clients' turn comes once a connection has been taken. -/
theorem Kept.startServing (kept : s.Kept) (read : s.Read) (all : s.AllRead) (taken : s.Taken) : s.startServing.Sound where
  kept := by
    refine Kept.withClients kept fun c member => ?_
    obtain ⟨before, had, rfl⟩ := List.mem_map.mp member
    have fits := kept.client had
    exact fits
  read _ := read.withClients _
  stage := by
    refine ⟨all.withClients _, taken, fun index c found isServed => ?_⟩
    simp only [Daemon.startServing, Daemon.withClients, List.getElem?_map] at found
    obtain ⟨before, _, rfl⟩ := Option.map_eq_some_iff.mp found
    cases isServed

theorem Sound.accept (sound : s.Sound) (accepting : s.phase = .accepting) (client : Option (Nat × Bool)) :
    (startServing (accept { s.modify .connections List.tail with
      crowded := !decide ((s.modify .connections List.tail).backlog.connections.Aged 0) } client)).Sound := by
  have all : s.AllRead := by
    have stage := sound.stage
    rwa [Stage, accepting] at stage
  have kept : (s.modify .connections List.tail).Kept := sound.kept.modify fun _ fits => fits.tail
  have read : (s.modify .connections List.tail).Read :=
    (sound.read (by rw [accepting]; rfl)).modify fun _ _ drained => drained.rest
  have allRead : (s.modify .connections List.tail).AllRead := all.modify _ _
  generalize s.modify .connections List.tail = r at kept read allRead
  have taken : ({ r with crowded := !decide (r.backlog.connections.Aged 0) } : Daemon).Taken := by
    intro alone
    simpa using alone
  cases client with
  | none => exact Kept.startServing kept read allRead taken
  | some client =>
      obtain ⟨id, steal⟩ := client
      refine Kept.startServing (Kept.withClients kept fun c member => ?_) ?_ (AllRead.withClients allRead _) taken
      · rcases List.mem_append.mp member with old | new
        · split at old
          · cases old
          · exact kept.client old
        · rw [List.mem_singleton.mp new]
          exact .nil _ _
      · exact (Changed.mark _ _).read (Read.withClients read _)

theorem Sound.acceptNone (sound : s.Sound) (accepting : s.phase = .accepting) (empty : s.backlog.connections = []) :
    s.startServing.Sound := by
  have stage := sound.stage
  rw [Stage, accepting] at stage
  refine sound.kept.startServing (sound.read (by rw [accepting]; rfl)) stage fun _ => ?_
  rw [empty]
  exact Channel.aged_of_length (Nat.le_refl 0)

theorem Sound.serve (sound : s.Sound) (serving : s.phase = .serving none) {index : Nat} {c : Peer}
    (found : s.backlog.clients[index]? = some c) : ({ s with phase := .serving (some (index, 0)) } : Daemon).Sound where
  kept := sound.kept
  read _ := sound.read (by rw [serving]; rfl)
  stage := by
    have stage := sound.stage
    rw [Stage, serving] at stage
    obtain ⟨all, taken, served⟩ := stage
    exact ⟨all, taken, served, c, found, Channel.aged_of_length (sound.kept.client (List.mem_of_getElem? found)).short⟩

theorem Kept.endServing (kept : s.Kept) (read : s.Read) (all : s.AllRead) (taken : s.Taken) (served : s.Served)
    {index : Nat} {leaving : Bool}
    (drained : leaving = true ∨ ∀ c : Peer, s.backlog.clients[index]? = some c → c.events.Aged 0) :
    (s.endServing index leaving).Sound where
  kept := by
    refine Kept.withClients kept fun c member => ?_
    obtain ⟨position, found⟩ := List.mem_iff_getElem?.mp member
    rw [List.getElem?_modify] at found
    obtain ⟨before, had, rfl⟩ := Option.map_eq_some_iff.mp found
    have fits := kept.client (List.mem_of_getElem? had)
    split
    · exact fits
    · exact fits
  read _ := read.withClients _
  stage := by
    refine ⟨all.withClients _, taken, fun position c found isServed => ?_⟩
    simp only [Daemon.endServing, Daemon.withClients, List.getElem?_modify] at found
    obtain ⟨before, had, rfl⟩ := Option.map_eq_some_iff.mp found
    by_cases same : index = position
    · rw [if_pos same]
      exact drained.imp id fun drained => drained before (same ▸ had)
    · rw [if_neg same] at isServed ⊢
      exact served position before had isServed

theorem Sound.message (sound : s.Sound) {index count : Nat} (serving : s.phase = .serving (some (index, count)))
    (message : Idle.Served) : ((s.modify (.client index) List.tail).serve index count message).Sound := by
  have stage := sound.stage
  rw [Stage, serving] at stage
  obtain ⟨all, taken, served, c, found, drained⟩ := stage
  have kept : (s.modify (.client index) List.tail).Kept := sound.kept.modify fun _ fits => fits.tail
  have read : (s.modify (.client index) List.tail).Read :=
    (sound.read (by rw [serving]; rfl)).modify fun _ _ drained => drained.rest
  have all := all.modify (.client index) List.tail
  have served : (s.modify (.client index) List.tail).Served := served.modify fun _ _ drained => drained.rest
  have taken : (s.modify (.client index) List.tail).Taken := taken
  have current : (s.modify (.client index) List.tail).backlog.clients[index]? = some { c with events := c.events.tail } := by
    rw [show (s.modify (.client index) List.tail).backlog = s.backlog.modify (.client index) List.tail from rfl,
      Backlog.clients_modify, found]
    simp
  generalize s.modify (.client index) List.tail = r at kept read all served taken current
  have continues {t : Daemon} (changed : Changed r t) :
      ({ t with phase := .serving (some (index, count + 1)) } : Daemon).Sound :=
    ⟨changed.kept kept, fun _ => changed.read read, changed.allRead all, changed.taken taken, changed.served served, _,
      changed.clients ▸ current, drained.taken⟩
  cases message with
  | acts changes => exact continues (changes_changed r changes)
  | resize => exact continues (.mark r _)
  | leaves changes =>
      have changed := changes_changed r changes
      exact (changed.kept kept).endServing (changed.read read) (changed.allRead all) (changed.taken taken)
        (changed.served served) (.inl rfl)

theorem Sound.serveEnd (sound : s.Sound) {index count : Nat} (serving : s.phase = .serving (some (index, count)))
    (stopped : s.drains (.client index) count maxEvents = false) (hungUp : Bool) : (s.endServing index hungUp).Sound := by
  have stage := sound.stage
  rw [Stage, serving] at stage
  obtain ⟨all, taken, served, c, found, drained⟩ := stage
  refine sound.kept.endServing (sound.read (by rw [serving]; rfl)) all taken served (.inr fun other here => ?_)
  cases Option.some.inj (found.symm.trans here)
  exact aged_of_stopped stopped (Option.map_eq_some_iff.mpr ⟨c, found, rfl⟩) drained

/-! ## The rest of an iteration -/

theorem Sound.settle (sound : s.Sound) (serving : s.phase = .serving none)
    (done : (s.backlog.clients.all fun c => c.served || c.leaving) = true) (changes : List Change) :
    ({ (s.withClients (s.backlog.clients.filter (!·.leaving))).changes changes with phase := .tabs } : Daemon).Sound := by
  have stage := sound.stage
  rw [Stage, serving] at stage
  obtain ⟨all, taken, served⟩ := stage
  have kept : (s.withClients (s.backlog.clients.filter (!·.leaving))).Kept :=
    Kept.withClients sound.kept fun c member => sound.kept.client (List.mem_filter.mp member).1
  have attended : (s.withClients (s.backlog.clients.filter (!·.leaving))).Attended := by
    intro index c found
    obtain ⟨member, stays⟩ := List.mem_filter.mp (List.mem_of_getElem? found)
    obtain ⟨position, here⟩ := List.mem_iff_getElem?.mp member
    have stays : c.leaving = false := by simpa using stays
    have isServed : c.served = true := by simpa [stays] using List.all_eq_true.mp done c member
    refine (served position c here isServed).resolve_left ?_
    rw [stays]
    exact Bool.false_ne_true
  have changed := changes_changed (s.withClients (s.backlog.clients.filter (!·.leaving))) changes
  exact ⟨changed.kept kept, fun _ => changed.read (Read.withClients (sound.read (by rw [serving]; rfl)) _),
    changed.allRead (all.withClients _), changed.taken taken, changed.attended attended⟩

theorem Sound.upkeep (sound : s.Sound) (upkeep : s.phase = .upkeep) (changes : List Change) :
    ({ s.changes changes with phase := .accepting } : Daemon).Sound := by
  have stage := sound.stage
  rw [Stage, upkeep] at stage
  have changed := changes_changed s changes
  exact ⟨changed.kept sound.kept, fun _ => changed.read (sound.read (by rw [upkeep]; rfl)), changed.allRead stage⟩

theorem Sound.tabAction (sound : s.Sound) (tabs : s.phase = .tabs) (changes : List Change) :
    ({ s.changes changes with phase := .commanding 0 } : Daemon).Sound := by
  have stage := sound.stage
  rw [Stage, tabs] at stage
  obtain ⟨all, taken, attended⟩ := stage
  have changed := changes_changed s changes
  refine ⟨changed.kept sound.kept, fun _ => changed.read (sound.read (by rw [tabs]; rfl)), changed.allRead all,
    changed.taken taken, changed.attended attended, Channel.aged_of_length ?_⟩
  have fits := (changed.kept sound.kept .commands _ rfl).short
  exact Nat.le_trans fits (by decide)

theorem Sound.command (sound : s.Sound) {count : Nat} (commanding : s.phase = .commanding count) (changes : List Change) :
    ({ (s.modify .commands List.tail).changes changes with phase := .commanding (count + 1) } : Daemon).Sound := by
  have stage := sound.stage
  rw [Stage, commanding] at stage
  obtain ⟨all, taken, attended, drained⟩ := stage
  have changed := changes_changed (s.modify .commands List.tail) changes
  refine ⟨changed.kept (sound.kept.modify fun _ fits => fits.tail), fun _ => changed.read ?_, changed.allRead (all.modify _ _),
    changed.taken taken, changed.attended attended, ?_⟩
  · exact (sound.read (by rw [commanding]; rfl)).modify fun _ _ drained => drained.rest
  · rw [show _ = _ from changed.commands]
    exact drained.taken

theorem Sound.commandsEnd (sound : s.Sound) {count : Nat} (commanding : s.phase = .commanding count)
    (stopped : s.drains .commands count maxCommands = false) : ({ s with phase := .rendering } : Daemon).Sound := by
  have stage := sound.stage
  rw [Stage, commanding] at stage
  obtain ⟨all, taken, attended, drained⟩ := stage
  exact ⟨sound.kept, fun _ => sound.read (by rw [commanding]; rfl), all, taken, attended, aged_of_stopped stopped rfl drained⟩

/-- The loop is idle only without a reason to look again soon. -/
theorem of_idle {paints : Bool} {failed : List Nat} (idle : (s.render paints failed).phase = .waiting .idle) :
    (s.backlog.clients = [] ∨ s.renderNeeded = false) ∧ s.backgroundOutput = false ∧ s.syncWaiting = false := by
  simp only [Daemon.render, Phase.waiting.injEq] at idle
  generalize rendering : (s.renderNeeded && paints && !s.backlog.clients.isEmpty) = rendered at idle
  generalize (if rendered then s.outputDisconnects ++ failed else s.outputDisconnects) = gone at idle
  by_cases failing : (!gone.isEmpty) = true
  · rw [if_pos failing] at idle
    cases idle
  rw [if_neg failing] at idle
  by_cases waits : (s.renderNeeded && !rendered && !s.backlog.clients.isEmpty) = true
  · rw [if_pos waits] at idle
    cases idle
  rw [if_neg waits] at idle
  by_cases brief : (rendered || s.backgroundOutput || s.syncWaiting) = true
  · rw [if_pos brief] at idle
    cases idle
  simp only [Bool.or_eq_true, not_or, Bool.not_eq_true] at brief
  obtain ⟨⟨unrendered, quiet⟩, still⟩ := brief
  refine ⟨?_, quiet, still⟩
  cases needed : s.renderNeeded with
  | false => exact .inr rfl
  | true => exact .inl (by simpa [needed, unrendered] using waits)

/-- A mark on a shown pane asks for a frame. -/
theorem renderNeeded_of_covers {id : Nat} {pane : PaneOutput} (found : s.backlog.panes[id]? = some pane)
    (shown : pane.inSync = false) (covered : s.update.Covers id) : s.renderNeeded = true := by
  have later := covered.deferred fun id => s.backlog.panes[id]?.any (·.inSync)
  rcases later with (redraw | dirty) | ⟨held, _⟩
  · have redraw : s.deferred.1.fullRedraw = true := redraw
    simp [renderNeeded, RenderUpdate.needsRender, redraw]
  · have some : s.deferred.1.dirtyPanes ≠ [] := List.ne_nil_of_mem dirty
    simp [renderNeeded, RenderUpdate.needsRender, some]
  · simp [found, shown] at held

theorem renderNeeded_of_redraw (redraw : s.update.fullRedraw = true) : s.renderNeeded = true := by
  simp [renderNeeded, deferred, RenderUpdate.deferDirtyPanes, RenderUpdate.needsRender, redraw]

/-- A burst in the active tab meets a client, and connections that come together a frame; or
something else keeps the loop awake. -/
def Awake (s : Daemon) : Move → Prop
  | .render _ _ =>
      (s.long = true → s.backlog.clients ≠ [] ∨ s.backgroundOutput = true ∨ s.syncWaiting = true) ∧
      (s.crowded = true →
        s.backlog.clients ≠ [] ∧ s.renderNeeded = true ∨ s.backgroundOutput = true ∨ s.syncWaiting = true)
  | _ => True

theorem Sound.render (sound : s.Sound) (rendering : s.phase = .rendering) {paints : Bool} {failed : List Nat}
    (awake : s.Awake (.render paints failed)) : (s.render paints failed).Sound where
  kept := sound.kept
  read busy := by cases busy
  stage := by
    have stage := sound.stage
    have read := sound.read (by rw [rendering]; rfl)
    rw [Stage, rendering] at stage
    obtain ⟨all, taken, attended, commands⟩ := stage
    change _ = Timeout.idle → ∀ source ch, s.backlog.channel? source = some ch → ch.Aged 0
    intro idle source ch found
    obtain ⟨frame, quiet, still⟩ := @of_idle s paints failed (congrArg Phase.waiting idle)
    have asleep : ¬(s.backgroundOutput = true ∨ s.syncWaiting = true) := by simp [quiet, still]
    cases source with
    | pane place =>
        obtain ⟨pane, here, rfl⟩ := Option.map_eq_some_iff.mp found
        refine (read place pane here (all place pane here)).resolve_right ?_
        rintro (output | ⟨burst, reason⟩)
        · exact asleep (.inl output)
        have attached := (awake.1 burst).resolve_right asleep
        have unneeded := frame.resolve_left attached
        rcases reason with waiting | redraw | ⟨id, rfl, dirty, shown⟩
        · exact asleep (.inr waiting)
        · rw [renderNeeded_of_redraw redraw] at unneeded
          cases unneeded
        · rw [renderNeeded_of_covers here shown (.inr dirty)] at unneeded
          cases unneeded
    | client index =>
        obtain ⟨c, here, rfl⟩ := Option.map_eq_some_iff.mp found
        exact attended index c here
    | connections =>
        cases Option.some.inj found
        refine taken ?_
        cases crowd : s.crowded with
        | false => rfl
        | true =>
            obtain ⟨attached, needed⟩ := (awake.2 crowd).resolve_right asleep
            rw [frame.resolve_left attached] at needed
            cases needed
    | commands =>
        cases Option.some.inj found
        exact commands

theorem Sound.wait (sound : s.Sound) : s.wait.Sound where
  kept source ch found := by
    change s.backlog.age.channel? source = some ch at found
    rw [Backlog.channel?_age] at found
    obtain ⟨before, had, rfl⟩ := Option.map_eq_some_iff.mp found
    exact (sound.kept source before had).age _
  read busy := by cases busy
  stage := trivial

theorem Sound.step (sound : s.Sound) (move : Move) (awake : s.Awake move) : (s.step move).Sound := by
  unfold Daemon.step
  split
  · exact sound.produce _
  · exact sound.tell _ _
  · exact sound.ring
  · exact sound.begin _
  · rename_i reading
    split
    · exact sound
    · rename_i pane found
      split
      · exact sound
      · exact sound.startRead reading found
  · rename_i place taken reading
    split
    · exact sound.chunk reading
    · exact sound
  · rename_i exited synced overdue place taken reading
    split
    · exact sound
    · rename_i stopped
      exact sound.finishRead reading (Bool.not_eq_true _ ▸ stopped) exited synced overdue
  · rename_i reading
    split
    · rename_i all
      exact ⟨sound.kept, fun _ => sound.read (by rw [reading]; rfl), fun place pane found => Backlog.read_of_allRead all found⟩
    · exact sound
  · rename_i changes upkeep
    exact sound.upkeep upkeep changes
  · rename_i accepting
    exact ⟨sound.kept.modify fun _ fits => fits.tail,
      fun busy => (sound.read busy).modify fun _ _ drained => drained.rest,
      sound.stage.modify fun _ _ drained => drained.rest⟩
  · rename_i client accepting
    split
    · exact sound
    · exact sound.accept accepting client
  · rename_i accepting
    split
    · rename_i empty
      exact sound.acceptNone accepting empty
    · exact sound
  · rename_i index serving
    split
    · exact sound
    · rename_i c found
      split
      · exact sound
      · exact sound.serve serving found
  · rename_i message index taken serving
    split
    · exact sound.message serving message
    · exact sound
  · rename_i hungUp index taken serving
    split
    · exact sound
    · rename_i stopped
      exact sound.serveEnd serving (Bool.not_eq_true _ ▸ stopped) hungUp
  · rename_i changes serving
    split
    · rename_i done
      exact sound.settle serving done changes
    · exact sound
  · rename_i changes tabs
    exact sound.tabAction tabs changes
  · rename_i changes taken commanding
    split
    · exact sound.command commanding changes
    · exact sound
  · rename_i taken commanding
    split
    · exact sound
    · rename_i stopped
      exact sound.commandsEnd commanding (Bool.not_eq_true _ ▸ stopped)
  · rename_i rendering
    exact sound.render rendering awake
  · exact sound.wait
  · exact ⟨sound.kept, fun busy => (by cases busy), trivial⟩
  · exact sound


/-! ## Whole runs -/

/-- Before the first wait a chunk may have come whose token nobody received; it counts as old. -/
structure Start (s : Daemon) : Prop where
  top : s.phase = .top
  kept : s.Kept

theorem Start.sound (start : s.Start) : s.Sound where
  kept := start.kept
  read busy := by
    rw [start.top] at busy
    cases busy
  stage := by
    rw [Stage, start.top]
    trivial

/-- Nothing that has told the loop waits for 250 ms. -/
def Prompt (s : Daemon) : Prop :=
  s.phase = .waiting .idle → ∀ source ch, s.backlog.channel? source = some ch → ch.Settled s.slot

theorem Sound.prompt (sound : s.Sound) : s.Prompt := by
  intro idle source ch found
  have stage := sound.stage
  rw [Stage, idle] at stage
  exact (sound.kept source ch found).told.settled (stage rfl source ch found)

theorem Sound.of_run {start : Daemon} (starts : start.Start) (run : Machine.Run Daemon.step Awake start s) : s.Sound :=
  @Machine.Run.invariant _ _ _ _ Daemon.Sound (fun _ move sound awake => sound.step move awake) _ _ starts.sound run

/-- In every run whose iterations all have a reason to look again after a burst or a crowd, no
woken item waits for the idle timeout. -/
theorem prompt_of_awake {start : Daemon} (starts : start.Start) (run : Machine.Run step Awake start s) : s.Prompt :=
  (Sound.of_run starts run).prompt

/-- A session with one pane and no client. -/
def unattended (chunks : Channel) : Daemon :=
  { backlog := { panes := (freshPanes [0]).modify 0 fun pane => { pane with chunks } } }

theorem unattended_start {chunks : Channel} (sound : chunks.Sound 32 false) : (unattended chunks).Start where
  top := rfl
  kept source ch found := by
    cases source with
    | pane place =>
        obtain ⟨pane, here, rfl⟩ := Option.map_eq_some_iff.mp found
        cases place with
        | active id =>
            simp only [Backlog.pane?, unattended, IdMap.getElem?_modify] at here
            split at here
            · obtain ⟨before, _, rfl⟩ := Option.map_eq_some_iff.mp here
              exact sound
            · rw [fresh_of_freshPanes here]
              exact .nil _ _
        | stored tab id => cases here
    | client index => cases found
    | connections =>
        cases found
        exact .nil _ _
    | commands =>
        cases found
        exact .nil _ _

/-- One iteration that reads so many chunks of the pane; a client knocks in the middle of it. -/
def iteration (count : Nat) : List Move :=
  [.begin {}, .read (.active 0)] ++ List.replicate count .chunk ++
    [.readEnd false false false, .readAll, .upkeep [], .acceptNone, .produce .connections, .settle [], .tabAction [],
      .commandsEnd, .render false []]

theorem prompt_with_a_knock :
    ((iteration 1).foldl step (unattended [{ sent := true, old := true }])).phase = .waiting .idle ∧
      ((iteration 1).foldl step (unattended [{ sent := true, old := true }])).Prompt := by
  refine ⟨by decide +kernel, ?_⟩
  have starts : (unattended [{ sent := true, old := true }]).Start := unattended_start ⟨by decide, fun _ => by decide⟩
  have run := @Machine.Run.start _ _ step Awake (unattended [{ sent := true, old := true }])
  have run := ((run.step (.begin {}) trivial).step (.read (.active 0)) trivial).step .chunk trivial
  have run := ((run.step (.readEnd false false false) trivial).step .readAll trivial).step (.upkeep []) trivial
  have run := ((run.step .acceptNone trivial).step (.produce .connections) trivial).step (.settle []) trivial
  have run := (run.step (.tabAction []) trivial).step .commandsEnd trivial
  exact prompt_of_awake starts (run.step (.render false [])
    ⟨fun long => absurd long (by decide +kernel), fun crowd => absurd crowd (by decide +kernel)⟩)

/-- Of nine chunks that have told the loop one is left when it goes idle. -/
theorem burst_waits : ¬∀ start s, start.Start → Machine.Run step (fun _ _ => True) start s → s.Prompt := by
  intro prompt
  have waits := prompt (unattended (List.replicate 9 { sent := true, old := true })) _
    (unattended_start ⟨by decide, fun _ => by decide⟩) (.of_labels step _ (iteration 8)) (by decide +kernel)
    (.pane (.active 0)) [{ sent := true, old := true }] (by decide +kernel)
  rcases waits with full | untold
  · exact absurd full (by decide +kernel)
  · exact absurd (untold _ (List.mem_singleton_self _)) (by decide)

/-- Two connections are ready and the first is refused: the second waits in the same way. -/
def crowd : List Move :=
  [.produce .connections, .produce .connections, .tell .connections 0, .tell .connections 1, .wait, .begin {},
    .read (.active 0), .readEnd false false false, .readAll, .upkeep [], .accept none, .settle [], .tabAction [], .commandsEnd,
    .render false []]

example : (crowd.foldl step { unattended [] with phase := .waiting .idle }).phase = .waiting .idle ∧
    (crowd.foldl step { unattended [] with phase := .waiting .idle }).backlog.connections =
      [{ sent := true, old := true }] := by
  decide +kernel

end Daemon

end Ezpn.Idle
