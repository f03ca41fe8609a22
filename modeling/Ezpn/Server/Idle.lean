import Ezpn.Layout.Geometry
import Ezpn.Lib.Machine
import Ezpn.Lib.Wakeups
import Ezpn.Server.Update

/-!
# The idle wait

What the server loop drains in one iteration and how long it waits afterwards.
Reader threads and workers put items into their channels and send a token to the
loop between any two of its steps.
-/

set_option autoImplicit false

namespace Ezpn.Idle

open Wakeups

/-! ## Channels of the server -/

/-- Chunks of a pane that its reader thread has read. -/
structure PaneOutput where
  chunks : Channel := []
  inSync : Bool := false
  /-- read in this iteration; a new pane counts as read -/
  read : Bool := true
  deriving DecidableEq

structure Peer where
  id : Nat
  events : Channel := []
  served : Bool := false
  /-- in `detach_ids` or `disconnect_ids` -/
  leaving : Bool := false

/-- A pane of the active tab, or of another one. -/
inductive Place where
  | active (id : Nat)
  | stored (tab id : Nat)
  deriving DecidableEq, Repr

def Place.isActive : Place → Bool
  | active _ => true
  | stored _ _ => false

inductive Source where
  | pane (place : Place)
  | client (index : Nat)
  | connections
  | commands
  deriving DecidableEq, Repr

def maxPending : Nat := 16

/-- Capacities of the channels. -/
def Source.room : Source → Nat
  | pane _ => 32
  | client _ => 64
  | connections => maxPending
  | commands => 16

def maxDrain : Nat := 8

/-- Messages of one client, and commands, in one iteration. -/
def maxEvents : Nat := 64
def maxCommands : Nat := 64

/-! ## The loop -/

/-- How long the loop waits: not at all, to the next frame, 2 ms or 250 ms. -/
inductive Timeout where
  | zero
  | frame
  | brief
  | idle
  deriving DecidableEq, Repr

/-- Where the loop is; a drain in progress carries the number of items it took. -/
inductive Phase where
  | top
  | reading (drain : Option (Place × Nat))
  | upkeep
  | accepting
  | serving (drain : Option (Nat × Nat))
  | tabs
  | commanding (taken : Nat)
  | rendering
  | waiting (timeout : Timeout)
  | ended
  deriving DecidableEq, Repr

/-- What waits for the loop. -/
structure Backlog where
  panes : IdMap PaneOutput := ∅
  /-- the other tabs, in no particular order -/
  stored : List (IdMap PaneOutput) := []
  clients : List Peer := []
  connections : Channel := []
  commands : Channel := []

namespace Backlog

def pane? (b : Backlog) : Place → Option PaneOutput
  | .active id => b.panes[id]?
  | .stored tab id => b.stored[tab]?.bind (·[id]?)

def modifyPane (b : Backlog) (place : Place) (f : PaneOutput → PaneOutput) : Backlog :=
  match place with
  | .active id => { b with panes := b.panes.modify id f }
  | .stored tab id => { b with stored := b.stored.modify tab fun panes => panes.modify id f }

def channel? (b : Backlog) : Source → Option Channel
  | .pane place => (b.pane? place).map (·.chunks)
  | .client index => b.clients[index]?.map (·.events)
  | .connections => some b.connections
  | .commands => some b.commands

def modify (b : Backlog) (source : Source) (f : Channel → Channel) : Backlog :=
  match source with
  | .pane place => b.modifyPane place fun pane => { pane with chunks := f pane.chunks }
  | .client index => { b with clients := b.clients.modify index fun c => { c with events := f c.events } }
  | .connections => { b with connections := f b.connections }
  | .commands => { b with commands := f b.commands }

def unread (b : Backlog) : Backlog :=
  { b with
    panes := b.panes.map fun _ pane => { pane with read := false }
    stored := b.stored.map fun panes => panes.map fun _ pane => { pane with read := false } }

/-- Every pane of every tab has been read. -/
def allRead (b : Backlog) : Bool :=
  b.panes.toList.all (·.2.read) && b.stored.all fun panes => panes.toList.all (·.2.read)

def age (b : Backlog) : Backlog :=
  { panes := b.panes.map fun _ pane => { pane with chunks := pane.chunks.age }
    stored := b.stored.map fun panes => panes.map fun _ pane => { pane with chunks := pane.chunks.age }
    clients := b.clients.map fun c => { c with events := c.events.age }
    connections := b.connections.age
    commands := b.commands.age }

end Backlog

structure Daemon where
  phase : Phase := .top
  /-- the token in the wake channel -/
  slot : Bool := false
  backlog : Backlog := {}
  outputDisconnects : List Nat := []
  update : RenderUpdate := {}
  backgroundOutput : Bool := false
  syncWaiting : Bool := false
  /-- some pane of the active tab had more chunks than one iteration reads -/
  long : Bool := false
  /-- more connections were ready than one iteration takes -/
  crowded : Bool := false

namespace Daemon

def modify (s : Daemon) (source : Source) (f : Channel → Channel) : Daemon :=
  { s with backlog := s.backlog.modify source f }

def mark (s : Daemon) (marks : RenderUpdate) : Daemon := { s with update := s.update.merge marks }

/-- `mark_all` for the active tab's layout -/
def markAll (s : Daemon) : Daemon :=
  s.mark { dirtyPanes := s.backlog.panes.keys, fullRedraw := true, statusDirty := true, tabsDirty := true }

/-! ## What the handlers do to the panes -/

def freshPanes (ids : List Nat) : IdMap PaneOutput := ids.foldl (fun panes id => panes.insert id {}) ∅

end Daemon

/-- Effects of policies, mouse, keys, tab actions and commands on the panes; a new tab whose
pane cannot be spawned is a `goToTab` back. -/
inductive Change where
  | mark (marks : RenderUpdate)
  /-- split, respawn, restart or replacement: what the id stood for is gone -/
  | spawn (id : Nat)
  | spawnStored (tab id : Nat)
  | close (id : Nat)
  | newTab (id : Nat)
  | goToTab (tab : Nat)
  | closeTab (next : Nat)
  | load (panes : List Nat) (stored : List (List Nat))

namespace Daemon

def withTabs (s : Daemon) (panes : IdMap PaneOutput) (stored : List (IdMap PaneOutput)) : Daemon :=
  { s with backlog := { s.backlog with panes, stored } }

def change (s : Daemon) : Change → Daemon
  | .mark marks => s.mark marks
  | .spawn id => s.withTabs (s.backlog.panes.insert id {}) s.backlog.stored
  | .spawnStored tab id => s.withTabs s.backlog.panes (s.backlog.stored.modify tab fun panes => panes.insert id {})
  | .close id => s.withTabs (s.backlog.panes.erase id) s.backlog.stored
  | .newTab id => (s.withTabs (freshPanes [id]) (s.backlog.panes :: s.backlog.stored)).markAll
  | .goToTab tab =>
      match s.backlog.stored[tab]? with
      | none => s
      | some panes => (s.withTabs panes (s.backlog.stored.set tab s.backlog.panes)).markAll
  | .closeTab next =>
      match s.backlog.stored[next]? with
      | none => s
      | some panes => (s.withTabs panes (s.backlog.stored.eraseIdx next)).markAll
  | .load panes stored => (s.withTabs (freshPanes panes) (stored.map freshPanes)).markAll

def changes (s : Daemon) (list : List Change) : Daemon := list.foldl change s

end Daemon

/-! ## Steps -/

/-- What becomes of a client's message. -/
inductive Served where
  /-- an event, or one of a read-only client, which does nothing -/
  | acts (changes : List Change)
  | resize
  /-- a detach by message or by key, or the end of its stream -/
  | leaves (changes : List Change)

inductive Move where
  /-- a producer puts an item into its channel, if there is room -/
  | produce (source : Source)
  /-- the producer of the item at the position sends its token -/
  | tell (source : Source) (position : Nat)
  /-- any other token: its item has been taken, or it stands for none -/
  | ring
  /-- signals, the tick of the status bar, detection of spawned panes -/
  | begin (marks : RenderUpdate)
  | read (place : Place)
  | chunk
  /-- `synced`: in a batch after the chunks; `overdue`: for too long -/
  | readEnd (exited synced overdue : Bool)
  | readAll
  /-- from the clipboard prompt to the prefix timeout -/
  | upkeep (changes : List Change)
  /-- a connection that has waited too long is dropped -/
  | stale
  /-- a client, which may replace all others, or a refused one -/
  | accept (client : Option (Nat × Bool))
  | acceptNone
  | serve (index : Nat)
  | message (served : Served)
  /-- `hungUp`: its reader thread is gone and nothing is left -/
  | serveEnd (hungUp : Bool)
  | settle (changes : List Change)
  | tabAction (changes : List Change)
  | command (changes : List Change)
  | commandsEnd
  /-- `paints`: a frame is due and can be composed; `failed`: clients that it cannot be queued for -/
  | render (paints : Bool) (failed : List Nat)
  | wait
  /-- the session ends -/
  | stop

namespace Daemon

/-- The end of `read_output`, and what the loop makes of it. -/
def finishRead (s : Daemon) (place : Place) (changed synced overdue : Bool) : Daemon :=
  match place with
  | .stored _ _ =>
      { s with
        phase := .reading none
        backlog := s.backlog.modifyPane place fun pane => { pane with inSync := synced, read := true }
        backgroundOutput := s.backgroundOutput || changed }
  | .active id =>
      let inSync := synced && !overdue
      let s := { s with
        phase := .reading none
        backlog := s.backlog.modifyPane place fun pane => { pane with inSync, read := true }
        syncWaiting := s.syncWaiting || inSync }
      if (changed || (synced && overdue)) && !inSync then s.mark (.pane id) else s

def withClients (s : Daemon) (clients : List Peer) : Daemon := { s with backlog := { s.backlog with clients } }

/-- Before the clients are served, those whose output failed are given up. -/
def startServing (s : Daemon) : Daemon :=
  { s.withClients (s.backlog.clients.map fun c =>
      { c with served := false, leaving := s.outputDisconnects.contains c.id }) with
    phase := .serving none
    outputDisconnects := [] }

def accept (s : Daemon) : Option (Nat × Bool) → Daemon
  | none => s
  | some (id, steal) => (s.withClients ((if steal then [] else s.backlog.clients) ++ [{ id }])).markAll

/-- What is left to paint while panes are in a batch. -/
def deferred (s : Daemon) : RenderUpdate × List Nat :=
  s.update.deferDirtyPanes fun id => s.backlog.panes[id]?.any (·.inSync)

def renderNeeded (s : Daemon) : Bool := s.deferred.1.needsRender

def render (paints : Bool) (failed : List Nat) (s : Daemon) : Daemon :=
  let rendered := s.renderNeeded && paints && !s.backlog.clients.isEmpty
  let outputDisconnects := if rendered then s.outputDisconnects ++ failed else s.outputDisconnects
  let update := if rendered then {} else s.deferred.1
  let update := { update with dirtyPanes := update.dirtyPanes ++ s.deferred.2 }
  let timeout : Timeout :=
    if !outputDisconnects.isEmpty then .zero
    else if s.renderNeeded && !rendered && !s.backlog.clients.isEmpty then .frame
    else if rendered || s.backgroundOutput || s.syncWaiting then .brief
    else .idle
  { s with
    phase := .waiting timeout
    update := if s.backlog.clients.isEmpty then {} else update
    outputDisconnects }

/-- `recv_timeout` and the loop that drains the token: what is in a channel now was there before. -/
def wait (s : Daemon) : Daemon := { s with phase := .top, slot := false, backlog := s.backlog.age }

/-- The client has been served; it leaves or stays. -/
def endServing (s : Daemon) (index : Nat) (leaving : Bool) : Daemon :=
  { s.withClients (s.backlog.clients.modify index fun c => { c with served := true, leaving }) with
    phase := .serving none }

/-- A message of the client at the position, once it is taken. -/
def serve (s : Daemon) (index taken : Nat) : Served → Daemon
  | .acts changes => { s.changes changes with phase := .serving (some (index, taken + 1)) }
  | .resize => { s.markAll with phase := .serving (some (index, taken + 1)) }
  | .leaves changes => (s.changes changes).endServing index true

/-- The drain of a channel goes on: its budget is not used up, and the channel is not empty. -/
def drains (s : Daemon) (source : Source) (taken budget : Nat) : Bool :=
  taken < budget && s.backlog.channel? source ≠ some []

/-- A step of the loop or of a producer; a step that is not due changes nothing. -/
def step (s : Daemon) (move : Move) : Daemon :=
  match move, s.phase with
  | .produce source, _ => s.modify source (·.offer source.room)
  | .tell source position, _ => { s.modify source (·.tell position) with slot := true }
  | .ring, _ => { s with slot := true }
  | .begin marks, .top =>
      { s.mark marks with
        phase := .reading none
        backlog := s.backlog.unread
        backgroundOutput := false
        syncWaiting := false
        long := false
        crowded := false }
  | .read place, .reading none =>
      match s.backlog.pane? place with
      | none => s
      | some pane =>
          if pane.read then s
          else { s with
            phase := .reading (some (place, 0))
            long := s.long || (place.isActive && !decide (pane.chunks.Aged maxDrain)) }
  | .chunk, .reading (some (place, taken)) =>
      if s.drains (.pane place) taken maxDrain then
        { s.modify (.pane place) List.tail with phase := .reading (some (place, taken + 1)) }
      else s
  | .readEnd exited synced overdue, .reading (some (place, taken)) =>
      if s.drains (.pane place) taken maxDrain then s
      else s.finishRead place (decide (0 < taken) || exited) synced overdue
  | .readAll, .reading none => if s.backlog.allRead then { s with phase := .upkeep } else s
  | .upkeep changes, .upkeep => { s.changes changes with phase := .accepting }
  | .stale, .accepting => s.modify .connections List.tail
  | .accept client, .accepting =>
      if s.backlog.connections = [] then s
      else
        let s := s.modify .connections List.tail
        startServing (accept { s with crowded := !decide (s.backlog.connections.Aged 0) } client)
  | .acceptNone, .accepting => if s.backlog.connections = [] then s.startServing else s
  | .serve index, .serving none =>
      match s.backlog.clients[index]? with
      | none => s
      | some c => if c.served || c.leaving then s else { s with phase := .serving (some (index, 0)) }
  | .message served, .serving (some (index, taken)) =>
      if s.drains (.client index) taken maxEvents then (s.modify (.client index) List.tail).serve index taken served
      else s
  | .serveEnd hungUp, .serving (some (index, taken)) =>
      if s.drains (.client index) taken maxEvents then s else s.endServing index hungUp
  | .settle changes, .serving none =>
      if s.backlog.clients.all fun c => c.served || c.leaving then
        { (s.withClients (s.backlog.clients.filter (!·.leaving))).changes changes with phase := .tabs }
      else s
  | .tabAction changes, .tabs => { s.changes changes with phase := .commanding 0 }
  | .command changes, .commanding taken =>
      if s.drains .commands taken maxCommands then
        { (s.modify .commands List.tail).changes changes with phase := .commanding (taken + 1) }
      else s
  | .commandsEnd, .commanding taken =>
      if s.drains .commands taken maxCommands then s else { s with phase := .rendering }
  | .render paints failed, .rendering => s.render paints failed
  | .wait, .waiting _ => s.wait
  | .stop, _ => { s with phase := .ended }
  | _, _ => s

end Daemon

end Ezpn.Idle
