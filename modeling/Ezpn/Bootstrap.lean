import Ezpn.Layout.Spec
import Ezpn.Workspace

/-!
# Pane and layout operations

The operations of `bootstrap.rs` on a layout and its pane map. A spawn takes the
next process number, whether or not it succeeds, so operations that spawn also
return how many have been tried.
-/

set_option autoImplicit false

namespace Ezpn

section Bootstrap
variable {R G : Type} [RatioOps R] [Vt100 G]

/-! ## Geometry -/

/-- Fit every pane to its rectangle. -/
def resizeAll (world : World) (panes : PaneMap G) (layout : Layout R) (tw th : Nat) (settings : Settings) :
    PaneMap G :=
  let rects := layout.paneRects (terminalContentArea tw th settings)
  panes.map fun pid pane =>
    match rects[pid]? with
    | some rect => pane.resize world (max rect.w 1) (max rect.h 1)
    | none => pane

def resizeZoomedPane (world : World) (panes : PaneMap G) (paneId tw th : Nat) (settings : Settings) : PaneMap G :=
  let rect := terminalContentArea tw th settings
  match panes[paneId]? with
  | some pane => panes.insert paneId (pane.resize world (max rect.w 1) (max rect.h 1))
  | none => panes

/-! ## Spawning a layout -/

/-- `spawn_pane` and `spawn_pane_in`: without a working directory the shell's own is used. -/
def spawnPaneIn (world : World) (attempt : Nat) (shell : String) (launch : PaneLaunch)
    (cols rows scrollback : Nat) (cwd : Option String) : Except String (Pane G) :=
  Pane.spawnInner world attempt shell launch cols rows scrollback cwd ∅

/-- Run one spawn per entry, stopping at the first failure. -/
def spawnEach : (entries : List (Nat × (Nat → Except String (Pane G)))) → (spawns : Nat) → PaneMap G →
    Except String (PaneMap G) × Nat
  | [], spawns, panes => (.ok panes, spawns)
  | (pid, spawn) :: entries, spawns, panes =>
      match spawn spawns with
      | .error message => (.error message, spawns + 1)
      | .ok pane => spawnEach entries (spawns + 1) (panes.insert pid pane)

/-- All spawns run in parallel, so all are tried; the first failure is reported. -/
def spawnLayoutPanes (world : World) (spawns : Nat) (layout : Layout R) (launches : IdMap PaneLaunch)
    (shell : String) (tw th : Nat) (settings : Settings) (scrollback : Nat) :
    Except String (PaneMap G) × Nat :=
  let tasks := (layout.paneRects (terminalContentArea tw th settings)).toList
  let spawn (task : Nat × Rect) : Nat × (Nat → Except String (Pane G)) :=
    (task.1, fun attempt => spawnPaneIn world attempt shell (launches[task.1]?.getD .shell)
      (max task.2.w 1) (max task.2.h 1) scrollback none)
  ((spawnEach (tasks.map spawn) spawns ∅).1, spawns + tasks.length)

/-- One pane of a snapshot, with its history replayed. -/
def spawnSnapshotPane (format : SnapshotFormat R) (world : World) (rects : IdMap Rect) (shell : String)
    (scrollback : Nat) (saved : PaneSnapshot) (attempt : Nat) : Except String (Pane G) :=
  let rect := rects[saved.id]?.getD { x := 0, y := 0, w := 80, h := 24 }
  match Pane.spawnInner world attempt (saved.shell.getD shell) saved.launch (max rect.w 1) (max rect.h 1)
      scrollback saved.cwd saved.env with
  | .error message => .error message
  | .ok pane =>
      let pane : Pane G := { pane with name := saved.name, initialShell := saved.shell }
      match saved.scrollback with
      | none => .ok pane
      | some blob =>
          match blob.decode format with
          | .error message => .error message
          | .ok none => .ok pane
          | .ok (some rows) => .ok (pane.restoreScrollback (rows.map (·.text)))

def spawnSnapshotPanes (format : SnapshotFormat R) (world : World) (spawns : Nat) (layout : Layout R)
    (tab : TabSnapshot R) (shell : String) (tw th : Nat) (settings : Settings) (scrollback : Nat) :
    Except String (PaneMap G) × Nat :=
  let rects := layout.paneRects (terminalContentArea tw th settings)
  spawnEach (tab.panes.map fun saved =>
    (saved.id, spawnSnapshotPane format world rects shell scrollback saved)) spawns ∅

/-- Resolved project config, ready for launching. -/
structure ResolvedProject (R : Type) where
  layout : Layout R
  launches : IdMap PaneLaunch
  cwds : IdMap String
  names : IdMap String
  envs : IdMap EnvMap
  restarts : IdMap RestartPolicy
  shells : IdMap String
  persistScrollback : IdMap Bool
  snapshotExcludedPanes : List Nat

def spawnProjectPane (proj : ResolvedProject R) (world : World) (shell : String) (scrollback : Nat)
    (pid : Nat) (rect : Rect) (attempt : Nat) : Except String (Pane G) :=
  match Pane.spawnInner world attempt (proj.shells[pid]?.getD shell) (proj.launches[pid]?.getD .shell)
      (max rect.w 1) (max rect.h 1) scrollback proj.cwds[pid]? (proj.envs[pid]?.getD ∅) with
  | .error message => .error message
  | .ok pane => .ok
      { pane with
        name := proj.names[pid]?
        initialShell := proj.shells[pid]?
        snapshotSensitive := proj.snapshotExcludedPanes.contains pid
        persistScrollbackOverride := proj.persistScrollback[pid]? }

def spawnProjectPanes (world : World) (spawns : Nat) (proj : ResolvedProject R) (shell : String) (tw th : Nat)
    (settings : Settings) (scrollback : Nat) : Except String (PaneMap G) × Nat :=
  let rects := proj.layout.paneRects (terminalContentArea tw th settings)
  spawnEach (rects.toList.map fun (pid, rect) =>
    (pid, spawnProjectPane proj world shell scrollback pid rect)) spawns ∅

/-! ## Launch plans -/

/-- Commands go to the panes in tree order; the rest run the shell. -/
def buildCommandLaunches (layout : Layout R) (commands : List String) : IdMap PaneLaunch :=
  layout.paneIds.zipIdx.foldl (fun launches (id, index) =>
    launches.insert id (match commands[index]? with
      | some command => .command command
      | none => .shell)) ∅

def parseProcfileLine (line : List Char) : Option (String × String) :=
  let line := Text.trim line
  if line.isEmpty || line.head? = some '#' then none
  else match Text.splitOnce (· == ':') line with
    | none => none
    | some (name, cmd) =>
        let name := Text.trim name
        let cmd := Text.trim cmd
        if name.isEmpty || cmd.isEmpty then none else some (String.ofList name, String.ofList cmd)

def parseProcfile (contents : List Char) : List (String × String) :=
  (Text.lines contents).filterMap parseProcfileLine

/-- Layout and launches of a Procfile; `none` when it has no entries. -/
def tryLoadProcfile (contents : List Char) : Option (Layout R × IdMap PaneLaunch) :=
  let entries := parseProcfile contents
  let spec (s : String) (cols : Nat) : Layout R :=
    match Layout.fromSpec s.toList with
    | .ok layout => layout
    | .error _ => Layout.fromGrid 1 cols
  if entries.isEmpty then none
  else
    let layout : Layout R := match entries.length with
      | 1 => Layout.fromGrid 1 1
      | 2 => spec "1:1" 2
      | 3 => spec "1:1:1" 3
      | count => Layout.fromGrid (max ((count + 2) / 3) 1) (min 3 count)
    some (layout, buildCommandLaunches layout (entries.map (·.2)))

/-! ## Splitting, closing and replacing -/

/-- What a call that mutates `state` leaves behind, how many spawns have been
tried, and the result it returns. -/
structure Outcome (σ : Type) where
  state : σ
  spawns : Nat
  result : Except String Unit

/-- Smallest pane that can be split in a direction. -/
def fitsSplit (rect : Rect) : Direction → Bool
  | .horizontal => rect.w ≥ 13 && rect.h ≥ 3
  | .vertical => rect.h ≥ 7 && rect.w ≥ 6

def doSplit (world : World) (spawns : Nat) (layout : Layout R) (panes : PaneMap G) (active : Nat)
    (dir : Direction) (shell : String) (tw th : Nat) (settings : Settings) (scrollback : Nat) :
    Outcome (Layout R × PaneMap G) :=
  let failed (spawns : Nat) (message : String) : Outcome (Layout R × PaneMap G) :=
    { state := (layout, panes), spawns, result := .error message }
  if !(panes.contains active && layout.paneIds.contains active) then failed spawns "pane not found"
  else if !(panes.size < 100) then failed spawns "Maximum 100 panes"
  else if !(layout.nextId < usizeMax) then failed spawns "pane ID space exhausted"
  else
    let inner := terminalContentArea tw th settings
    match (layout.paneRects inner)[active]? with
    | none => failed spawns "pane rect not found"
    | some rect =>
        if !fitsSplit rect dir then failed spawns "pane is too small to split"
        else
          let inheritCwd := panes[active]?.bind fun pane => pane.liveCwd world
          -- the split is made on a copy, which replaces the layout only after the spawn
          let (nextLayout, newId) := layout.split active dir
          match (nextLayout.paneRects inner)[newId]? with
          | none => failed spawns "split geometry missing"
          | some rect =>
              match spawnPaneIn world spawns shell .shell (max rect.w 1) (max rect.h 1) scrollback inheritCwd with
              | .error message => failed (spawns + 1) message
              | .ok pane =>
                  let panes := resizeAll world (panes.insert newId pane) nextLayout tw th settings
                  { state := (nextLayout, panes), spawns := spawns + 1, result := .ok () }

/-- Close a pane; the focus falls back to the first leaf. The killed process leaves the map. -/
def closePane (layout : Layout R) (panes : PaneMap G) (active paneId : Nat) : Layout R × PaneMap G × Nat :=
  let panes := panes.erase paneId
  let (layout, _) := layout.remove paneId
  (layout, panes, if active = paneId then layout.paneIds.head?.getD 0 else active)

/-- Run a new process in a pane's place. -/
def replacePane (world : World) (spawns : Nat) (panes : PaneMap G) (layout : Layout R) (paneId : Nat)
    (launch : PaneLaunch) (shell : String) (tw th : Nat) (settings : Settings) (scrollback : Nat) :
    Outcome (PaneMap G) :=
  let old := panes[paneId]?
  let cwd := old.bind fun pane => (pane.liveCwd world).or pane.initialCwd
  let env := (old.map (·.initialEnv)).getD ∅
  match (layout.paneRects (terminalContentArea tw th settings))[paneId]? with
  | none => { state := panes, spawns, result := .error "pane rect not found" }
  | some rect =>
      match Pane.spawnInner world spawns shell launch (max rect.w 1) (max rect.h 1) scrollback cwd env with
      | .error message => { state := panes, spawns := spawns + 1, result := .error message }
      | .ok pane =>
          let pane : Pane G :=
            { pane with
              snapshotSensitive := old.any (·.snapshotSensitive)
              persistScrollbackOverride := old.bind (·.persistScrollbackOverride) }
          { state := panes.insert paneId pane, spawns := spawns + 1, result := .ok () }

/-! ## Restarting -/

def maxRestartRetries : Nat := 10

def restartAllowed (policy : RestartPolicy) (exit : Option Nat) : Bool :=
  match policy with
  | .never => false
  | .always => true
  | .onFailure => exit != some 0

/-- When the last attempt started, in milliseconds, and how many there were. -/
abbrev RestartState : Type := IdMap (Int × Nat)

structure Restarts (G : Type) where
  panes : PaneMap G
  state : RestartState
  restarted : List Nat
  spawns : Nat

/-- Milliseconds to wait before the next attempt. -/
def restartDelay (attempts : Nat) : Nat := 2000 * max (attempts - 2) 1

def restartPane (world : World) (layout : Layout R) (shell : String) (tw th : Nat) (settings : Settings)
    (scrollback : Nat) (acc : Restarts G) (id : Nat) : Restarts G :=
  let (started, attempts) := acc.state[id]?.getD ((world.now : Int) - 2000, 0)
  let waiting := { acc with state := acc.state.insert id (started, attempts) }
  if attempts ≥ maxRestartRetries || (world.now : Int) - started < restartDelay attempts then waiting
  else match acc.panes[id]? with
    | none => waiting
    | some old =>
        let state := acc.state.insert id ((world.now : Int), attempts + 1)
        -- a failed spawn has used up its attempt
        let outcome := replacePane world acc.spawns acc.panes layout id old.launch
          (old.initialShell.getD shell) tw th settings scrollback
        match outcome.result with
        | .error _ => { acc with panes := outcome.state, state, spawns := outcome.spawns }
        | .ok () =>
            { panes := outcome.state.modify id fun pane =>
                { pane with name := old.name, initialShell := old.initialShell }
              state
              restarted := acc.restarted ++ [id]
              spawns := outcome.spawns }

/-- Shared by active and background tabs; failed spawns consume retry budget too. -/
def restartPanes (world : World) (spawns : Nat) (panes : PaneMap G) (layout : Layout R)
    (policies : IdMap RestartPolicy) (state : RestartState) (shell : String) (tw th : Nat)
    (settings : Settings) (scrollback : Nat) : Restarts G :=
  let state := state.filter fun pid (started, _) =>
    (panes[pid]?).any fun pane => !pane.alive || (world.now : Int) - started < 30000
  let candidates := (panes.toList.filter fun (id, pane) =>
    !pane.alive && (policies[id]?).any fun policy => restartAllowed policy pane.exitCode).map (·.1)
  candidates.foldl (restartPane world layout shell tw th settings scrollback)
    { panes, state, restarted := [], spawns }

/-! ## Reflowing -/

/-- Give the leaves new ids in tree order, with the ids left over. -/
def LayoutNode.relabel : LayoutNode R → List Nat → Except String (LayoutNode R × List Nat)
  | leaf _, [] => .error "layout leaf count mismatch"
  | leaf _, id :: ids => .ok (leaf id, ids)
  | split direction ratio first second, ids =>
      match first.relabel ids with
      | .error message => .error message
      | .ok (first, ids) =>
          match second.relabel ids with
          | .error message => .error message
          | .ok (second, ids) => .ok (split direction ratio first second, ids)

/-- Reflow an existing workspace without restarting its processes. -/
def reconfigureLayout (layout : Layout R) (spec : String) : Layout R × Except String Unit :=
  match Layout.fromSpec (R := R) spec.toList with
  | .error message => (layout, .error message)
  | .ok candidate =>
      let ids := layout.paneIds
      if candidate.paneCount ≠ ids.length then
        (layout, .error s!"layout requires {candidate.paneCount} panes, but {ids.length} are running; split or close panes explicitly first")
      else match candidate.root.relabel ids with
        | .error message => (layout, .error message)
        | .ok (root, _) => ({ root, nextId := layout.nextId }, .ok ())

end Bootstrap

end Ezpn
