import Ezpn.Bootstrap
import Ezpn.EnvInterp

/-!
# Project files

A parsed `.ezpn.toml` and what it is resolved to: the layout, and for each pane
its expanded command, directory, name, variables and shell. A pane with a
sensitive field is left out of snapshots.
-/

set_option autoImplicit false

namespace Ezpn

open Flagged

structure WorkspaceSection where
  layout : Option String := none
  rows : Option Nat := none
  cols : Option Nat := none

structure PaneSection where
  command : Option String := none
  cwd : Option String := none
  name : Option String := none
  env : EnvMap := ∅
  restart : RestartPolicy := .never
  shell : Option String := none
  persistScrollback : Option Bool := none

structure ProjectConfig where
  workspace : Option WorkspaceSection := none
  pane : List PaneSection := []

/-- `PathBuf::join`. -/
def joinPath (dir path : String) : String :=
  if path.toList.head? = some '/' then path
  else if dir = "" || dir.toList.getLast? = some '/' then dir ++ path
  else dir ++ "/" ++ path

def formatExpandErr (field key : String) (err : ExpandError) : String :=
  if key = "" then s!"interpolation error in `{field}`: {err.display}"
  else s!"interpolation error in `{field}.{key}`: {err.display}"

/-- The closure `expand_field`, with the flag that it keeps. -/
def expandField (field key value : String) (ctx : EnvContext) (sensitive : Bool) : Except String (String × Bool) := do
  let (value, read) ← (EnvContext.expandWithSensitivity value ctx).mapError (formatExpandErr field key)
  .ok (value, sensitive || read)

def expandOption (field : String) (value : Option String) (ctx : EnvContext) (sensitive : Bool) :
    Except String (Option String × Bool) :=
  match value with
  | none => .ok (none, sensitive)
  | some value => do
      let (value, sensitive) ← expandField field "" value ctx sensitive
      .ok (some value, sensitive)

/-- The variables of a pane, expanded without each other. -/
def expandEnv (base : EnvContext) : List (String × String) → EnvMap → Bool → Except String (EnvMap × Bool)
  | [], resolved, sensitive => .ok (resolved, sensitive)
  | (k, v) :: entries, resolved, sensitive => do
      let (v, sensitive) ← expandField "env" k v base sensitive
      expandEnv base entries (resolved.insert k v) sensitive

/-- The expanded fields of a pane section. -/
structure ExpandedPane where
  env : EnvMap
  command : Option String
  cwd : Option String
  name : Option String
  shell : Option String

def ExpandedPane.launch (pane : ExpandedPane) : PaneLaunch :=
  match pane.command with
  | some command => .command command
  | none => .shell

/-- The fields of a section in the pane's own context. -/
def PaneSection.expandFields (fields : PaneSection) (env : EnvMap) (ctx : EnvContext) (sensitive : Bool) :
    Except String (ExpandedPane × Bool) := do
  let (command, sensitive) ← expandOption "command" fields.command ctx sensitive
  let (cwd, sensitive) ← expandOption "cwd" fields.cwd ctx sensitive
  let (name, sensitive) ← expandOption "name" fields.name ctx sensitive
  let (shell, sensitive) ← expandOption "shell" fields.shell ctx sensitive
  .ok ({ env, command, cwd, name, shell }, sensitive)

def PaneSection.expand (fields : PaneSection) (base : EnvContext) : Except String (ExpandedPane × Bool) := do
  let (env, sensitive) ← expandEnv base fields.env.toList ∅ false
  fields.expandFields env (base.withPane env) sensitive

section Resolve
variable {R : Type} [RatioOps R]

def resolveLayout (config : ProjectConfig) : Except String (Layout R) :=
  match config.workspace with
  | some ws =>
      match ws.layout with
      | some spec => Layout.fromSpec spec.toList
      | none =>
          let rows := ws.rows.getD 1
          let cols := ws.cols.getD 2
          if rows = 0 || cols = 0 then .error "rows and cols must be >= 1"
          else if rows * cols > 100 then .error s!"maximum 100 panes (got {rows}x{cols})"
          else .ok (.fromGrid rows cols)
  | none =>
      let count := max config.pane.length 2
      if count > 100 then .error s!"maximum 100 panes (got {count})" else .ok (.fromGrid 1 count)

/-- Insert a value where there is one. -/
def insertSome {α : Type} (map : IdMap α) (id : Nat) : Option α → IdMap α
  | none => map
  | some a => map.insert id a

/-- The maps after one pane; `none` stands for a leaf without a section. -/
def ResolvedProject.addPane (proj : ResolvedProject R) (dir : String) (pid : Nat) (fields : PaneSection)
    (pane : ExpandedPane) (sensitive : Bool) : ResolvedProject R :=
  { proj with
    launches := proj.launches.insert pid pane.launch
    cwds := insertSome proj.cwds pid (pane.cwd.map (joinPath dir))
    names := insertSome proj.names pid pane.name
    envs := insertSome proj.envs pid (if pane.env.isEmpty then none else some pane.env)
    restarts := if fields.restart = .never then proj.restarts else proj.restarts.insert pid fields.restart
    shells := insertSome proj.shells pid pane.shell
    persistScrollback := insertSome proj.persistScrollback pid fields.persistScrollback
    snapshotExcludedPanes := if sensitive then proj.snapshotExcludedPanes ++ [pid] else proj.snapshotExcludedPanes }

def resolvePanes (base : EnvContext) (dir : String) (sections : List PaneSection) :
    List (Nat × Nat) → ResolvedProject R → Except String (ResolvedProject R)
  | [], proj => .ok proj
  | (pid, i) :: rest, proj =>
      match sections[i]? with
      | none => resolvePanes base dir sections rest { proj with launches := proj.launches.insert pid .shell }
      | some fields => do
          let (pane, sensitive) ← fields.expand base
          resolvePanes base dir sections rest (proj.addPane dir pid fields pane sensitive)

/-- `load_project_from`, once the file is parsed and the variables are loaded. -/
def loadProjectFrom (config : ProjectConfig) (dir : String) (base : EnvContext) : Except String (ResolvedProject R) := do
  let layout : Layout R ← resolveLayout config
  let paneIds := layout.paneIds
  if config.pane.length > paneIds.length then
    .error s!"{config.pane.length} pane sections exceed the layout's {paneIds.length} panes"
  else
    resolvePanes base dir config.pane paneIds.zipIdx
      { layout, launches := ∅, cwds := ∅, names := ∅, envs := ∅, restarts := ∅, shells := ∅, persistScrollback := ∅
        snapshotExcludedPanes := [] }

end Resolve

end Ezpn
