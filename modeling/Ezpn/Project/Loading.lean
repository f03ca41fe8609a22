import Ezpn.Hooks.Loading
import Ezpn.Project

/-!
# Loading a project file

The text of a `.ezpn.toml` as a configuration, and what it is resolved to. The
sections go to the panes in layout order.
-/

set_option autoImplicit false

namespace Ezpn

open Hooks (RawHook EventHook)

/-- `usize` from an integer of the document. -/
def Toml.asUsize (v : Toml) : Option Nat := v.asInteger.bind fun n => if n < 0 then none else some n.toNat

def RestartPolicy.ofToml (v : Toml) : Option RestartPolicy :=
  match v.asStr with
  | some "never" => some .never
  | some "on_failure" => some .onFailure
  | some "always" => some .always
  | _ => none

/-- A table of texts. -/
def EnvMap.ofToml (v : Toml) : Option EnvMap := do
  let entries ← v.asTable
  let entries ← entries.mapM fun (key, v) => v.asStr.map fun s => (key, s)
  return .ofList entries

section Crate
variable [TomlCrate]

def WorkspaceSection.ofToml (v : Toml) : Except String WorkspaceSection :=
  match v.asTable with
  | none => .error (TomlCrate.message "struct WorkspaceSection" (some v))
  | some tbl => do
      let layout ← Toml.optional tbl "layout" Toml.asStr "a string"
      let rows ← Toml.optional tbl "rows" Toml.asUsize "usize"
      let cols ← Toml.optional tbl "cols" Toml.asUsize "usize"
      .ok { layout, rows, cols }

def PaneSection.ofToml (v : Toml) : Except String PaneSection :=
  match v.asTable with
  | none => .error (TomlCrate.message "struct PaneSection" (some v))
  | some tbl => do
      let command ← Toml.optional tbl "command" Toml.asStr "a string"
      let cwd ← Toml.optional tbl "cwd" Toml.asStr "a string"
      let name ← Toml.optional tbl "name" Toml.asStr "a string"
      let env ← Toml.optional tbl "env" EnvMap.ofToml "a map"
      let restart ← Toml.optional tbl "restart" RestartPolicy.ofToml "`never`, `on_failure` or `always`"
      let shell ← Toml.optional tbl "shell" Toml.asStr "a string"
      let persistScrollback ← Toml.optional tbl "persist_scrollback" Toml.asBool "a boolean"
      .ok { command, cwd, name, env := env.getD ∅, restart := restart.getD .never, shell, persistScrollback }

/-- `toml::from_str::<ProjectConfig>`, with the hooks apart. -/
def ProjectConfig.parse (contents : String) : Except String (ProjectConfig × List RawHook) := do
  let doc ← TomlCrate.document contents
  let workspace ←
    match doc.lookup "workspace" with
    | none => .ok none
    | some v => (WorkspaceSection.ofToml v).map some
  let panes ← Toml.optional doc "pane" Toml.asArray "a sequence"
  let pane ← (panes.getD []).mapM PaneSection.ofToml
  let hooks ← Toml.optional doc "hooks" Toml.asArray "a sequence"
  let hooks ← (hooks.getD []).mapM RawHook.ofToml
  .ok ({ workspace, pane }, hooks)

/-- `load_project_from` of the project file in a directory, once the variables are loaded. -/
def loadProject {R : Type} [RatioOps R] (contents dir : String) (base : EnvContext) : Except String (ResolvedProject R) := do
  let (config, hooks) ← ProjectConfig.parse contents
  let proj ← loadProjectFrom config dir base
  let _ ← hooks.zipIdx.mapM fun (raw, i) =>
    (EventHook.fromRaw raw).mapError fun e => s!"[[hooks]][{i}] in .ezpn.toml: {e.display}"
  .ok proj

end Crate

/-! ## Resolved panes -/

section Resolve
variable {R : Type} {base : EnvContext} {dir : String} {sections : List PaneSection} {targets : List (Nat × Nat)}
  {proj out : ResolvedProject R}

theorem insertSome_other {α : Type} {map : IdMap α} {id pid : Nat} (a : Option α) (other : pid ≠ id) :
    (insertSome map id a)[pid]? = map[pid]? := by
  cases a with
  | none => rfl
  | some a => rw [insertSome, IdMap.getElem?_insert, if_neg other]

theorem addPane_other (fields : PaneSection) (pane : ExpandedPane) (sensitive : Bool) {id pid : Nat} (other : pid ≠ id) :
    (proj.addPane dir id fields pane sensitive).names[pid]? = proj.names[pid]? ∧
      (proj.addPane dir id fields pane sensitive).launches[pid]? = proj.launches[pid]? :=
  ⟨insertSome_other _ other, by rw [ResolvedProject.addPane, IdMap.getElem?_insert, if_neg other]⟩

theorem resolvePanes_layout (resolved : resolvePanes base dir sections targets proj = .ok out) : out.layout = proj.layout := by
  induction targets generalizing proj with
  | nil =>
      cases resolved
      rfl
  | cons target targets ih =>
      obtain ⟨id, i⟩ := target
      unfold resolvePanes at resolved
      split at resolved
      · have same := ih resolved
        exact same
      · obtain ⟨⟨pane, sensitive⟩, -, rest⟩ := except_bind_eq_ok.mp resolved
        have same := ih rest
        exact same

/-- Panes that are not among the targets stay as they are. -/
theorem resolvePanes_other (resolved : resolvePanes base dir sections targets proj = .ok out) {pid : Nat}
    (other : pid ∉ targets.map Prod.fst) :
    out.names[pid]? = proj.names[pid]? ∧ out.launches[pid]? = proj.launches[pid]? := by
  induction targets generalizing proj with
  | nil =>
      cases resolved
      exact ⟨rfl, rfl⟩
  | cons target targets ih =>
      obtain ⟨id, i⟩ := target
      obtain ⟨different, later⟩ := not_or.mp (mt List.mem_cons.mpr other)
      unfold resolvePanes at resolved
      split at resolved
      · obtain ⟨names, launches⟩ := ih resolved later
        exact ⟨names, by rw [launches, IdMap.getElem?_insert, if_neg different]⟩
      · rename_i fields _
        obtain ⟨⟨pane, sensitive⟩, -, rest⟩ := except_bind_eq_ok.mp resolved
        obtain ⟨names, launches⟩ := ih rest later
        obtain ⟨sameName, sameLaunch⟩ := @addPane_other R dir proj fields pane sensitive id pid different
        exact ⟨names.trans sameName, launches.trans sameLaunch⟩

/-- A pane gets the expanded fields of its section. -/
theorem resolvePanes_pane (resolved : resolvePanes base dir sections targets proj = .ok out)
    (distinct : (targets.map Prod.fst).Nodup) {pid i : Nat} (target : (pid, i) ∈ targets) {fields : PaneSection}
    (listed : sections[i]? = some fields) (fresh : proj.names[pid]? = none) :
    ∃ pane sensitive, fields.expand base = .ok (pane, sensitive) ∧ out.names[pid]? = pane.name ∧
      out.launches[pid]? = some pane.launch := by
  induction targets generalizing proj with
  | nil => nomatch target
  | cons first targets ih =>
      obtain ⟨id, k⟩ := first
      obtain ⟨new, distinct⟩ := List.nodup_cons.mp distinct
      unfold resolvePanes at resolved
      rcases List.mem_cons.mp target with same | later
      · cases same
        rw [listed] at resolved
        obtain ⟨⟨pane, sensitive⟩, expanded, rest⟩ := except_bind_eq_ok.mp resolved
        obtain ⟨names, launches⟩ := resolvePanes_other rest new
        refine ⟨pane, sensitive, expanded, names.trans ?_, launches.trans ?_⟩
        · rw [ResolvedProject.addPane]
          cases pane.name with
          | none => exact fresh
          | some name => rw [insertSome, IdMap.getElem?_insert, if_pos rfl]
        · rw [ResolvedProject.addPane, IdMap.getElem?_insert, if_pos rfl]
      · have other : pid ≠ id := by
          rintro rfl
          exact new (List.mem_map.mpr ⟨_, later, rfl⟩)
        split at resolved
        · exact ih resolved distinct later fresh
        · rename_i fields' _
          obtain ⟨⟨pane, sensitive⟩, -, rest⟩ := except_bind_eq_ok.mp resolved
          obtain ⟨sameName, -⟩ := @addPane_other R dir proj fields' pane sensitive id pid other
          exact ih rest distinct later (sameName.trans fresh)

/-- Panes are resolved if every section expands. -/
theorem resolvePanes_ok (expand : ∀ fields ∈ sections, ∃ result, fields.expand base = .ok result) :
    ∃ out, resolvePanes base dir sections targets proj = .ok out := by
  induction targets generalizing proj with
  | nil => exact ⟨proj, rfl⟩
  | cons target targets ih =>
      obtain ⟨id, i⟩ := target
      unfold resolvePanes
      cases listed : sections[i]? with
      | none => exact ih
      | some fields =>
          obtain ⟨⟨pane, sensitive⟩, expanded⟩ := expand fields (List.mem_of_getElem? listed)
          dsimp only
          rw [expanded]
          exact ih

variable [RatioOps R]

/-- What loading has done, when it succeeds: the pane at a place in layout order has the fields of the section there. -/
theorem loadProjectFrom_pane {config : ProjectConfig} (loaded : loadProjectFrom config dir base = .ok out) :
    resolveLayout config = .ok out.layout ∧ (out.layout.paneIds.Nodup → ∀ (i : Nat) (fields : PaneSection),
      config.pane[i]? = some fields → ∃ pid pane sensitive, out.layout.paneIds[i]? = some pid ∧
        fields.expand base = .ok (pane, sensitive) ∧ out.names[pid]? = pane.name ∧ out.launches[pid]? = some pane.launch) := by
  obtain ⟨layout, resolved, loaded⟩ := except_bind_eq_ok.mp loaded
  dsimp only at loaded
  split at loaded
  · nomatch loaded
  · rename_i enough
    obtain rfl := resolvePanes_layout loaded
    refine ⟨resolved, fun distinct i fields listed => ?_⟩
    have inside : i < out.layout.paneIds.length := by
      have bound := (List.getElem?_eq_some_iff.mp listed).1
      omega
    have ids : out.layout.paneIds.zipIdx.map Prod.fst = out.layout.paneIds := List.zipIdx_map_fst 0 _
    have target : (out.layout.paneIds[i], i) ∈ out.layout.paneIds.zipIdx :=
      List.mk_mem_zipIdx_iff_getElem?.mpr (List.getElem?_eq_getElem inside)
    obtain ⟨pane, sensitive, expanded, names, launches⟩ := resolvePanes_pane loaded (ids.symm ▸ distinct) target listed rfl
    exact ⟨_, pane, sensitive, List.getElem?_eq_getElem inside, expanded, names, launches⟩

theorem loadProjectFrom_ok {config : ProjectConfig} {layout : Layout R} (resolved : resolveLayout config = .ok layout)
    (enough : config.pane.length ≤ layout.paneIds.length)
    (expand : ∀ fields ∈ config.pane, ∃ result, fields.expand base = .ok result) :
    ∃ out, loadProjectFrom config dir base = .ok out ∧ out.layout = layout := by
  obtain ⟨out, panes⟩ := @resolvePanes_ok R base dir config.pane layout.paneIds.zipIdx
    { layout, launches := ∅, cwds := ∅, names := ∅, envs := ∅, restarts := ∅, shells := ∅, persistScrollback := ∅
      snapshotExcludedPanes := [] } expand
  refine ⟨out, ?_, resolvePanes_layout panes⟩
  refine except_bind_eq_ok.mpr ⟨layout, resolved, ?_⟩
  dsimp only
  rw [if_neg (Nat.not_lt.mpr enough)]
  exact panes

end Resolve

end Ezpn
