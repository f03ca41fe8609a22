import Ezpn.Project

/-!
# Projects under different environments

A project file is resolved twice, with the same names defined and other values.
Both results exclude the same panes from snapshots and give the others the same
launches.
-/

set_option autoImplicit false

namespace Ezpn

open Flagged

/-! ## Sections -/

theorem EnvContext.SameNames.withPane {a b : EnvContext} (same : a.SameNames b) (env : EnvMap) :
    (a.withPane env).SameNames (b.withPane env) := ⟨rfl, same.defined⟩

section Expand
variable {a b : EnvContext}

theorem expandField_agrees (same : a.SameNames b) (field key value : String) (sensitive : Bool) :
    Agrees (expandField field key value a sensitive) (expandField field key value b sensitive) :=
  ((EnvContext.expandWithSensitivity_agrees same value).mapError _).bind (fun _ _ => .refl _)
    (fun v => by simpa using sensitive_ok v) fun v => by simpa using sensitive_ok v

theorem expandField_sensitive (ctx : EnvContext) (field key value : String) :
    Sensitive (expandField field key value ctx true) := .after fun _ => sensitive_ok _

theorem expandOption_agrees (same : a.SameNames b) (field : String) (value : Option String) (sensitive : Bool) :
    Agrees (expandOption field value a sensitive) (expandOption field value b sensitive) := by
  cases value with
  | none => exact .refl _
  | some value =>
      exact (expandField_agrees same field "" value sensitive).bind (fun _ _ => .refl _) (fun _ => sensitive_ok _)
        fun _ => sensitive_ok _

theorem expandOption_sensitive (ctx : EnvContext) (field : String) (value : Option String) :
    Sensitive (expandOption field value ctx true) := by
  cases value with
  | none => exact sensitive_ok _
  | some value => exact (expandField_sensitive ctx field "" value).bind fun _ => sensitive_ok _

theorem expandEnv_sensitive (ctx : EnvContext) (entries : List (String × String)) (resolved : EnvMap) :
    Sensitive (expandEnv ctx entries resolved true) := by
  induction entries generalizing resolved with
  | nil => exact sensitive_ok _
  | cons entry entries ih => exact (expandField_sensitive ctx "env" _ _).bind fun _ => ih _

theorem expandEnv_agrees (same : a.SameNames b) (entries : List (String × String)) (resolved : EnvMap)
    (sensitive : Bool) : Agrees (expandEnv a entries resolved sensitive) (expandEnv b entries resolved sensitive) := by
  induction entries generalizing resolved sensitive with
  | nil => exact .refl _
  | cons entry entries ih =>
      exact (expandField_agrees same "env" entry.1 entry.2 sensitive).bind (fun _ flag => ih _ flag)
        (fun _ => expandEnv_sensitive a entries _) fun _ => expandEnv_sensitive b entries _

namespace PaneSection

theorem expandFields_sensitive (ctx : EnvContext) (fields : PaneSection) (env : EnvMap) :
    Sensitive (fields.expandFields env ctx true) :=
  (expandOption_sensitive ctx "command" _).bind fun _ =>
    (expandOption_sensitive ctx "cwd" _).bind fun _ =>
      (expandOption_sensitive ctx "name" _).bind fun _ =>
        (expandOption_sensitive ctx "shell" _).bind fun _ => sensitive_ok _

/-- The last fields, once an earlier one was sensitive. -/
theorem expandNames_sensitive (ctx : EnvContext) (fields : PaneSection) (env : EnvMap) (command cwd : Option String) :
    Sensitive (do
      let (name, sensitive) ← expandOption "name" fields.name ctx true
      let (shell, sensitive) ← expandOption "shell" fields.shell ctx sensitive
      .ok (({ env, command, cwd, name, shell } : ExpandedPane), sensitive)) :=
  (expandOption_sensitive ctx "name" _).bind fun _ => (expandOption_sensitive ctx "shell" _).bind fun _ => sensitive_ok _

theorem expandFields_agrees (same : a.SameNames b) (fields : PaneSection) (env : EnvMap) (sensitive : Bool) :
    Agrees (fields.expandFields env a sensitive) (fields.expandFields env b sensitive) := by
  refine (expandOption_agrees same "command" fields.command sensitive).bind (fun command flag => ?_)
    (fun _ => (expandOption_sensitive a "cwd" _).bind fun _ => expandNames_sensitive a fields env _ _)
    fun _ => (expandOption_sensitive b "cwd" _).bind fun _ => expandNames_sensitive b fields env _ _
  refine (expandOption_agrees same "cwd" fields.cwd flag).bind (fun cwd flag => ?_) (fun _ => expandNames_sensitive a fields env _ _)
    fun _ => expandNames_sensitive b fields env _ _
  refine (expandOption_agrees same "name" fields.name flag).bind (fun name flag => ?_)
    (fun _ => (expandOption_sensitive a "shell" _).bind fun _ => sensitive_ok _)
    fun _ => (expandOption_sensitive b "shell" _).bind fun _ => sensitive_ok _
  exact (expandOption_agrees same "shell" fields.shell flag).bind (fun _ _ => .refl _) (fun _ => sensitive_ok _)
    fun _ => sensitive_ok _

theorem expand_agrees (same : a.SameNames b) (fields : PaneSection) : Agrees (fields.expand a) (fields.expand b) :=
  (expandEnv_agrees same _ ∅ false).bind (fun env flag => fields.expandFields_agrees (same.withPane env) env flag)
    (fun env => expandFields_sensitive _ fields env) fun env => expandFields_sensitive _ fields env

end PaneSection

end Expand

/-! ## Projects -/

namespace ResolvedProject
variable {R : Type}

/-- Two resolutions of one file that differ at most in panes left out of snapshots. -/
structure Alike (p q : ResolvedProject R) : Prop where
  layout : q.layout = p.layout
  restarts : q.restarts = p.restarts
  persistScrollback : q.persistScrollback = p.persistScrollback
  excluded : q.snapshotExcludedPanes = p.snapshotExcludedPanes
  launches : ∀ pid ∉ p.snapshotExcludedPanes, q.launches[pid]? = p.launches[pid]?
  cwds : ∀ pid ∉ p.snapshotExcludedPanes, q.cwds[pid]? = p.cwds[pid]?
  names : ∀ pid ∉ p.snapshotExcludedPanes, q.names[pid]? = p.names[pid]?
  envs : ∀ pid ∉ p.snapshotExcludedPanes, q.envs[pid]? = p.envs[pid]?
  shells : ∀ pid ∉ p.snapshotExcludedPanes, q.shells[pid]? = p.shells[pid]?

theorem Alike.refl (p : ResolvedProject R) : p.Alike p :=
  ⟨rfl, rfl, rfl, rfl, fun _ _ => rfl, fun _ _ => rfl, fun _ _ => rfl, fun _ _ => rfl, fun _ _ => rfl⟩

/-- Two maps that agree outside some panes still do after one more pane. -/
theorem agree_insertSome {α : Type} {left right : IdMap α} {excluded : List Nat} {pid : Nat} {sensitive : Bool}
    {value other : Option α} (agree : ∀ id ∉ excluded, right[id]? = left[id]?) (same : sensitive = false → other = value) :
    ∀ id ∉ (if sensitive then excluded ++ [pid] else excluded),
      (insertSome right pid other)[id]? = (insertSome left pid value)[id]? := by
  intro id shown
  cases sensitive with
  | false =>
      rw [same rfl]
      cases value with
      | none => exact agree id shown
      | some a => simp only [insertSome, IdMap.getElem?_insert, agree id shown]
  | true =>
      obtain ⟨outside, apart⟩ : id ∉ excluded ∧ id ≠ pid := by simpa using shown
      have unmoved (map : IdMap α) (value : Option α) : (insertSome map pid value)[id]? = map[id]? := by
        cases value with
        | none => rfl
        | some a => simp only [insertSome, IdMap.getElem?_insert, apart, if_false]
      rw [unmoved, unmoved, agree id outside]

theorem Alike.addPane {p q : ResolvedProject R} (alike : p.Alike q) (dir : String) (pid : Nat) (fields : PaneSection)
    {pane other : ExpandedPane} {sensitive : Bool} (same : sensitive = false → other = pane) :
    (p.addPane dir pid fields pane sensitive).Alike (q.addPane dir pid fields other sensitive) := by
  have field {α : Type} (f : ExpandedPane → α) (shown : sensitive = false) : f other = f pane := congrArg f (same shown)
  simp only [ResolvedProject.addPane]
  refine ⟨alike.layout, by simp only [alike.restarts], by simp only [alike.persistScrollback],
    by simp only [alike.excluded], ?_, ?_, ?_, ?_, ?_⟩
  · exact @agree_insertSome _ _ _ _ _ _ (some _) (some _) alike.launches (field fun pane => some pane.launch)
  · exact agree_insertSome alike.cwds (field fun pane => pane.cwd.map (joinPath dir))
  · exact agree_insertSome alike.names (field (·.name))
  · exact agree_insertSome alike.envs (field fun pane => if pane.env.isEmpty then none else some pane.env)
  · exact agree_insertSome alike.shells (field (·.shell))

theorem Alike.resolvePanes {a b : EnvContext} (same : a.SameNames b) {dir : String} {sections : List PaneSection}
    {entries : List (Nat × Nat)} {p q out outRight : ResolvedProject R} (alike : p.Alike q)
    (resolved : resolvePanes a dir sections entries p = .ok out)
    (resolvedRight : resolvePanes b dir sections entries q = .ok outRight) : out.Alike outRight := by
  induction entries generalizing p q with
  | nil =>
      cases resolved
      cases resolvedRight
      exact alike
  | cons entry entries ih =>
      obtain ⟨pid, i⟩ := entry
      simp only [Ezpn.resolvePanes] at resolved resolvedRight
      cases found : sections[i]? with
      | none =>
          simp only [found] at resolved resolvedRight
          refine ih ?_ resolved resolvedRight
          exact { alike with
            launches := fun id shown => by simp only [IdMap.getElem?_insert, alike.launches id shown] }
      | some fields =>
          simp only [found] at resolved resolvedRight
          cases expanded : fields.expand a with
          | error message =>
              rw [expanded] at resolved
              cases resolved
          | ok left =>
              cases expandedRight : fields.expand b with
              | error message =>
                  rw [expandedRight] at resolvedRight
                  cases resolvedRight
              | ok right =>
                  rw [expanded] at resolved
                  rw [expandedRight] at resolvedRight
                  obtain ⟨right, flag⟩ := right
                  obtain ⟨rfl, pane⟩ := (fields.expand_agrees same).ok expanded expandedRight
                  exact ih (alike.addPane dir pid fields pane) resolved resolvedRight

end ResolvedProject

/-- A project file is resolved alike under environments that define the same names. -/
theorem loadProjectFrom_alike {R : Type} [RatioOps R] {a b : EnvContext} (same : a.SameNames b)
    {config : ProjectConfig} {dir : String} {p q : ResolvedProject R} (loaded : loadProjectFrom config dir a = .ok p)
    (loadedRight : loadProjectFrom config dir b = .ok q) : p.Alike q := by
  simp only [loadProjectFrom] at loaded loadedRight
  cases resolved : resolveLayout (R := R) config with
  | error message =>
      rw [resolved] at loaded
      cases loaded
  | ok layout =>
      rw [resolved] at loaded loadedRight
      simp only [bind, Except.bind] at loaded loadedRight
      split at loaded
      · cases loaded
      · rename_i within
        rw [if_neg within] at loadedRight
        exact (ResolvedProject.Alike.refl _).resolvePanes same loaded loadedRight

end Ezpn
