import Ezpn.Layout.Invariant
import Ezpn.Procfile.Statements
import Ezpn.Project.Loading

/-!
# Importing a Procfile

The generated file is loaded with the entries in layout order if and only if there are
no more entries than the largest spec has panes, and every entry is plain.
-/

set_option autoImplicit false

namespace Ezpn

/-! ## Typed sections -/

theorem mapM_ok_get {ε α β : Type} {f : α → Except ε β} {xs : List α} {ys : List β} (read : xs.mapM f = .ok ys) {i : Nat}
    {x : α} (listed : xs[i]? = some x) : ∃ y, ys[i]? = some y ∧ f x = .ok y := by
  induction xs generalizing i ys with
  | nil => nomatch listed
  | cons first xs ih =>
      rw [List.mapM_cons] at read
      obtain ⟨y, one, rest⟩ := except_bind_eq_ok.mp read
      obtain ⟨later, more, same⟩ := except_bind_eq_ok.mp rest
      cases same
      cases i with
      | zero =>
          cases listed
          exact ⟨y, rfl, one⟩
      | succ i => exact ih more listed

theorem getElem?_after {α : Type} {xs : List α} {n : Nat} (length : xs.length = n) (x : α) (ys : List α) :
    (xs ++ x :: ys)[n]? = some x := by
  rw [List.getElem?_append_right (Nat.le_of_eq length), length, Nat.sub_self]
  rfl

theorem mapM_ok_of_forall {ε α β : Type} {f : α → Except ε β} {g : α → β} {xs : List α} (read : ∀ x ∈ xs, f x = .ok (g x)) :
    xs.mapM f = .ok (xs.map g) := by
  induction xs with
  | nil => rfl
  | cons x xs ih =>
      obtain ⟨first, others⟩ := List.forall_mem_cons.mp read
      rw [List.mapM_cons, first, ih others]
      rfl

namespace Toml
variable [TomlCrate] {α : Type}

theorem optional_some {entries : List (String × Toml)} {key expected : String} {read : Toml → Option α} {v : Toml} {a : Option α}
    (listed : entries.lookup key = some v) (known : optional entries key read expected = .ok a) :
    ∃ b, a = some b ∧ read v = some b := by
  rw [optional, listed] at known
  dsimp only at known
  cases value : read v with
  | none =>
      rw [value] at known
      nomatch known
  | some b =>
      rw [value] at known
      cases known
      exact ⟨b, rfl, rfl⟩

theorem optional_none {entries : List (String × Toml)} {key expected : String} {read : Toml → Option α} {a : Option α}
    (absent : entries.lookup key = none) (known : optional entries key read expected = .ok a) : a = none := by
  rw [optional, absent] at known
  cases known
  rfl

end Toml

section Sections
variable [TomlCrate]

/-- What is read of the sections that matter here. -/
theorem ProjectConfig.parse_ok {contents : String} {config : ProjectConfig} {hooks : List Hooks.RawHook}
    {doc : List (String × Toml)} (parsed : ProjectConfig.parse contents = .ok (config, hooks))
    (document : TomlCrate.document contents = .ok doc) {workspace : Toml} (there : doc.lookup "workspace" = some workspace)
    {panes : List Toml} (listed : doc.lookup "pane" = some (.array panes)) :
    (∃ ws, WorkspaceSection.ofToml workspace = .ok ws ∧ config.workspace = some ws) ∧
      panes.mapM PaneSection.ofToml = .ok config.pane := by
  unfold ProjectConfig.parse at parsed
  obtain ⟨doc', same, parsed⟩ := except_bind_eq_ok.mp parsed
  rw [document] at same
  cases same
  rw [there] at parsed
  obtain ⟨ws, read, parsed⟩ := except_bind_eq_ok.mp parsed
  obtain ⟨array, known, parsed⟩ := except_bind_eq_ok.mp parsed
  obtain ⟨pane, typed, parsed⟩ := except_bind_eq_ok.mp parsed
  obtain ⟨raw, -, parsed⟩ := except_bind_eq_ok.mp parsed
  obtain ⟨hooks', -, parsed⟩ := except_bind_eq_ok.mp parsed
  cases parsed
  obtain ⟨items, rfl, same⟩ := Toml.optional_some listed known
  cases same
  refine ⟨?_, typed⟩
  cases found : WorkspaceSection.ofToml workspace with
  | error e =>
      rw [found] at read
      nomatch read
  | ok ws' =>
      rw [found] at read
      cases read
      exact ⟨ws', rfl, rfl⟩

/-- The texts of a section whose fields are all texts; there are no variables then. -/
theorem PaneSection.ofToml_texts {tbl : List (String × Toml)} {fields : PaneSection}
    (typed : PaneSection.ofToml (.table tbl) = .ok fields) (texts : ∀ key v, tbl.lookup key = some v → ∃ s, v = .string s) :
    (∀ s, tbl.lookup "name" = some (.string s) → fields.name = some s) ∧
      (∀ s, tbl.lookup "command" = some (.string s) → fields.command = some s) ∧ fields.env = ∅ := by
  unfold PaneSection.ofToml at typed
  dsimp only [Toml.asTable] at typed
  obtain ⟨command, commandRead, typed⟩ := except_bind_eq_ok.mp typed
  obtain ⟨cwd, -, typed⟩ := except_bind_eq_ok.mp typed
  obtain ⟨name, nameRead, typed⟩ := except_bind_eq_ok.mp typed
  obtain ⟨env, envRead, typed⟩ := except_bind_eq_ok.mp typed
  obtain ⟨restart, -, typed⟩ := except_bind_eq_ok.mp typed
  obtain ⟨shell, -, typed⟩ := except_bind_eq_ok.mp typed
  obtain ⟨persist, -, typed⟩ := except_bind_eq_ok.mp typed
  cases typed
  refine ⟨fun s listed => ?_, fun s listed => ?_, ?_⟩
  · obtain ⟨b, rfl, same⟩ := Toml.optional_some listed nameRead
    cases same
    rfl
  · obtain ⟨b, rfl, same⟩ := Toml.optional_some listed commandRead
    cases same
    rfl
  · cases listed : tbl.lookup "env" with
    | none => rw [Toml.optional_none listed envRead]; rfl
    | some v =>
        obtain ⟨s, rfl⟩ := texts "env" v listed
        obtain ⟨b, rfl, same⟩ := Toml.optional_some listed envRead
        nomatch same

end Sections

/-- A pane without variables of its own, where nothing is set. -/
theorem PaneSection.expand_unset {fields : PaneSection} {pane : ExpandedPane} {sensitive : Bool} (env : fields.env = ∅)
    (expanded : fields.expand {} = .ok (pane, sensitive)) :
    (∀ s, fields.name = some s → ∃ out flag, EnvContext.expandWithSensitivity s {} = .ok (out, flag) ∧ pane.name = some out) ∧
      (∀ s, fields.command = some s →
        ∃ out flag, EnvContext.expandWithSensitivity s {} = .ok (out, flag) ∧ pane.command = some out) := by
  have field {name value : String} {before after : Bool} {out : Option String}
      (read : expandOption name (some value) {} before = .ok (out, after)) :
      ∃ text flag, EnvContext.expandWithSensitivity value {} = .ok (text, flag) ∧ out = some text := by
    obtain ⟨⟨text, flag⟩, one, same⟩ := except_bind_eq_ok.mp read
    cases same
    obtain ⟨⟨text', flag'⟩, direct, same⟩ := except_bind_eq_ok.mp one
    cases same
    cases found : EnvContext.expandWithSensitivity value {} with
    | error e =>
        rw [found] at direct
        nomatch direct
    | ok result =>
        rw [found] at direct
        cases direct
        exact ⟨_, _, rfl, rfl⟩
  unfold PaneSection.expand at expanded
  rw [env] at expanded
  obtain ⟨⟨vars, flag⟩, none, expanded⟩ := except_bind_eq_ok.mp expanded
  cases none
  obtain ⟨⟨command, first⟩, commandRead, expanded⟩ := except_bind_eq_ok.mp expanded
  obtain ⟨⟨cwd, second⟩, -, expanded⟩ := except_bind_eq_ok.mp expanded
  obtain ⟨⟨name, third⟩, nameRead, expanded⟩ := except_bind_eq_ok.mp expanded
  obtain ⟨⟨shell, fourth⟩, -, expanded⟩ := except_bind_eq_ok.mp expanded
  cases expanded
  refine ⟨fun s known => ?_, fun s known => ?_⟩
  · rw [known] at nameRead
    exact field nameRead
  · rw [known] at commandRead
    exact field commandRead

namespace Procfile

open Toml.Reader

/-! ## Layouts -/

/-- Panes in layout order with the names and commands of the entries. -/
def Imported {R : Type} (proj : ResolvedProject R) (entries : List (String × String)) : Prop :=
  ∀ (i : Nat) (entry : String × String), entries[i]? = some entry →
    ∃ pid, proj.layout.paneIds[i]? = some pid ∧ proj.names[pid]? = some entry.1 ∧
      proj.launches[pid]? = some (.command entry.2)

/-- The panes of the spec for a number of entries. -/
def specPanes : (count : Nat) → Nat
  | 1 => 1
  | 2 => 2
  | 3 => 3
  | 4 => 4
  | _ => 6

theorem layoutSpec_layout {R : Type} [RatioOps R] (count : Nat) :
    ∃ layout : Layout R, Layout.fromSpec (layoutSpec count).toList = .ok layout ∧
      layout.paneIds = List.range' 0 (specPanes count) := by
  have panes : (Layout.fromSpec (layoutSpec count).toList : Except String (Layout R)).map Layout.paneIds =
      .ok (List.range' 0 (specPanes count)) := by
    have large : (Layout.fromSpec "1:1:1/1:1:1".toList : Except String (Layout R)).map Layout.paneIds = .ok (List.range' 0 6) := rfl
    match count with
    | 0 => rfl
    | 1 => rfl
    | 2 => rfl
    | 3 => rfl
    | 4 => rfl
    | _ + 5 => exact large
  cases spec : (Layout.fromSpec (layoutSpec count).toList : Except String (Layout R)) with
  | error e =>
      rw [spec] at panes
      nomatch panes
  | ok layout =>
      rw [spec] at panes
      exact ⟨layout, rfl, Except.ok.inj panes⟩

theorem specPanes_enough {count : Nat} (positive : 0 < count) : count ≤ specPanes count ↔ count ≤ 6 := by
  unfold specPanes
  split <;> omega

/-! ## The document -/

section Document
variable {all : List Group} {doc : List (String × Toml)}

theorem paneGroup_table (entry : String × String) :
    (paneGroup entry).table = .table [("command", .string entry.2), ("name", .string entry.1)] := by
  have order : ¬"name" < "command" := by decide
  have sort : sorted [("name", Toml.string entry.1), ("command", Toml.string entry.2)] =
      [("command", .string entry.2), ("name", .string entry.1)] := if_neg order
  exact congrArg Toml.table sort

theorem layoutGroup_table (count : Nat) : (layoutGroup count).table = .table [("layout", .string (layoutSpec count))] := rfl

theorem table_texts {group : Group} (distinct : (group.pairs.map Prod.fst).Nodup) {tbl : List (String × Toml)}
    (whole : group.table = .table tbl) : ∀ key v, tbl.lookup key = some v → ∃ s, v = .string s := by
  intro key v listed
  by_cases known : key ∈ group.pairs.map Prod.fst
  · obtain ⟨⟨key', value⟩, member, rfl⟩ := List.mem_map.mp known
    obtain ⟨tbl', same, found⟩ := lookup_table distinct member
    rw [whole] at same
    cases same
    rw [listed] at found
    exact ⟨value, Option.some.inj found⟩
  · obtain ⟨tbl', same, found⟩ := lookup_table_none distinct known
    rw [whole] at same
    cases same
    rw [listed] at found
    nomatch found

/-- After the layout and some panes comes the section of the next pairs. -/
theorem groups_front (count : Nat) (front : List (String × String)) (pairs : List (String × String)) (later : List Statement) :
    ∃ extra tail, groups { header := .root } ((layoutGroup count).statements ++ ((front.map paneGroup).flatMap Group.statements ++
        .header (.item "pane") :: (pairs.map (fun (key, value) => .pair key value) ++ later))) =
      { header := .root } :: layoutGroup count ::
        (front.map paneGroup ++ { header := .item "pane", pairs := pairs ++ extra } :: tail) := by
  obtain ⟨extra, tail, opened⟩ := groups_open { header := .item "pane", pairs } later
  refine ⟨extra, tail, ?_⟩
  have whole := groups_statements { header := .root } (layoutGroup count :: front.map paneGroup) (.item "pane")
    (pairs.map (fun (key, value) => .pair key value) ++ later)
  rw [List.flatMap_cons, List.append_assoc, groups_pairs, List.nil_append, opened] at whole
  exact whole

theorem items_panes (front : List (String × String)) (count : Nat) (more : List Group) :
    items ({ header := .root } :: layoutGroup count :: (front.map paneGroup ++ more)) "pane" =
      front.map (fun entry => (paneGroup entry).table) ++ items more "pane" := by
  have workspace : (layoutGroup count).header ≠ .item "pane" := nofun
  have panes : (front.map paneGroup).filter (fun group => decide (group.header = .item "pane")) = front.map paneGroup := by
    refine List.filter_eq_self.mpr fun group member => ?_
    obtain ⟨entry, -, rfl⟩ := List.mem_map.mp member
    exact decide_eq_true rfl
  rw [items, List.filter_cons_of_neg (by simp), List.filter_cons_of_neg (by simpa using workspace),
    List.filter_append, panes, List.map_append, List.map_map]
  rfl

theorem itemKeys_panes {entries : List (String × String)} (nonempty : entries ≠ []) :
    ((entries.map paneGroup).filterMap Group.itemKey).eraseDups = ["pane"] := by
  have keys : (entries.map paneGroup).filterMap Group.itemKey = List.replicate entries.length "pane" := by
    induction entries with
    | nil => rfl
    | cons entry entries ih =>
        cases entries with
        | nil => rfl
        | cons next entries => exact congrArg ("pane" :: ·) (ih nofun)
  rw [keys]
  cases entries with
  | nil => exact absurd rfl nonempty
  | cons entry entries =>
      rw [List.length_cons, List.replicate_succ, List.eraseDups_cons]
      have others : (List.replicate entries.length "pane").filter (fun key => !key == "pane") = [] := by
        rw [List.filter_replicate, if_neg (by decide)]
      rw [others]
      rfl

/-- The document of plain entries. -/
theorem document_panes {entries : List (String × String)} (nonempty : entries ≠ []) :
    ∃ doc, document ({ header := .root } :: layoutGroup entries.length :: entries.map paneGroup) = some doc ∧
      doc.lookup "workspace" = some (layoutGroup entries.length).table ∧
      doc.lookup "pane" = some (.array (entries.map fun entry => (paneGroup entry).table)) ∧ doc.lookup "hooks" = none := by
  have items : items ({ header := .root } :: layoutGroup entries.length :: entries.map paneGroup) "pane" =
      entries.map fun entry => (paneGroup entry).table := by
    have whole := items_panes entries entries.length []
    rw [List.append_nil] at whole
    rw [whole]
    exact List.append_nil _
  have listed : Toml.Reader.entries ({ header := .root } :: layoutGroup entries.length :: entries.map paneGroup) =
      [("workspace", (layoutGroup entries.length).table), ("pane", .array (entries.map fun entry => (paneGroup entry).table))] := by
    have roots : (entries.map paneGroup).flatMap Group.root = [] :=
      List.flatMap_eq_nil_iff.mpr fun group member => by
        obtain ⟨entry, -, rfl⟩ := List.mem_map.mp member
        rfl
    have names : (entries.map paneGroup).filterMap Group.named = [] :=
      List.filterMap_eq_nil_iff.mpr fun group member => by
        obtain ⟨entry, -, rfl⟩ := List.mem_map.mp member
        rfl
    have keys := itemKeys_panes nonempty
    change (entries.map paneGroup).flatMap Group.root ++
      ("workspace", (layoutGroup entries.length).table) :: (entries.map paneGroup).filterMap Group.named ++
      ((entries.map paneGroup).filterMap Group.itemKey).eraseDups.map _ = _
    rw [roots, names, keys, List.map_singleton, items]
    rfl
  have distinct : ((Toml.Reader.entries ({ header := .root } :: layoutGroup entries.length :: entries.map paneGroup)).map
      Prod.fst).Nodup := by
    rw [listed]
    change (["workspace", "pane"] : List String).Nodup
    decide
  have pairs : ∀ group ∈ ({ header := .root } : Group) :: layoutGroup entries.length :: entries.map paneGroup,
      (group.pairs.map Prod.fst).Nodup := by
    refine List.forall_mem_cons.mpr ⟨List.nodup_nil, List.forall_mem_cons.mpr ⟨List.nodup_singleton _, fun group member => ?_⟩⟩
    obtain ⟨entry, -, rfl⟩ := List.mem_map.mp member
    change (["name", "command"] : List String).Nodup
    decide
  have defined : document ({ header := .root } :: layoutGroup entries.length :: entries.map paneGroup) =
      some (sorted (Toml.Reader.entries ({ header := .root } :: layoutGroup entries.length :: entries.map paneGroup))) := by
    refine if_pos (Bool.and_eq_true_iff.mpr ⟨List.all_eq_true.mpr fun group member => ?_, decide_eq_true distinct⟩)
    exact decide_eq_true (pairs group member)
  refine ⟨_, defined, ?_, ?_, ?_⟩ <;> rw [lookup_sorted distinct, listed] <;> rfl

end Document

/-! ## Loading -/

section Load
variable {R : Type} [RatioOps R] [TomlReads] {source : Source} {entries : List (String × String)} {dir : String}
  {base : EnvContext}

theorem document_iff (source : Source) {entries : List (String × String)} (kept : ∀ entry ∈ entries, Entry entry)
    (doc : List (String × Toml)) :
    TomlCrate.document (String.ofList (projectText source entries)) = .ok doc ↔
      Toml.Reader.read (projectText source entries) = some doc := by
  have covered : Covered (String.ofList (projectText source entries)).toList := by
    rw [String.toList_ofList]
    exact projectText_covered source kept
  have reads := TomlReads.reads _ covered
  rw [String.toList_ofList] at reads
  rw [← reads]
  cases TomlCrate.document (String.ofList (projectText source entries)) with
  | error e => exact iff_of_false nofun nofun
  | ok doc' => exact ⟨fun same => congrArg some (Except.ok.inj same), fun same => congrArg Except.ok (Option.some.inj same)⟩

/-- The configuration of plain entries. -/
theorem parse_plain (source : Source) (nonempty : entries ≠ []) (kept : ∀ entry ∈ entries, Entry entry)
    (plain : ∀ entry ∈ entries, Plain entry) :
    ProjectConfig.parse (String.ofList (projectText source entries)) =
      .ok ({ workspace := some { layout := some (layoutSpec entries.length) }
             pane := entries.map fun entry => { name := some entry.1, command := some entry.2 } }, []) := by
  obtain ⟨doc, defined, workspace, pane, hooks⟩ := document_panes nonempty
  have read : TomlCrate.document (String.ofList (projectText source entries)) = .ok doc := by
    rw [document_iff source kept, Toml.Reader.read, project_statements source kept plain]
    change document (groups { header := .root } _) = some doc
    rw [groups_all, defined]
  have sections : (entries.map fun entry => (paneGroup entry).table).mapM PaneSection.ofToml =
      .ok (entries.map fun entry => ({ name := some entry.1, command := some entry.2 } : PaneSection)) := by
    rw [List.mapM_map]
    refine mapM_ok_of_forall fun entry _ => ?_
    rw [Function.comp_apply, paneGroup_table]
    rfl
  unfold ProjectConfig.parse Toml.optional
  rw [read]
  dsimp only [bind, Except.bind]
  rw [workspace, pane, hooks, layoutGroup_table]
  dsimp only [Toml.asArray, Option.getD]
  rw [sections]
  rfl

/-- Plain entries are loaded, with whatever variables are set. -/
theorem loadProject_plain (source : Source) (nonempty : entries ≠ []) (few : entries.length ≤ 6)
    (kept : ∀ entry ∈ entries, Entry entry) (plain : ∀ entry ∈ entries, Plain entry)
    (literal : ∀ entry ∈ entries, '$' ∉ entry.1.toList ∧ '$' ∉ entry.2.toList) (dir : String) (base : EnvContext) :
    ∃ proj : ResolvedProject R, loadProject (String.ofList (projectText source entries)) dir base = .ok proj ∧
      Imported proj entries := by
  have positive := List.length_pos_iff.mpr nonempty
  obtain ⟨layout, spec, ids⟩ := @layoutSpec_layout R _ entries.length
  have expand : ∀ entry ∈ entries, ({ name := some entry.1, command := some entry.2 } : PaneSection).expand base =
      .ok ({ env := ∅, command := some entry.2, cwd := none, name := some entry.1, shell := none }, false) := by
    intro entry member
    obtain ⟨name, command⟩ := literal entry member
    have names := (base.withPane ∅).expand_plain name
    have commands := (base.withPane ∅).expand_plain command
    change PaneSection.expandFields _ ∅ (base.withPane ∅) false = _
    unfold PaneSection.expandFields expandOption expandField
    dsimp only
    rw [names, commands]
    rfl
  have enough : (entries.map fun entry => ({ name := some entry.1, command := some entry.2 } : PaneSection)).length ≤
      layout.paneIds.length := by
    rw [ids, List.length_map, List.length_range']
    exact (specPanes_enough positive).mpr few
  obtain ⟨proj, loaded, same⟩ := @loadProjectFrom_ok R base dir _
    { workspace := some { layout := some (layoutSpec entries.length) }
      pane := entries.map fun entry => { name := some entry.1, command := some entry.2 } } layout spec enough
    fun fields member => by
      obtain ⟨entry, listed, rfl⟩ := List.mem_map.mp member
      exact ⟨_, expand entry listed⟩
  refine ⟨proj, ?_, fun i entry listed => ?_⟩
  · rw [loadProject, parse_plain source nonempty kept plain]
    dsimp only [bind, Except.bind]
    rw [loaded]
    rfl
  · have distinct : proj.layout.paneIds.Nodup := by
      rw [same, ids]
      exact List.nodup_range'
    have field : (entries.map fun entry => ({ name := some entry.1, command := some entry.2 } : PaneSection))[i]? =
        some { name := some entry.1, command := some entry.2 } := by rw [List.getElem?_map, listed]; rfl
    obtain ⟨pid, pane, sensitive, there, expanded, names, launches⟩ := (loadProjectFrom_pane loaded).2 distinct i _ field
    rw [expand entry (List.mem_of_getElem? listed)] at expanded
    cases expanded
    exact ⟨pid, there, names, launches⟩

omit [TomlReads] in
/-- A pane that is not that of the entry has another name or runs another command. -/
theorem Wrong.not_imported [TomlCrate] {entry : String × String} {group : Group} (wrong : Wrong entry group.pairs)
    (distinct : (group.pairs.map Prod.fst).Nodup) {fields : PaneSection} (typed : PaneSection.ofToml group.table = .ok fields)
    {pane : ExpandedPane} {sensitive : Bool} (expanded : fields.expand {} = .ok (pane, sensitive))
    (name : pane.name = some entry.1) (launch : pane.launch = .command entry.2) : False := by
  obtain ⟨read, wrong⟩ := wrong
  have texts {key : String} {value : String} (member : (key, value) ∈ group.pairs) :
      ∃ tbl, group.table = .table tbl ∧ tbl.lookup key = some (.string value) ∧
        ∀ key v, tbl.lookup key = some v → ∃ s, v = .string s := by
    obtain ⟨tbl, whole, listed⟩ := lookup_table distinct member
    exact ⟨tbl, whole, listed, table_texts distinct whole⟩
  rcases wrong with ⟨member, unlike⟩ | ⟨member, unlike⟩
  · obtain ⟨tbl, whole, listed, all⟩ := texts member
    rw [whole] at typed
    obtain ⟨names, -, env⟩ := PaneSection.ofToml_texts typed all
    obtain ⟨out, flag, expands, same⟩ := (PaneSection.expand_unset env expanded).1 _ (names _ listed)
    rw [name] at same
    exact unlike out flag expands (congrArg String.toList (Option.some.inj same).symm)
  · obtain ⟨tbl, whole, listed, all⟩ := texts member
    rw [whole] at typed
    obtain ⟨-, commands, env⟩ := PaneSection.ofToml_texts typed all
    obtain ⟨out, flag, expands, same⟩ := (PaneSection.expand_unset env expanded).2 _ (commands _ listed)
    rw [ExpandedPane.launch, same] at launch
    cases launch
    exact unlike _ flag expands rfl

omit [TomlReads] in
theorem Wrong.append {entry : String × String} {pairs : List (String × String)} (wrong : Wrong entry pairs)
    (extra : List (String × String)) : Wrong entry (pairs ++ extra) := by
  obtain ⟨read, wrong⟩ := wrong
  exact ⟨read, wrong.imp (And.imp_left (List.mem_append_left _)) (And.imp_left (List.mem_append_left _))⟩

omit [RatioOps R] [TomlReads] in
/-- As many panes as the layout of the entries has are enough for them. -/
theorem few_of_imported (nonempty : entries ≠ []) {proj : ResolvedProject R}
    (paneIds : proj.layout.paneIds = List.range' 0 (specPanes entries.length)) (imported : Imported proj entries) :
    entries.length ≤ 6 := by
  have positive := List.length_pos_iff.mpr nonempty
  obtain ⟨pid, there, -, -⟩ := imported (entries.length - 1) _ (List.getElem?_eq_getElem (by omega))
  have inside := (List.getElem?_eq_some_iff.mp there).1
  rw [paneIds, List.length_range'] at inside
  exact (specPanes_enough positive).mp (by omega)

/-- Nothing else is loaded as the entries, where nothing is set. -/
theorem plain_of_imported (source : Source) (nonempty : entries ≠ []) (kept : ∀ entry ∈ entries, Entry entry)
    {proj : ResolvedProject R} (loaded : loadProject (String.ofList (projectText source entries)) dir {} = .ok proj)
    (imported : Imported proj entries) : entries.length ≤ 6 ∧ ∀ entry ∈ entries, Plain entry := by
  obtain ⟨⟨config, hooks⟩, parsed, rest⟩ := except_bind_eq_ok.mp loaded
  obtain ⟨proj', resolved, rest⟩ := except_bind_eq_ok.mp rest
  obtain ⟨_, -, same⟩ := except_bind_eq_ok.mp rest
  cases same
  obtain ⟨doc, read, -⟩ := except_bind_eq_ok.mp parsed
  obtain ⟨said, told, defined⟩ := Option.bind_eq_some_iff.mp ((document_iff source kept doc).mp read)
  obtain ⟨panes, rfl, panesTold⟩ := Says.project ⟨_, told⟩
  obtain ⟨inner, rfl⟩ := panesTold.starts nonempty
  obtain ⟨more, tail, opened⟩ := groups_front entries.length [] [] inner
  have workspace := lookup_named defined (opened ▸ List.mem_cons_of_mem _ List.mem_cons_self) rfl
  have array := @lookup_items _ _ defined { header := .item "pane", pairs := [] ++ more } "pane"
    (opened ▸ List.mem_cons_of_mem _ (List.mem_cons_of_mem _ List.mem_cons_self)) rfl
  obtain ⟨⟨ws, typed, configured⟩, sections⟩ := ProjectConfig.parse_ok parsed read workspace array
  obtain ⟨layout, loadedPanes⟩ := loadProjectFrom_pane resolved
  obtain ⟨specLayout, spec, ids⟩ := @layoutSpec_layout R _ entries.length
  have paneIds : proj.layout.paneIds = List.range' 0 (specPanes entries.length) := by
    have sectionRead : ws = { layout := some (layoutSpec entries.length) } := by
      rw [layoutGroup_table] at typed
      exact (Except.ok.inj typed).symm
    rw [resolveLayout, configured, sectionRead] at layout
    have same := spec.symm.trans layout
    rw [← Except.ok.inj same, ids]
  have distinct : proj.layout.paneIds.Nodup := by
    rw [paneIds]
    exact List.nodup_range'
  refine ⟨few_of_imported nonempty paneIds imported, ?_⟩
  rcases panesTold.panes kept with all | ⟨front, entry, back, pairs, later, whole, ⟨wrong, different⟩, said⟩
  · exact all
  exfalso
  -- The first entry that is not plain has its section at its own place.
  obtain ⟨extra, tail, place⟩ := groups_front entries.length front pairs later
  rw [← said] at place
  have whereItems := (congrArg (items · "pane") place).trans (items_panes front entries.length _)
  obtain ⟨fields, listed, paneTyped⟩ := @mapM_ok_get _ _ _ _ _ _ sections front.length
    ({ header := .item "pane", pairs := pairs ++ extra } : Group).table (whereItems ▸ getElem?_after (List.length_map _) _ _)
  have pairsDistinct := (document_some defined).1 { header := .item "pane", pairs := pairs ++ extra }
    (place ▸ List.mem_cons_of_mem _ (List.mem_cons_of_mem _ (List.mem_append_right _ List.mem_cons_self)))
  obtain ⟨pid, pane, sensitive, there, expanded, names, launches⟩ := loadedPanes distinct _ _ listed
  obtain ⟨pid', there', names', launches'⟩ := imported front.length entry (whole ▸ getElem?_after rfl _ _)
  rw [there] at there'
  cases there'
  rw [names'] at names
  rw [launches'] at launches
  have wrongGroup : Wrong entry (pairs ++ extra) := Wrong.append ⟨wrong, different⟩ extra
  exact wrongGroup.not_imported pairsDistinct paneTyped expanded names.symm (Option.some.inj launches).symm

end Load

theorem cmdFrom_some {source : Source} {contents : String} (nonempty : parseProcfile contents.toList ≠ []) :
    cmdFrom source contents = some (String.ofList (projectText source (parseProcfile contents.toList))) := by
  rw [cmdFrom]
  exact if_neg (mt List.isEmpty_iff.mp nonempty)

/-- A Procfile without variables is imported entry by entry, with whatever variables are set, if and only if it has at
most six entries, all of them plain. -/
theorem import_exact_iff {R : Type} [RatioOps R] [TomlReads] (source : Source) (contents : String)
    (nonempty : parseProcfile contents.toList ≠ [])
    (literal : ∀ entry ∈ parseProcfile contents.toList, '$' ∉ entry.1.toList ∧ '$' ∉ entry.2.toList) :
    (∃ text, cmdFrom source contents = some text ∧ ∀ dir base, ∃ proj : ResolvedProject R,
        loadProject text dir base = .ok proj ∧ Imported proj (parseProcfile contents.toList)) ↔
      (parseProcfile contents.toList).length ≤ 6 ∧ ∀ entry ∈ parseProcfile contents.toList, Plain entry := by
  have kept : ∀ entry ∈ parseProcfile contents.toList, Entry entry := fun _ => parseProcfile_entry
  constructor
  · rintro ⟨text, written, imported⟩
    rw [cmdFrom_some nonempty] at written
    cases written
    obtain ⟨proj, loaded, imported⟩ := imported "" {}
    exact plain_of_imported source nonempty kept loaded imported
  · rintro ⟨few, plain⟩
    exact ⟨_, cmdFrom_some nonempty, loadProject_plain source nonempty few kept plain literal⟩

def procfile : Source := ⟨"Procfile".toList, forall_of_all (by decide)⟩

/-- A name with a backslash is not imported. -/
theorem import_backslash :
    ¬∃ text, cmdFrom procfile "a\\b: x" = some text ∧ ∀ dir base, ∃ proj : ResolvedProject ℚ,
      @loadProject TomlReads.simple.toTomlCrate ℚ _ text dir base = .ok proj ∧ Imported proj [("a\\b", "x")] := by
  have entries : parseProcfile "a\\b: x".toList = [("a\\b", "x")] := by decide
  rintro ⟨text, written, imported⟩
  rw [cmdFrom_some (entries ▸ nofun)] at written
  cases written
  obtain ⟨proj, loaded, imported⟩ := imported "" {}
  rw [← entries] at imported
  obtain ⟨-, plain⟩ := @plain_of_imported ℚ _ TomlReads.simple _ _ _ (entries ▸ nofun) (fun _ => parseProcfile_entry) proj loaded
    imported
  rw [entries] at plain
  exact absurd ((plain _ List.mem_cons_self).name '\\' (by decide)).2.1 (by decide)

theorem import_web_worker :
    ∃ text, cmdFrom procfile "web: npm start\nworker: echo \"hi\"" = some text ∧ ∀ dir base, ∃ proj : ResolvedProject ℚ,
      @loadProject TomlReads.simple.toTomlCrate ℚ _ text dir base = .ok proj ∧
        Imported proj [("web", "npm start"), ("worker", "echo \"hi\"")] := by
  have entries : parseProcfile "web: npm start\nworker: echo \"hi\"".toList =
      [("web", "npm start"), ("worker", "echo \"hi\"")] := by decide
  rw [← entries]
  refine (@import_exact_iff ℚ _ TomlReads.simple procfile _ ?_ ?_).mpr ⟨?_, ?_⟩ <;> rw [entries]
  · exact nofun
  · decide
  · decide
  · exact List.forall_mem_cons.mpr ⟨⟨forall_of_all (by decide), forall_of_all (by decide)⟩, List.forall_mem_singleton.mpr ⟨forall_of_all (by decide), forall_of_all (by decide)⟩⟩

end Procfile

end Ezpn
