import Ezpn.BootstrapProperties
import Ezpn.Pane.Osc52

/-!
# How panes change

Most operations change panes one by one. A relation between a pane before and
after lifts to pane maps, and each operation has one lemma a relation.
-/

set_option autoImplicit false

namespace Ezpn

/-- Every pane of the later map continues one of the earlier map under its id. -/
def PaneMap.Evolve {G : Type} (Rel : Pane G → Pane G → Prop) (before after : PaneMap G) : Prop :=
  ∀ (id : Nat) (pane : Pane G), after[id]? = some pane → ∃ old, before[id]? = some old ∧ Rel old pane

namespace PaneMap.Evolve
variable {G : Type} {Rel : Pane G → Pane G → Prop} {panes before mid after : PaneMap G}

theorem refl (same : ∀ pane, Rel pane pane) (panes : PaneMap G) : Evolve Rel panes panes :=
  fun _ pane found => ⟨pane, found, same pane⟩

theorem trans (chain : ∀ a b c, Rel a b → Rel b c → Rel a c) (first : Evolve Rel before mid)
    (second : Evolve Rel mid after) : Evolve Rel before after := by
  intro id pane found
  obtain ⟨between, foundBetween, later⟩ := second id pane found
  obtain ⟨old, foundOld, earlier⟩ := first id between foundBetween
  exact ⟨old, foundOld, chain _ _ _ earlier later⟩

theorem map {f : Nat → Pane G → Pane G} (related : ∀ id pane, Rel pane (f id pane)) :
    Evolve Rel panes (Std.ExtTreeMap.map f panes) := by
  intro id pane found
  rw [Std.ExtTreeMap.getElem?_map] at found
  obtain ⟨old, foundOld, rfl⟩ := Option.map_eq_some_iff.mp found
  exact ⟨old, foundOld, related id old⟩

theorem modify {target : Nat} {f : Pane G → Pane G} (same : ∀ pane, Rel pane pane)
    (related : ∀ pane, panes[target]? = some pane → Rel pane (f pane)) :
    Evolve Rel panes (Std.ExtTreeMap.modify panes target f) := by
  intro id pane found
  rw [IdMap.getElem?_modify] at found
  split at found
  · rename_i here
    obtain ⟨old, foundOld, rfl⟩ := Option.map_eq_some_iff.mp found
    exact ⟨old, foundOld, related old (here ▸ foundOld)⟩
  · exact ⟨pane, found, same pane⟩

theorem insert {target : Nat} {old new : Pane G} (same : ∀ pane, Rel pane pane)
    (found : panes[target]? = some old) (related : Rel old new) :
    Evolve Rel panes (Std.ExtTreeMap.insert panes target new) := by
  intro id pane foundAfter
  rw [IdMap.getElem?_insert] at foundAfter
  split at foundAfter
  · rename_i here
    cases foundAfter
    exact ⟨old, here ▸ found, related⟩
  · exact ⟨pane, foundAfter, same pane⟩

theorem erase {target : Nat} (same : ∀ pane, Rel pane pane) :
    Evolve Rel panes (Std.ExtTreeMap.erase panes target) := by
  intro id pane found
  rw [IdMap.getElem?_erase] at found
  split at found
  · cases found
  · exact ⟨pane, found, same pane⟩

theorem mem {id : Nat} (evolve : Evolve Rel before after) (member : id ∈ after) : id ∈ before := by
  obtain ⟨pane, found⟩ := IdMap.getElem?_of_mem member
  obtain ⟨old, foundOld, _⟩ := evolve id pane found
  exact IdMap.mem_of_getElem? foundOld

theorem weaken {Wider : Pane G → Pane G → Prop} (wider : ∀ a b, Rel a b → Wider a b)
    (evolve : Evolve Rel before after) : Evolve Wider before after := by
  intro id pane found
  obtain ⟨old, foundOld, related⟩ := evolve id pane found
  exact ⟨old, foundOld, wider _ _ related⟩

end PaneMap.Evolve

namespace Pane
variable {G : Type} [Vt100 G]

/-! ## The same process -/

/-- Clipboard sets that wait for an answer came from this process. -/
def AsksForItself (pane : Pane G) : Prop := ∀ e ∈ pane.state.osc52PendingConfirm, e.origin = pane.process

/-- The same process under the same policy, asking for nobody else. -/
structure Continues (pane later : Pane G) : Prop where
  process : later.process = pane.process
  policy : later.clipboardPolicy = pane.clipboardPolicy
  asks : pane.AsksForItself → later.AsksForItself

omit [Vt100 G] in
theorem Continues.refl (pane : Pane G) : pane.Continues pane := ⟨rfl, rfl, id⟩

omit [Vt100 G] in
theorem Continues.trans (a b c : Pane G) (first : a.Continues b) (second : b.Continues c) : a.Continues c :=
  ⟨second.process.trans first.process, second.policy.trans first.policy, fun asks => second.asks (first.asks asks)⟩

theorem readOutput_continues (world : World) (feed : Feed) (pane : Pane G) :
    pane.Continues (pane.readOutput world feed).1 := by
  have process := pane.readOutput_process world feed
  refine ⟨process, pane.readOutput_clipboardPolicy world feed, fun asks e member => ?_⟩
  obtain ⟨added, grown, _, fromChild⟩ := (pane.readOutput_gated world feed).confirm
  rw [process]
  have member : e ∈ pane.state.osc52PendingConfirm ++ added := grown ▸ member
  rcases List.mem_append.mp member with old | new
  · exact asks e old
  · exact (fromChild e new).1

theorem dumpText_continues (includeScrollback : Bool) (pane : Pane G) :
    pane.Continues (pane.dumpText includeScrollback).1 := ⟨rfl, rfl, id⟩

/-! ## The same grid -/

/-- The size of the display is unchanged. -/
def SameGrid (pane later : Pane G) : Prop := Vt100.size later.parser = Vt100.size pane.parser

theorem SameGrid.refl (pane : Pane G) : pane.SameGrid pane := rfl

theorem SameGrid.trans (a b c : Pane G) (first : a.SameGrid b) (second : b.SameGrid c) : a.SameGrid c :=
  Eq.trans second first

section Lawful
variable [LawfulVt100 G]

theorem readOutput_sameGrid (world : World) (feed : Feed) (pane : Pane G) :
    pane.SameGrid (pane.readOutput world feed).1 := by
  have chunks (chunks : List Bytes) (pane : Pane G) :
      pane.SameGrid (chunks.foldl (fun pane chunk => pane.readChunk world chunk) pane) := by
    induction chunks generalizing pane with
    | nil => exact SameGrid.refl pane
    | cons chunk rest ih =>
        refine SameGrid.trans _ _ _ ?_ (ih (pane.readChunk world chunk))
        exact (LawfulVt100.size_process _ _).trans (LawfulVt100.size_setScrollback _ _)
  exact chunks (feed.chunks.take maxDrain) pane

theorem setScrollbackBudget_sameGrid (byteBudget : Nat) (pane : Pane G) :
    pane.SameGrid (pane.setScrollbackBudget byteBudget) := by
  simp only [setScrollbackBudget]
  split
  · exact SameGrid.refl pane
  · exact LawfulVt100.size_new _ _ _

private theorem size_dumpHistory (rows fuel offset : Nat) (grid : G) :
    Vt100.size (dumpHistory rows fuel offset grid).1 = Vt100.size grid := by
  induction fuel generalizing offset grid with
  | zero => rfl
  | succ fuel ih =>
      simp only [dumpHistory]
      split
      · rfl
      · exact (ih _ _).trans (LawfulVt100.size_setScrollback _ _)

theorem dumpText_sameGrid (includeScrollback : Bool) (pane : Pane G) :
    pane.SameGrid (pane.dumpText includeScrollback).1 := by
  simp only [SameGrid, dumpText]
  rw [LawfulVt100.size_setScrollback, LawfulVt100.size_setScrollback]
  cases includeScrollback with
  | false => rfl
  | true =>
      change Vt100.size (dumpHistory _ _ _ _).1 = _
      rw [size_dumpHistory, LawfulVt100.size_setScrollback, LawfulVt100.size_setScrollback]

theorem restoreScrollback_sameGrid (rows : List String) (pane : Pane G) :
    pane.SameGrid (pane.restoreScrollback rows) := by
  have typed (cs : List Char) (grid : G) :
      Vt100.size (cs.foldl (fun grid c => Vt100.process (String.singleton c).toUTF8.data.toList grid) grid) =
        Vt100.size grid := by
    induction cs generalizing grid with
    | nil => rfl
    | cons c cs ih => exact (ih _).trans (LawfulVt100.size_process _ _)
  have replayed (cols : Nat) (rows : List String) (grid : G) :
      Vt100.size (rows.foldl (fun grid text => Vt100.process (ascii "\r\n") ((fitRow G cols 0 text.toList).foldl
        (fun grid c => Vt100.process (String.singleton c).toUTF8.data.toList grid) grid)) grid) = Vt100.size grid := by
    induction rows generalizing grid with
    | nil => rfl
    | cons row rows ih => exact (ih _).trans ((LawfulVt100.size_process _ _).trans (typed _ _))
  simp only [restoreScrollback]
  split
  · exact SameGrid.refl pane
  · exact replayed _ _ _

theorem resize_fits {world : World} {pane : Pane G} (succeeds : world.resizeFails pane.process = false)
    (rect : Rect) : (pane.resize world (max rect.w 1) (max rect.h 1)).FitsRect rect := by
  have wide : max rect.w 1 ≠ 0 := by omega
  have high : max rect.h 1 ≠ 0 := by omega
  simp only [resize, wide, high, decide_false, Bool.or_self, Bool.false_eq_true, if_false, succeeds]
  split
  · assumption
  · exact LawfulVt100.size_setSize _ _ _

theorem spawnInner_fits {world : World} {attempt : Nat} {shell : String} {launch : PaneLaunch} {rect : Rect}
    {scrollback : Nat} {cwd : Option String} {env : EnvMap} {pane : Pane G}
    (started : Pane.spawnInner world attempt shell launch (max rect.w 1) (max rect.h 1) scrollback cwd env =
      .ok pane) : pane.FitsRect rect := by
  rw [Pane.spawnInner_ok started]
  exact LawfulVt100.size_new _ _ _

end Lawful

end Pane

end Ezpn
