import Ezpn.Layout.Geometry
import Ezpn.Lib.Machine
import Mathlib.Data.List.Chain

/-!
# Focus reports

A pane that asks for focus reports gets one when the loop finds at its top that
another pane has become the active one, and when the terminal of the client says that
it has gained or lost the focus itself. The last report to a pane says that it has the
focus if it is the pane the loop took for the active one when it last compared, and the
terminal has the focus. Leaving and entering tabs tells nobody, and a report of the
terminal goes to the active pane whether the loop has seen it or not.
-/

set_option autoImplicit false

namespace Ezpn.Focus

/-- A pane, with the reports written to it: whether the focus was gained. -/
structure FocusPane where
  alive : Bool := true
  focusReporting : Bool := false
  reports : List Bool := []
  deriving DecidableEq

/-- What output and exits change. -/
inductive Output where
  /-- private mode 1004 is set or reset -/
  | mode (on : Bool)
  | exited

namespace FocusPane

/-- The pane is alive and wants focus events. -/
def listens (pane : FocusPane) : Bool := pane.alive && pane.focusReporting

/-- It has been given one. -/
def told (pane : FocusPane) : Bool := pane.listens && !pane.reports.isEmpty

def report (gained : Bool) (pane : FocusPane) : FocusPane :=
  if pane.listens then { pane with reports := pane.reports ++ [gained] } else pane

def read (pane : FocusPane) : Output → FocusPane
  | .mode on => { pane with focusReporting := on }
  | .exited => { pane with alive := false }

end FocusPane

def freshPanes (ids : List Nat) : IdMap FocusPane := ids.foldl (fun panes id => panes.insert id {}) ∅

structure FocusTab where
  panes : IdMap FocusPane
  activePane : Nat

structure FocusLoop where
  panes : IdMap FocusPane
  active : Nat
  prevActive : Nat := active
  /-- the other tabs, in no particular order -/
  stored : List FocusTab := []
  /-- what the client's terminal has said last about its focus; at first it has it -/
  terminal : Bool := true

inductive Move where
  /-- the comparison at the top of the loop -/
  | synthesize
  | read (id : Nat) (output : Output)
  | readStored (tab id : Nat) (output : Output)
  /-- `FocusGained` or `FocusLost` from the client -/
  | event (gained : Bool)
  | focus (id : Nat)
  /-- split, restart, respawn or replacement -/
  | spawn (id : Nat)
  | spawnStored (tab id : Nat)
  | close (id : Nat)
  | newTab (id : Nat)
  /-- its pane cannot be spawned, and another tab than the one that was left is restored -/
  | newTabFailed (restored : Nat)
  | goToTab (tab : Nat)
  /-- by the user, or because all its panes are dead -/
  | closeTab (next : Nat)
  | load (panes : List Nat) (active : Nat) (stored : List (List Nat × Nat))

namespace FocusLoop

def tab (s : FocusLoop) : FocusTab := { panes := s.panes, activePane := s.active }

def report (s : FocusLoop) (id : Nat) (gained : Bool) : FocusLoop := { s with panes := s.panes.modify id (·.report gained) }

/-- Unpack a tab; its active pane becomes the previous one as well. -/
def enter (s : FocusLoop) (entered : FocusTab) (stored : List FocusTab) : FocusLoop :=
  { s with panes := entered.panes, active := entered.activePane, prevActive := entered.activePane, stored }

def modifyStored (s : FocusLoop) (tab : Nat) (f : IdMap FocusPane → IdMap FocusPane) : FocusLoop :=
  { s with stored := s.stored.modify tab fun t => { t with panes := f t.panes } }

def step (s : FocusLoop) : Move → FocusLoop
  | .synthesize =>
      if s.active = s.prevActive then s
      else { (s.report s.prevActive false).report s.active true with prevActive := s.active }
  | .read id output => { s with panes := s.panes.modify id (·.read output) }
  | .readStored tab id output => s.modifyStored tab fun panes => panes.modify id (·.read output)
  | .event gained => { s.report s.active gained with terminal := gained }
  | .focus id => { s with active := id }
  | .spawn id => { s with panes := s.panes.insert id {} }
  | .spawnStored tab id => s.modifyStored tab fun panes => panes.insert id {}
  | .close id => { s with panes := s.panes.erase id }
  | .newTab id => s.enter { panes := freshPanes [id], activePane := id } (s.tab :: s.stored)
  | .newTabFailed tab =>
      match s.stored[tab]? with
      | none => s
      -- `prev_active` stays that of the tab that was left
      | some restored => { s.enter restored (s.stored.set tab s.tab) with prevActive := s.prevActive }
  | .goToTab tab =>
      match s.stored[tab]? with
      | none => s
      | some entered => s.enter entered (s.stored.set tab s.tab)
  | .closeTab next =>
      match s.stored[next]? with
      | none => s
      | some entered => s.enter entered (s.stored.eraseIdx next)
  | .load panes active stored =>
      s.enter { panes := freshPanes panes, activePane := active }
        (stored.map fun (ids, activePane) => { panes := freshPanes ids, activePane })

end FocusLoop

/-! ## One pane -/

namespace FocusPane
variable {pane : FocusPane} {focused gained : Bool}

/-- The reports alternate, and the last one says whether the pane has the focus. -/
structure Tells (pane : FocusPane) (focused : Bool) : Prop where
  alternate : pane.reports.IsChain (· ≠ ·)
  last : pane.told = true → pane.reports.getLast? = some focused

theorem Tells.fresh (focused : Bool) : ({} : FocusPane).Tells focused where
  alternate := .nil
  last told := by cases told

/-- A pane without reports tells nothing wrong. -/
theorem Tells.untold (tells : pane.Tells focused) (untold : pane.told = false) (focused' : Bool) : pane.Tells focused' where
  alternate := tells.alternate
  last told := by
    rw [untold] at told
    cases told

theorem told_of_reports (listens : pane.listens = true) (some : pane.reports ≠ []) : pane.told = true := by
  simp [told, listens, some]

theorem untold_of_deaf (deaf : pane.listens = false) : pane.told = false := by
  simp [told, deaf]

theorem report_of_deaf (deaf : pane.listens = false) : pane.report gained = pane := by
  simp [report, deaf]

theorem Tells.report (tells : pane.Tells focused) (changes : pane.told = true → gained ≠ focused) :
    (pane.report gained).Tells gained := by
  cases listens : pane.listens with
  | false =>
      rw [report_of_deaf listens]
      exact tells.untold (untold_of_deaf listens) gained
  | true =>
      rw [FocusPane.report, if_pos listens]
      refine ⟨List.IsChain.append tells.alternate (List.isChain_singleton _) ?_, fun _ => List.getLast?_concat⟩
      intro last isLast first isFirst
      have some : pane.reports ≠ [] := by
        intro none
        rw [none] at isLast
        cases isLast
      have told := told_of_reports listens some
      have same : last = focused := Option.some.inj (isLast.symm.trans (tells.last told))
      have here : gained = first := Option.some.inj isFirst
      rw [same, ← here]
      exact fun equal => changes told equal.symm

/-- A pane that asks again for reports has been told nothing yet, or what still holds. -/
def resumes (focused : Bool) (pane : FocusPane) : Bool :=
  pane.focusReporting || pane.reports.isEmpty || decide (pane.reports.getLast? = some focused)

theorem Tells.read (tells : pane.Tells focused) {output : Output}
    (resumes : output = .mode true → pane.resumes focused = true) : (pane.read output).Tells focused := by
  have same : (pane.read output).reports = pane.reports := by cases output <;> rfl
  refine ⟨same ▸ tells.alternate, fun told => ?_⟩
  cases output with
  | mode on =>
      simp only [FocusPane.told, listens, FocusPane.read, Bool.and_eq_true, Bool.not_eq_true'] at told
      obtain ⟨⟨alive, rfl⟩, some⟩ := told
      have resumes := resumes rfl
      simp only [FocusPane.resumes, some, Bool.or_false, Bool.or_eq_true, decide_eq_true_eq] at resumes
      rcases resumes with reporting | same
      · exact tells.last (by simp [FocusPane.told, listens, alive, reporting, some])
      · exact same
  | exited => simp [FocusPane.read, FocusPane.told, listens] at told

end FocusPane

/-! ## The loop -/

def toldAt (panes : IdMap FocusPane) (id : Nat) : Bool := panes[id]?.any (·.told)

def listensAt (panes : IdMap FocusPane) (id : Nat) : Bool := panes[id]?.any (·.listens)

namespace FocusLoop
variable {s : FocusLoop}

/-- Nobody is told something wrong, or fails to be told, that has been told before. -/
def Fair (s : FocusLoop) : Move → Prop
  -- the terminal has the focus, or neither pane minds
  | .synthesize =>
      s.active ≠ s.prevActive → s.terminal = false → toldAt s.panes s.prevActive = false ∧ listensAt s.panes s.active = false
  -- the loop has seen which pane is active, and the event is news
  | .event gained =>
      if s.active = s.prevActive then gained = s.terminal → toldAt s.panes s.active = false
      else listensAt s.panes s.prevActive = false ∧ listensAt s.panes s.active = false
  -- the panes that are left and entered without a report
  | .newTab _ => s.terminal = true → toldAt s.panes s.prevActive = false
  | .newTabFailed tab =>
      s.terminal = true → toldAt s.panes s.prevActive = false ∧
        (s.stored[tab]?.any fun restored => toldAt restored.panes s.prevActive) = false
  | .goToTab tab =>
      s.terminal = true → toldAt s.panes s.prevActive = false ∧
        (s.stored[tab]?.any fun entered => toldAt entered.panes entered.activePane) = false
  | .closeTab next =>
      s.terminal = true → (s.stored[next]?.any fun entered => toldAt entered.panes entered.activePane) = false
  -- a pane that asks again has not missed anything
  | .read id (.mode true) => s.panes[id]?.all (·.resumes (decide (id = s.prevActive) && s.terminal)) = true
  | .readStored tab id (.mode true) => (s.stored[tab]?.bind (·.panes[id]?)).all (·.resumes false) = true
  | _ => True

instance (s : FocusLoop) : (move : Move) → Decidable (s.Fair move)
  | .synthesize => inferInstanceAs (Decidable (_ → _ → _ ∧ _))
  | .event gained =>
      inferInstanceAs (Decidable (if s.active = s.prevActive then gained = s.terminal → toldAt s.panes s.active = false
        else listensAt s.panes s.prevActive = false ∧ listensAt s.panes s.active = false))
  | .newTab _ => inferInstanceAs (Decidable (_ → _))
  | .newTabFailed _ => inferInstanceAs (Decidable (_ → _ ∧ _))
  | .goToTab _ => inferInstanceAs (Decidable (_ → _ ∧ _))
  | .closeTab _ => inferInstanceAs (Decidable (_ → _))
  | .read _ (.mode true) | .readStored _ _ (.mode true) => inferInstanceAs (Decidable (_ = true))
  | .read _ (.mode false) | .read _ .exited | .readStored _ _ (.mode false) | .readStored _ _ .exited | .focus _ | .spawn _
  | .spawnStored _ _ | .close _ | .load _ _ _ => inferInstanceAs (Decidable True)

/-- What each pane has been told last is so, if the loop has seen which pane is active. -/
structure Sound (s : FocusLoop) : Prop where
  here : ∀ (id : Nat) (pane : FocusPane), s.panes[id]? = some pane → pane.Tells (decide (id = s.prevActive) && s.terminal)
  away : ∀ tab ∈ s.stored, ∀ (id : Nat) (pane : FocusPane), tab.panes[id]? = some pane → pane.Tells false

theorem modified {panes : IdMap FocusPane} {id other : Nat} {f : FocusPane → FocusPane} {pane : FocusPane}
    (found : (panes.modify id f)[other]? = some pane) :
    ∃ before, panes[other]? = some before ∧ pane = if other = id then f before else before := by
  rw [IdMap.getElem?_modify] at found
  split at found
  · rename_i same
    obtain ⟨before, had, rfl⟩ := Option.map_eq_some_iff.mp found
    exact ⟨before, had, (if_pos same).symm⟩
  · rename_i different
    exact ⟨pane, found, (if_neg different).symm⟩

theorem untold_of_toldAt {panes : IdMap FocusPane} {id : Nat} {pane : FocusPane} (untold : toldAt panes id = false)
    (found : panes[id]? = some pane) : pane.told = false := by
  simpa [toldAt, found] using untold

theorem deaf_of_listensAt {panes : IdMap FocusPane} {id : Nat} {pane : FocusPane} (deaf : listensAt panes id = false)
    (found : panes[id]? = some pane) : pane.listens = false := by
  simpa [listensAt, found] using deaf

theorem fresh_of_freshPanes {ids : List Nat} {id : Nat} {pane : FocusPane} (found : (freshPanes ids)[id]? = some pane) :
    pane = {} :=
  IdMap.value_of_inserts ids ∅ (fun id pane found => by simp at found) found

theorem freshPanes_tells (ids : List Nat) (id : Nat) (pane : FocusPane) (found : (freshPanes ids)[id]? = some pane) :
    pane.Tells false := by
  rw [fresh_of_freshPanes found]
  exact .fresh false

theorem untold_freshPanes (ids : List Nat) (id : Nat) : toldAt (freshPanes ids) id = false := by
  rw [toldAt]
  cases found : (freshPanes ids)[id]? with
  | none => rfl
  | some pane =>
      rw [fresh_of_freshPanes found]
      rfl

theorem Sound.modifyStored (sound : s.Sound) {tab : Nat} {f : IdMap FocusPane → IdMap FocusPane}
    (kept : ∀ t, s.stored[tab]? = some t → ∀ (id : Nat) (pane : FocusPane), (f t.panes)[id]? = some pane → pane.Tells false) :
    (s.modifyStored tab f).Sound where
  here := sound.here
  away t member := by
    obtain ⟨position, found⟩ := List.mem_iff_getElem?.mp member
    simp only [FocusLoop.modifyStored, List.getElem?_modify] at found
    obtain ⟨before, had, rfl⟩ := Option.map_eq_some_iff.mp found
    split
    · rename_i same
      exact kept before (same ▸ had)
    · exact sound.away before (List.mem_of_getElem? had)

/-- Panes of the tab that is left have been told that they do not have the focus. -/
theorem Sound.left (sound : s.Sound) (untold : s.terminal = true → toldAt s.panes s.prevActive = false) (id : Nat)
    (pane : FocusPane) (found : s.panes[id]? = some pane) : pane.Tells false := by
  have tells := sound.here id pane found
  by_cases previous : id = s.prevActive
  · cases terminal : s.terminal with
    | false => rwa [terminal, Bool.and_false] at tells
    | true => exact tells.untold (untold_of_toldAt (untold terminal) (previous ▸ found)) false
  · rwa [decide_eq_false previous, Bool.false_and] at tells

theorem Sound.enter {entered : FocusTab} {stored : List FocusTab} {prev : Nat}
    (inTab : ∀ (id : Nat) (pane : FocusPane), entered.panes[id]? = some pane → pane.Tells false)
    (untold : s.terminal = true → toldAt entered.panes prev = false)
    (away : ∀ tab ∈ stored, ∀ (id : Nat) (pane : FocusPane), tab.panes[id]? = some pane → pane.Tells false) :
    ({ s.enter entered stored with prevActive := prev } : FocusLoop).Sound where
  here id pane found := by
    have tells := inTab id pane found
    by_cases previous : id = prev
    · cases terminal : s.terminal with
      | false =>
          simp only [FocusLoop.enter, terminal, Bool.and_false]
          exact tells
      | true => exact tells.untold (untold_of_toldAt (untold terminal) (previous ▸ found)) _
    · simp only [decide_eq_false previous, Bool.false_and]
      exact tells
  away := away

theorem Sound.synthesize (sound : s.Sound) (changed : s.active ≠ s.prevActive)
    (fair : s.terminal = false → toldAt s.panes s.prevActive = false ∧ listensAt s.panes s.active = false) :
    ({ (s.report s.prevActive false).report s.active true with prevActive := s.active } : FocusLoop).Sound where
  here id pane found := by
    obtain ⟨middle, there, rfl⟩ := modified found
    obtain ⟨before, had, rfl⟩ := modified there
    have tells := sound.here id before had
    by_cases entered : id = s.active
    · have other : ¬id = s.prevActive := entered ▸ changed
      rw [if_pos entered, if_neg other]
      rw [decide_eq_false other, Bool.false_and] at tells
      simp only [FocusLoop.report, decide_eq_true entered, Bool.true_and]
      cases terminal : s.terminal with
      | true => exact tells.report fun _ => Bool.false_ne_true.symm
      | false =>
          have deaf := deaf_of_listensAt (fair terminal).2 (entered ▸ had)
          rw [FocusPane.report_of_deaf deaf]
          exact tells
    · rw [if_neg entered]
      simp only [FocusLoop.report, decide_eq_false entered, Bool.false_and]
      by_cases left : id = s.prevActive
      · rw [if_pos left]
        rw [decide_eq_true left, Bool.true_and] at tells
        refine tells.report fun told same => ?_
        rw [untold_of_toldAt (fair same.symm).1 (left ▸ had)] at told
        cases told
      · rw [if_neg left]
        rwa [decide_eq_false left, Bool.false_and] at tells
  away := sound.away

theorem Sound.event (sound : s.Sound) {gained : Bool} (fair : s.Fair (.event gained)) :
    ({ s.report s.active gained with terminal := gained } : FocusLoop).Sound where
  here id pane found := by
    obtain ⟨before, had, rfl⟩ := modified found
    have tells := sound.here id before had
    change FocusPane.Tells _ (decide (id = s.prevActive) && gained)
    simp only [Fair] at fair
    by_cases seen : s.active = s.prevActive
    · rw [if_pos seen] at fair
      rw [← seen] at tells ⊢
      by_cases here : id = s.active
      · rw [if_pos here]
        rw [decide_eq_true here, Bool.true_and] at tells ⊢
        refine tells.report fun told same => ?_
        rw [untold_of_toldAt (fair same) (here ▸ had)] at told
        cases told
      · rw [if_neg here]
        rw [decide_eq_false here, Bool.false_and] at tells ⊢
        exact tells
    · rw [if_neg seen] at fair
      by_cases here : id = s.active
      · rw [if_pos here, FocusPane.report_of_deaf (deaf_of_listensAt fair.2 (here ▸ had))]
        have other : ¬id = s.prevActive := here ▸ seen
        rw [decide_eq_false other, Bool.false_and] at tells ⊢
        exact tells
      · rw [if_neg here]
        by_cases previous : id = s.prevActive
        · exact tells.untold (FocusPane.untold_of_deaf (deaf_of_listensAt fair.1 (previous ▸ had))) _
        · rw [decide_eq_false previous, Bool.false_and] at tells ⊢
          exact tells
  away := sound.away

theorem Sound.set_left (sound : s.Sound) (untold : s.terminal = true → toldAt s.panes s.prevActive = false) (position : Nat) :
    ∀ tab ∈ s.stored.set position s.tab, ∀ (id : Nat) (pane : FocusPane), tab.panes[id]? = some pane → pane.Tells false := by
  intro tab member
  rcases List.mem_or_eq_of_mem_set member with old | rfl
  · exact sound.away tab old
  · exact sound.left untold

theorem Sound.step (sound : s.Sound) (move : Move) (fair : s.Fair move) : (s.step move).Sound := by
  cases move with
  | synthesize =>
      simp only [FocusLoop.step]
      split
      · exact sound
      · rename_i changed
        exact sound.synthesize changed (fair changed)
  | read id output =>
      refine ⟨fun other pane found => ?_, sound.away⟩
      obtain ⟨before, had, rfl⟩ := modified found
      have tells := sound.here other before had
      split
      · rename_i same
        refine tells.read fun asks => ?_
        rw [asks] at fair
        simp only [Fair, ← same, had, Option.all_some] at fair
        exact fair
      · exact tells
  | readStored tab id output =>
      simp only [FocusLoop.step]
      refine sound.modifyStored fun t there other pane found => ?_
      obtain ⟨before, had, rfl⟩ := modified found
      have tells := sound.away t (List.mem_of_getElem? there) other before had
      split
      · rename_i same
        refine tells.read fun asks => ?_
        rw [asks] at fair
        simp only [Fair, ← same, there, had, Option.bind_some, Option.all_some] at fair
        exact fair
      · exact tells
  | event gained => exact sound.event fair
  | focus id => exact ⟨sound.here, sound.away⟩
  | spawn id =>
      refine ⟨fun other pane found => ?_, sound.away⟩
      simp only [FocusLoop.step, IdMap.getElem?_insert] at found
      split at found
      · rw [← Option.some.inj found]
        exact .fresh _
      · exact sound.here other pane found
  | spawnStored tab id =>
      simp only [FocusLoop.step]
      refine sound.modifyStored fun t there other pane found => ?_
      rw [IdMap.getElem?_insert] at found
      split at found
      · rw [← Option.some.inj found]
        exact .fresh false
      · exact sound.away t (List.mem_of_getElem? there) other pane found
  | close id =>
      refine ⟨fun other pane found => ?_, sound.away⟩
      simp only [FocusLoop.step, IdMap.getElem?_erase] at found
      split at found
      · cases found
      · exact sound.here other pane found
  | newTab id =>
      have left : ∀ (id : Nat) (pane : FocusPane), s.tab.panes[id]? = some pane → pane.Tells false := sound.left fair
      have away := List.forall_mem_cons.mpr ⟨left, sound.away⟩
      exact @Sound.enter s { panes := freshPanes [id], activePane := id } _ id (freshPanes_tells [id])
        (fun _ => untold_freshPanes [id] id) away
  | newTabFailed tab =>
      simp only [FocusLoop.step]
      split
      · exact sound
      · rename_i restored found
        simp only [Fair, found, Option.any_some] at fair
        exact Sound.enter (sound.away restored (List.mem_of_getElem? found)) (fun terminal => (fair terminal).2)
          (sound.set_left (fun terminal => (fair terminal).1) tab)
  | goToTab tab =>
      simp only [FocusLoop.step]
      split
      · exact sound
      · rename_i entered found
        simp only [Fair, found, Option.any_some] at fair
        exact Sound.enter (sound.away entered (List.mem_of_getElem? found)) (fun terminal => (fair terminal).2)
          (sound.set_left (fun terminal => (fair terminal).1) tab)
  | closeTab next =>
      simp only [FocusLoop.step]
      split
      · exact sound
      · rename_i entered found
        simp only [Fair, found, Option.any_some] at fair
        exact Sound.enter (sound.away entered (List.mem_of_getElem? found)) fair
          fun tab member => sound.away tab (List.mem_of_mem_eraseIdx member)
  | load panes active stored =>
      refine @Sound.enter s { panes := freshPanes panes, activePane := active } _ active (freshPanes_tells panes)
        (fun _ => untold_freshPanes panes active) fun tab member => ?_
      obtain ⟨entry, _, rfl⟩ := List.mem_map.mp member
      exact freshPanes_tells entry.1

/-! ## Whole runs -/

/-- The panes of a tab have been told the truth: only the given one has the focus. -/
def TruthIn (panes : IdMap FocusPane) (focused : Nat → Bool) : Prop :=
  ∀ (id : Nat) (pane : FocusPane), panes[id]? = some pane → pane.told = true → pane.reports.getLast? = some (focused id)

/-- Reports alternate, and once the loop has seen which pane is active, the last report to a pane
says that it has the focus exactly if it is the active pane of the active tab and the terminal has it. -/
structure Truthful (s : FocusLoop) : Prop where
  alternate : ∀ tab ∈ s.tab :: s.stored, ∀ (id : Nat) (pane : FocusPane), tab.panes[id]? = some pane → pane.told = true →
    pane.reports.IsChain (· ≠ ·)
  here : s.active = s.prevActive → TruthIn s.panes fun id => decide (id = s.active) && s.terminal
  away : s.active = s.prevActive → ∀ tab ∈ s.stored, TruthIn tab.panes fun _ => false

theorem Sound.truthful (sound : s.Sound) : s.Truthful where
  alternate := by
    refine List.forall_mem_cons.mpr ⟨fun id pane found _ => (sound.here id pane found).alternate, ?_⟩
    exact fun tab member id pane found _ => (sound.away tab member id pane found).alternate
  here seen id pane found told := by
    rw [seen]
    exact (sound.here id pane found).last told
  away _ tab member id pane found told := (sound.away tab member id pane found).last told

/-- No pane has been told anything yet. -/
structure Start (s : FocusLoop) : Prop where
  seen : s.prevActive = s.active
  terminal : s.terminal = true
  untold : ∀ tab ∈ s.tab :: s.stored, ∀ (id : Nat) (pane : FocusPane), tab.panes[id]? = some pane → pane.reports = []

theorem Start.sound (start : s.Start) : s.Sound := by
  have tells {tab : FocusTab} (member : tab ∈ s.tab :: s.stored) {id : Nat} {pane : FocusPane}
      (found : tab.panes[id]? = some pane) (focused : Bool) : pane.Tells focused := by
    have none := start.untold tab member id pane found
    exact ⟨none ▸ .nil, fun told => by simp [FocusPane.told, none] at told⟩
  exact ⟨fun id pane found => tells List.mem_cons_self found _,
    fun tab member id pane found => tells (List.mem_cons_of_mem _ member) found _⟩

/-- In every run whose steps are fair, every pane has been told the truth in every state. -/
theorem truthful_of_fair {start : FocusLoop} (starts : start.Start) (run : Machine.Run FocusLoop.step Fair start s) :
    s.Truthful := by
  have sound : s.Sound :=
    @Machine.Run.invariant _ _ _ _ FocusLoop.Sound (fun _ move sound fair => sound.step move fair) _ _ starts.sound run
  exact sound.truthful

/-- Two panes in one tab, both of which want focus events. -/
def pair : FocusLoop :=
  { panes := ((∅ : IdMap FocusPane).insert 0 { focusReporting := true }).insert 1 { focusReporting := true }, active := 0 }

theorem pair_start : pair.Start where
  seen := rfl
  terminal := rfl
  untold tab member id pane found := by
    rw [List.mem_singleton.mp member] at found
    simp only [FocusLoop.tab, pair, IdMap.getElem?_insert] at found
    split at found
    · rw [← Option.some.inj found]
    · split at found
      · rw [← Option.some.inj found]
      · simp at found

theorem truthful_pair :
    (([.event false, .event true, .focus 1, .synthesize, .event false] : List Move).foldl FocusLoop.step pair).Truthful := by
  have run := @Machine.Run.start _ _ FocusLoop.step Fair pair
  have run := (run.step (.event false) (by decide +kernel)).step (.event true) (by decide +kernel)
  have run := (run.step (.focus 1) trivial).step .synthesize (by decide +kernel)
  exact truthful_of_fair pair_start (run.step (.event false) (by decide +kernel))

/-- A pane that the user leaves for a new tab still believes that it has the focus. -/
theorem left_tab_untold :
    ¬∀ start s, start.Start → Machine.Run FocusLoop.step (fun _ _ => True) start s → s.Truthful := by
  intro truthful
  have truth := truthful pair _ pair_start (.of_labels FocusLoop.step pair [.event false, .event true, .newTab 0])
  have told := truth.away rfl _ List.mem_cons_self 0
    { focusReporting := true, reports := [false, true] } (by decide +kernel) (by decide)
  exact absurd told (by decide)

end FocusLoop

end Ezpn.Focus
