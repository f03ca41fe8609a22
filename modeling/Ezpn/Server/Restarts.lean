import Ezpn.Lib.Retries
import Ezpn.Server.Geometry
import Ezpn.Server.Loop
import Ezpn.Session.Restarts

/-!
# Restart budget and death

A tab between passes over its dead panes: exits, respawns and every other change
but to the ledger of attempts. The ledger is pruned by time and kept across manual
respawns; a log of all attempts says what it stands for. Two conditions must agree:
the tab is declared dead exactly when no later pass can bring a pane back.
-/

set_option autoImplicit false

namespace Ezpn

open Retries (Event streak lastAttempt)

/-! ## Runs of a tab -/

/-- What a pass reads besides the tab. -/
structure RestartPass where
  world : World
  spawns : Nat
  shell : String
  tw : Nat
  th : Nat
  settings : Settings
  scrollback : Nat

/-- A tab with the time of its last pass, and the attempts made for its panes. -/
structure WatchedTab (R G : Type) where
  tab : Tab R G
  clock : Nat
  log : List (Event Nat)

inductive TabStep (R G : Type) where
  | restart (pass : RestartPass)
  /-- anything else that happens to the tab, except for its ledger -/
  | change (next : Tab R G)

section Tab
variable {R G : Type} [RatioOps R] [Vt100 G]

def Tab.restarting (pass : RestartPass) (tab : Tab R G) : Restarts G :=
  restartPanes pass.world pass.spawns tab.panes tab.layout tab.restartPolicies tab.restartState pass.shell
    pass.tw pass.th pass.settings pass.scrollback

def Tab.restart (pass : RestartPass) (tab : Tab R G) : Tab R G :=
  { tab with panes := (tab.restarting pass).panes, restartState := (tab.restarting pass).state }

omit [RatioOps R] [Vt100 G] in
def Tab.attempts (now : Nat) (tab : Tab R G) : List Nat :=
  restartAttempts now tab.panes tab.restartPolicies tab.restartState

theorem Tab.restarting_spec (pass : RestartPass) (tab : Tab R G) :
    RestartsOf pass.world tab.panes tab.layout tab.restartPolicies tab.restartState (tab.restarting pass) :=
  restartPanes_spec _ _ _ _ _ _ _ _ _ _ _

/-- The server's passes over the active tab. -/
theorem Core.restarting_eq (world : World) (c : Core R G) :
    c.restarting world = c.session.tab.restarting
      { world, spawns := c.session.spawns, shell := c.session.shell, tw := c.session.tw, th := c.session.th
        settings := c.session.settings, scrollback := c.session.scrollback } := rfl

end Tab

namespace WatchedTab
variable {R G : Type}

/-- Panes that a pass finds running, 30 seconds after the last attempt for them. -/
def rests (now : Nat) (s : WatchedTab R G) : List Nat :=
  s.tab.panes.keys.filter fun id =>
    (s.tab.panes[id]?).any (·.alive) && (lastAttempt id s.log).any (· + 30000 ≤ now)

/-- Panes that the next state of the tab lacks. -/
def leaving (next : Tab R G) (s : WatchedTab R G) : List Nat :=
  s.tab.panes.keys.filter fun id => !next.panes.contains id

variable [RatioOps R] [Vt100 G]

def step (s : WatchedTab R G) : TabStep R G → WatchedTab R G
  | .restart pass =>
      { tab := s.tab.restart pass
        clock := pass.world.now
        log := Retries.attemptAll pass.world.now (s.tab.attempts pass.world.now)
          ((s.rests pass.world.now).map .rested ++ s.log) }
  | .change next =>
      { tab := { next with restartState := s.tab.restartState }
        clock := s.clock
        log := (s.leaving next).map .gone ++ s.log }

omit [RatioOps R] [Vt100 G] in
/-- Time does not go back, and every pane has its place in the layout. -/
def Allowed (s : WatchedTab R G) : TabStep R G → Prop
  | .restart pass => s.clock ≤ pass.world.now
  | .change next => next.Placed

omit [RatioOps R] [Vt100 G] in
/-- Passes alone. -/
def Passes (s : WatchedTab R G) : TabStep R G → Prop
  | .restart pass => s.clock ≤ pass.world.now
  | .change _ => False

/-- No later pass, however late, restarts a pane. -/
def NeverRestarts (s : WatchedTab R G) : Prop :=
  ∀ later, Machine.Run step Passes s later → ∀ pass : RestartPass, later.clock ≤ pass.world.now →
    (later.tab.restarting pass).restarted = []

omit [RatioOps R] [Vt100 G] in
/-- A tab for whose panes no attempt was made. -/
structure Fresh (s : WatchedTab R G) : Prop where
  placed : s.tab.Placed
  ledger : s.tab.restartState = ∅
  log : s.log = []

/-! ## What the ledger stands for -/

end WatchedTab

/-- The entry of a pane says when its last attempt was made, and how many there were since it
was renewed; a pane without an entry was never attempted or has rested. -/
def LedgerAgrees (state : RestartState) (clock : Nat) (log : List (Event Nat)) (id : Nat) : Prop :=
  match state[id]? with
  | some (started, attempts) => streak id log ≤ attempts ∧ ∀ last ∈ lastAttempt id log, (last : Int) = started
  | none => streak id log = 0 ∧ ∀ last ∈ lastAttempt id log, last + 30000 ≤ clock

section Ledger
variable {state : RestartState} {clock now : Nat} {log : List (Event Nat)} {id : Nat}

theorem LedgerAgrees.of_same {next : RestartState} {later : List (Event Nat)} (agrees : LedgerAgrees state clock log id)
    (entry : next[id]? = state[id]?) (streaks : streak id later = streak id log)
    (lasts : lastAttempt id later = lastAttempt id log) : LedgerAgrees next clock later id := by
  unfold LedgerAgrees at agrees ⊢
  rw [entry, streaks, lasts]
  exact agrees

theorem restartDelay_mono {fewer more : Nat} (le : fewer ≤ more) : restartDelay fewer ≤ restartDelay more := by
  unfold restartDelay
  omega

/-- A candidate in its turn stays within its budget. -/
theorem LedgerAgrees.lawful (agrees : LedgerAgrees state now log id) (turn : restartDue now state id = true) :
    (Event.attempted id now).LawfulAfter maxRestartRetries restartDelay log := by
  obtain ⟨within, waited⟩ := restartDue_iff.mp turn
  unfold LedgerAgrees at agrees
  rw [restartEntry] at within waited
  cases entry : state[id]? with
  | none =>
      simp only [entry] at agrees
      refine ⟨by rw [agrees.1]; decide, fun last member => ?_⟩
      have rested := agrees.2 last member
      rw [agrees.1]
      simp only [restartDelay]
      omega
  | some found =>
      obtain ⟨started, attempts⟩ := found
      simp only [entry, Option.getD_some] at agrees within waited
      refine ⟨Nat.lt_of_le_of_lt agrees.1 within, fun last member => ?_⟩
      have same := agrees.2 last member
      have shorter := restartDelay_mono agrees.1
      omega

/-- An attempt is entered in the ledger. -/
theorem LedgerAgrees.attempted {next : RestartState} {later : List (Event Nat)} (agrees : LedgerAgrees state now log id)
    (entry : next[id]? = some ((now : Int), (restartEntry now state id).2 + 1))
    (streaks : streak id later = streak id log + 1) (lasts : lastAttempt id later = some now) :
    LedgerAgrees next now later id := by
  have most : streak id log ≤ (restartEntry now state id).2 := by
    unfold LedgerAgrees at agrees
    rw [restartEntry]
    cases had : state[id]? with
    | none =>
        simp only [had] at agrees
        simp [agrees.1]
    | some found =>
        simp only [had] at agrees
        exact agrees.1
  unfold LedgerAgrees
  simp only [entry, streaks, lasts]
  exact ⟨by omega, fun last member => by rw [Option.mem_some.mp member]⟩

end Ledger

/-! ## Runs keep the ledger right -/

namespace WatchedTab
variable {R G : Type}

structure Sound (s : WatchedTab R G) : Prop where
  placed : s.tab.Placed
  lawful : Retries.Lawful maxRestartRetries restartDelay s.log
  ledger : ∀ id, LedgerAgrees s.tab.restartState s.clock s.log id
  absent : ∀ id, id ∉ s.tab.panes → lastAttempt id s.log = none

theorem Fresh.sound {s : WatchedTab R G} (fresh : s.Fresh) : s.Sound where
  placed := fresh.placed
  lawful := by
    rw [fresh.log]
    exact trivial
  ledger id := by
    simp only [LedgerAgrees, fresh.ledger, fresh.log, Std.ExtTreeMap.getElem?_empty]
    exact ⟨rfl, by rintro _ ⟨⟩⟩
  absent id _ := by
    rw [fresh.log]
    rfl

theorem mem_rests {now id : Nat} {s : WatchedTab R G} :
    id ∈ s.rests now ↔ ∃ pane, s.tab.panes[id]? = some pane ∧ pane.alive = true ∧
      ∃ last ∈ lastAttempt id s.log, last + 30000 ≤ now := by
  simp only [rests, List.mem_filter, Bool.and_eq_true, Option.any_eq_true, decide_eq_true_eq]
  constructor
  · rintro ⟨_, ⟨pane, found, alive⟩, last, member, rested⟩
    exact ⟨pane, found, alive, last, member, rested⟩
  · rintro ⟨pane, found, alive, last, member, rested⟩
    exact ⟨Std.ExtTreeMap.mem_keys.mpr (IdMap.mem_of_getElem? found), ⟨pane, found, alive⟩, last, member, rested⟩

/-- Pruning the ledger forgets the panes that have rested, and those that are gone. -/
theorem Sound.retained {s : WatchedTab R G} (sound : s.Sound) {now : Nat} (later : s.clock ≤ now) (id : Nat) :
    LedgerAgrees (retainedRestarts now s.tab.panes s.tab.restartState) now ((s.rests now).map .rested ++ s.log) id := by
  have agrees := sound.ledger id
  obtain ⟨streaks, lasts⟩ := @Retries.rested_append _ _ id s.log (s.rests now)
  unfold LedgerAgrees at agrees ⊢
  rw [getElem?_retainedRestarts, streaks, lasts]
  cases entry : s.tab.restartState[id]? with
  | none =>
      simp only [entry] at agrees
      refine ⟨by simp [agrees.1], fun last member => ?_⟩
      exact Nat.le_trans (agrees.2 last member) later
  | some found =>
      obtain ⟨started, attempts⟩ := found
      simp only [entry] at agrees
      have fewer : (if id ∈ s.rests now then 0 else streak id s.log) ≤ attempts := by
        split
        · exact Nat.zero_le _
        · exact agrees.1
      rw [Option.filter_some]
      split
      · rename_i kept
        split at kept
        · cases kept
          exact ⟨fewer, agrees.2⟩
        · cases kept
      · rename_i pruned
        split at pruned
        · cases pruned
        rename_i long
        cases last : lastAttempt id s.log with
        | none => exact ⟨by simp [Retries.streak_of_lastAttempt_none last], by rintro _ ⟨⟩⟩
        | some time =>
            have same := agrees.2 time last
            cases found : s.tab.panes[id]? with
            | none =>
                have gone : id ∉ s.tab.panes := fun member => by
                  obtain ⟨pane, present⟩ := IdMap.getElem?_of_mem member
                  rw [found] at present
                  cases present
                rw [sound.absent id gone] at last
                cases last
            | some pane =>
                simp only [found, Option.any_some, Bool.or_eq_true, Bool.not_eq_true', decide_eq_true_eq, not_or,
                  Bool.not_eq_false, Int.not_lt] at long
                have rested : time + 30000 ≤ now := by omega
                have resting : id ∈ s.rests now := mem_rests.mpr ⟨pane, found, long.1, time, last, rested⟩
                refine ⟨by simp [resting], fun other member => ?_⟩
                rwa [← Option.some.inj member]

variable [RatioOps R] [Vt100 G]

theorem Sound.restart {s : WatchedTab R G} (sound : s.Sound) {pass : RestartPass} (later : s.clock ≤ pass.world.now) :
    (s.step (.restart pass)).Sound := by
  have spec := s.tab.restarting_spec pass
  have rested (id : Nat) := sound.retained later id
  have distinct : (s.tab.attempts pass.world.now).Nodup := (restartCandidates_nodup _ _).filter _
  refine ⟨fun id member => ?_, ?_, fun id => ?_, fun id outside => ?_⟩
  · exact sound.placed id ((spec.keys id).mp member)
  · refine Retries.Lawful.attemptAll distinct (sound.lawful.append ?_) fun id member => ?_
    · intro event member log
      obtain ⟨id, _, rfl⟩ := List.mem_map.mp member
      exact trivial
    · exact (rested id).lawful (List.mem_filter.mp member).2
  · by_cases member : id ∈ s.tab.attempts pass.world.now
    · obtain ⟨streaks, lasts⟩ := @Retries.attemptAll_mem _ _ id
        ((s.rests pass.world.now).map .rested ++ s.log) pass.world.now _ distinct member
      exact (rested id).attempted (spec.attempted id member) streaks lasts
    · obtain ⟨streaks, lasts⟩ := @Retries.attemptAll_notMem _ _ id
        ((s.rests pass.world.now).map .rested ++ s.log) pass.world.now _ member
      exact (rested id).of_same (spec.retained id member) streaks lasts
  · have gone : id ∉ s.tab.panes := mt (spec.keys id).mpr outside
    have notTried : id ∉ s.tab.attempts pass.world.now := fun member => by
      obtain ⟨pane, found, _⟩ := mem_restartCandidates.mp (List.mem_filter.mp member).1
      exact gone (IdMap.mem_of_getElem? found)
    obtain ⟨_, lasts⟩ := @Retries.attemptAll_notMem _ _ id
      ((s.rests pass.world.now).map .rested ++ s.log) pass.world.now _ notTried
    refine lasts.trans ?_
    rw [Retries.rested_append _ |>.2]
    exact sound.absent id gone

omit [RatioOps R] [Vt100 G] in
theorem mem_leaving {next : Tab R G} {s : WatchedTab R G} {id : Nat} :
    id ∈ s.leaving next ↔ id ∈ s.tab.panes ∧ id ∉ next.panes := by
  rw [leaving, List.mem_filter, Std.ExtTreeMap.mem_keys, Bool.not_eq_true', ← Bool.not_eq_true,
    ← Std.ExtTreeMap.mem_iff_contains]

theorem Sound.change {s : WatchedTab R G} (sound : s.Sound) {next : Tab R G} (placed : next.Placed) :
    (s.step (.change next)).Sound := by
  refine ⟨placed, ?_, fun id => ?_, fun id outside => ?_⟩
  · refine sound.lawful.append fun event member log => ?_
    obtain ⟨id, _, rfl⟩ := List.mem_map.mp member
    exact trivial
  · obtain ⟨streaks, lasts⟩ := @Retries.gone_append _ _ id s.log (s.leaving next)
    by_cases leaves : id ∈ s.leaving next
    · rw [if_pos leaves] at streaks lasts
      -- the entry of a pane that is gone stands for no attempt until it is pruned
      change LedgerAgrees s.tab.restartState s.clock ((s.leaving next).map .gone ++ s.log) id
      unfold LedgerAgrees
      rw [streaks, lasts]
      cases s.tab.restartState[id]? with
      | none => exact ⟨rfl, nofun⟩
      | some entry => exact ⟨Nat.zero_le _, nofun⟩
    · rw [if_neg leaves] at streaks lasts
      exact (sound.ledger id).of_same rfl streaks lasts
  · refine (Retries.gone_append _).2.trans ?_
    split
    · rfl
    · rename_i stays
      exact sound.absent id fun member => stays (mem_leaving.mpr ⟨member, outside⟩)

theorem Sound.step {s : WatchedTab R G} (sound : s.Sound) (label : TabStep R G) (allowed : s.Allowed label) :
    (s.step label).Sound := by
  cases label with
  | restart pass => exact sound.restart allowed
  | change next => exact sound.change allowed

theorem Sound.of_run {start s : WatchedTab R G} (fresh : start.Fresh) (run : Machine.Run WatchedTab.step Allowed start s) :
    s.Sound :=
  run.invariant (fun _ label sound allowed => sound.step label allowed) fresh.sound

end WatchedTab

/-! ## Death -/

/-- No pane runs, and each that may restart has used up its budget. -/
def Tab.Spent {R G : Type} (tab : Tab R G) : Prop :=
  ∀ (id : Nat) (pane : Pane G), tab.panes[id]? = some pane → pane.alive = false ∧
    (restartable tab.restartPolicies id pane = true →
      ∃ entry, tab.restartState[id]? = some entry ∧ maxRestartRetries ≤ entry.2)

/-- The check of the loop asks for just that. -/
theorem Core.activeTabDead_iff {R G : Type} {c : Core R G} : c.activeTabDead = true ↔ c.session.tab.Spent := by
  simp only [Core.activeTabDead, List.all_eq_true, Tab.Spent]
  constructor
  · intro dead id pane found
    have here := dead (id, pane) (Std.ExtTreeMap.mem_toList_iff_getElem?_eq_some.mpr found)
    dsimp only at here
    split at here
    · cases here
    rename_i stopped
    refine ⟨Bool.eq_false_iff.mpr stopped, fun allowed => ?_⟩
    rw [restartable, Bool.and_eq_true] at allowed
    rw [if_pos allowed.2, Option.any_eq_true] at here
    obtain ⟨entry, had, exhausted⟩ := here
    exact ⟨entry, had, of_decide_eq_true exhausted⟩
  · rintro spent ⟨id, pane⟩ listed
    obtain ⟨stopped, exhausted⟩ := spent id pane (Std.ExtTreeMap.mem_toList_iff_getElem?_eq_some.mp listed)
    dsimp only
    rw [stopped, if_neg Bool.false_ne_true]
    split
    · rename_i allowed
      obtain ⟨entry, had, most⟩ := exhausted (by rw [restartable, stopped]; exact allowed)
      rw [had, Option.any_some]
      exact decide_eq_true most
    · rfl

section Death
variable {R G : Type} [RatioOps R] [Vt100 G]

omit [RatioOps R] [Vt100 G] in
theorem Tab.Spent.attempts {tab : Tab R G} (spent : tab.Spent) (now : Nat) : tab.attempts now = [] := by
  rw [Tab.attempts, restartAttempts, List.filter_eq_nil_iff]
  intro id candidate turn
  obtain ⟨pane, found, allowed⟩ := mem_restartCandidates.mp candidate
  obtain ⟨stopped, exhausted⟩ := spent id pane found
  obtain ⟨entry, had, most⟩ := exhausted allowed
  have kept : (retainedRestarts now tab.panes tab.restartState)[id]? = some entry := by
    simp [getElem?_retainedRestarts, had, found, stopped]
  have within := (restartDue_iff.mp turn).1
  rw [restartEntry, kept, Option.getD_some] at within
  exact absurd most (Nat.not_le.mpr within)

/-- A pass restarts nothing in a tab that is spent, which stays so. -/
theorem Tab.Spent.restart {tab : Tab R G} (spent : tab.Spent) (pass : RestartPass) :
    (tab.restarting pass).restarted = [] ∧ (tab.restart pass).Spent := by
  have spec := tab.restarting_spec pass
  have none : restartAttempts pass.world.now tab.panes tab.restartPolicies tab.restartState = [] :=
    spent.attempts pass.world.now
  refine ⟨List.sublist_nil.mp (none ▸ spec.restarted), fun id pane found => ?_⟩
  have same : (tab.restarting pass).panes[id]? = tab.panes[id]? := spec.untouched id (by simp [none])
  have had : tab.panes[id]? = some pane := same.symm.trans found
  obtain ⟨stopped, exhausted⟩ := spent id pane had
  refine ⟨stopped, fun allowed => ?_⟩
  obtain ⟨entry, entered, most⟩ := exhausted allowed
  refine ⟨entry, ?_, most⟩
  have kept : (tab.restarting pass).state[id]? = _ := spec.retained id (by simp [none])
  refine kept.trans ?_
  simp [getElem?_retainedRestarts, entered, had, stopped]

/-- A pass late enough restarts a dead pane with budget left, if its process starts. -/
theorem Tab.revives {tab : Tab R G} (placed : tab.Placed) {id : Nat} {pane : Pane G} (found : tab.panes[id]? = some pane)
    (allowed : restartable tab.restartPolicies id pane = true)
    (budget : ∀ entry, tab.restartState[id]? = some entry → entry.2 < maxRestartRetries) (clock : Nat) :
    ∃ pass : RestartPass, clock ≤ pass.world.now ∧ id ∈ (tab.restarting pass).restarted := by
  have stopped : pane.alive = false := by
    rw [restartable, Bool.and_eq_true, Bool.not_eq_true'] at allowed
    exact allowed.1
  have candidate := mem_restartCandidates.mpr ⟨pane, found, allowed⟩
  have turn : ∃ now, clock ≤ now ∧
      restartDue now (retainedRestarts now tab.panes tab.restartState) id = true := by
    cases entry : tab.restartState[id]? with
    | none =>
        refine ⟨clock, Nat.le_refl _, restartDue_of_none ?_⟩
        rw [getElem?_retainedRestarts, entry]
        rfl
    | some found' =>
        obtain ⟨started, attempts⟩ := found'
        refine ⟨clock + started.toNat + restartDelay attempts, by omega, ?_⟩
        have kept (now : Nat) : (retainedRestarts now tab.panes tab.restartState)[id]? = some (started, attempts) := by
          simp [getElem?_retainedRestarts, entry, found, stopped]
        rw [restartDue_iff, restartEntry, kept, Option.getD_some]
        exact ⟨budget _ entry, by dsimp only; omega⟩
  obtain ⟨now, later, turn⟩ := turn
  refine ⟨{ world := { now }, spawns := 0, shell := "", tw := 0, th := 0, settings := { borderStyle := .single }, scrollback := 0 }, later, ?_⟩
  rw [(tab.restarting_spec _).succeeds (fun _ _ => rfl) placed]
  exact List.mem_filter.mpr ⟨candidate, turn⟩

theorem WatchedTab.spent_iff {s : WatchedTab R G} (placed : s.tab.Placed) :
    s.tab.Spent ↔ (∀ (id : Nat) (pane : Pane G), s.tab.panes[id]? = some pane → pane.alive = false) ∧ s.NeverRestarts := by
  constructor
  · intro spent
    refine ⟨fun id pane found => (spent id pane found).1, fun later run pass _ => ?_⟩
    have kept (s : WatchedTab R G) (label : TabStep R G) (spent : s.tab.Spent) (passes : s.Passes label) :
        (s.step label).tab.Spent := by
      cases label with
      | restart pass => exact (spent.restart pass).2
      | change next => exact passes.elim
    have still := @Machine.Run.invariant _ _ _ _ (fun s : WatchedTab R G => s.tab.Spent) kept _ _ spent run
    exact (still.restart pass).1
  · rintro ⟨stopped, never⟩ id pane found
    refine ⟨stopped id pane found, fun allowed => ?_⟩
    by_contra left
    have budget : ∀ entry, s.tab.restartState[id]? = some entry → entry.2 < maxRestartRetries := by
      intro entry had
      exact Nat.lt_of_not_le fun most => left ⟨entry, had, most⟩
    obtain ⟨pass, later, restarted⟩ := Tab.revives placed found allowed budget s.clock
    rw [never s .start pass later] at restarted
    cases restarted

/-! ## The budget -/

namespace WatchedTab

/-- Over any run of passes, exits, respawns and other changes, a pane is attempted at most ten
times between two rests, each time after its back-off delay; only dead panes whose policy
allows their exit status are attempted; and the tab counts as dead exactly when no pane of it
runs and no later pass can restart one. -/
theorem restart_budget {start s : WatchedTab R G} (fresh : start.Fresh) (run : Machine.Run step Allowed start s) :
    (∀ id later stretch earlier, s.log = later ++ stretch ++ earlier → (∀ event ∈ stretch, ¬ event.Renews id) →
      stretch.countP (·.isAttempt id) ≤ 10) ∧
    (∀ id time later earlier, s.log = later ++ .attempted id time :: earlier →
      ∀ last ∈ lastAttempt id earlier, last + restartDelay (streak id earlier) ≤ time) ∧
    (∀ pass : RestartPass,
      (s.tab.restarting pass).restarted.Sublist (s.tab.attempts pass.world.now) ∧
      (∀ id, id ∉ s.tab.attempts pass.world.now → (s.tab.restarting pass).panes[id]? = s.tab.panes[id]?) ∧
      ∀ id ∈ s.tab.attempts pass.world.now, ∃ pane policy, s.tab.panes[id]? = some pane ∧ pane.alive = false ∧
        s.tab.restartPolicies[id]? = some policy ∧ restartAllowed policy pane.exitCode = true) ∧
    ∀ c : Core R G, c.session.tab = s.tab →
      (c.activeTabDead = true ↔
        (∀ (id : Nat) (pane : Pane G), s.tab.panes[id]? = some pane → pane.alive = false) ∧ s.NeverRestarts) := by
  have sound := Sound.of_run fresh run
  refine ⟨fun id later stretch earlier log unbroken => ?_, fun id time later earlier log last member => ?_,
    fun pass => ⟨?_, ?_, fun id member => ?_⟩, fun c tab => ?_⟩
  · have lawful := sound.lawful
    rw [log] at lawful
    exact lawful.attempts_le unbroken
  · have lawful := sound.lawful
    rw [log] at lawful
    exact lawful.of_append.1.2 last member
  · exact (s.tab.restarting_spec pass).restarted
  · exact (s.tab.restarting_spec pass).untouched
  · obtain ⟨pane, found, allowed⟩ := mem_restartCandidates.mp (List.mem_filter.mp member).1
    rw [restartable, Bool.and_eq_true, Bool.not_eq_true', Option.any_eq_true] at allowed
    obtain ⟨stopped, policy, had, allows⟩ := allowed
    exact ⟨pane, policy, found, stopped, had, allows⟩
  · rw [Core.activeTabDead_iff, tab]
    exact spent_iff sound.placed

/-- A shell that has exited and is to be restarted, always. -/
def exitedShell : WatchedTab ℚ RawDisplay where
  tab :=
    { name := "1"
      layout := { root := .leaf 0, nextId := 1 }
      panes := Std.ExtTreeMap.insert ∅ 0
        { process := 0
          parser := Vt100.new 24 80 100
          launch := .shell
          alive := false
          scrollbackLines := 100
          initialCwd := none
          initialEnv := ∅
          scrollbackByteBudget := defaultScrollbackBytes }
      activePane := 0
      restartPolicies := Std.ExtTreeMap.insert ∅ 0 .always }
  clock := 0
  log := []

def secondPass : RestartPass where
  world := { now := 5000 }
  spawns := 1
  shell := "sh"
  tw := 80
  th := 24
  settings := { borderStyle := .single }
  scrollback := 100

theorem exitedShell_budget :
    (exitedShell.step (.restart secondPass)).log = [.attempted 0 5000] ∧
      [Event.attempted 0 5000].countP (·.isAttempt 0) ≤ 10 := by
  have fresh : exitedShell.Fresh := by
    refine ⟨fun id member => ?_, rfl, rfl⟩
    rcases IdMap.mem_insert_iff.mp member with rfl | none
    · exact List.mem_singleton.mpr rfl
    · exact absurd none Std.ExtTreeMap.not_mem_empty
  have log : (exitedShell.step (.restart secondPass)).log = [.attempted 0 5000] := by rfl
  have run : Machine.Run step Allowed exitedShell (exitedShell.step (.restart secondPass)) :=
    .step .start _ (Nat.zero_le _)
  refine ⟨log, (restart_budget fresh run).1 0 [] [.attempted 0 5000] [] log fun event member => ?_⟩
  rw [List.mem_singleton.mp member]
  exact id

end WatchedTab

end Death

end Ezpn
