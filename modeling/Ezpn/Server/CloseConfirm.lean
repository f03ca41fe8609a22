import Ezpn.Server.Consent

/-!
# The close-pane prompt

`InputMode::CloseConfirm` beside the core of the loop. The prompt keeps no target:
its answer closes whatever pane is then in focus.
-/

set_option autoImplicit false

namespace Ezpn

structure Confirming (R G : Type) where
  core : Core R G
  /-- the mode is `CloseConfirm` -/
  confirming : Bool := false
  /-- process of the pane that the prompt was opened for; the code does not keep it -/
  subject : Option Nat := none

inductive ConfirmAction (R : Type) where
  /-- the key that asks to close the pane in focus -/
  | ask
  /-- the left button goes down on a title row -/
  | press (x y : Nat)
  /-- the next key: `y` or Enter, or any other -/
  | answer (yes : Bool)
  /-- another mode is entered, or the last client leaves -/
  | leave
  /-- whatever else the loop and its handlers do -/
  | op (op : Op R)

namespace Confirming
variable {R G : Type} [RatioOps R] [Vt100 G]

omit [RatioOps R] [Vt100 G] in
/-- The process of the pane in focus. -/
def focused (c : Core R G) : Option Nat := (c.session.tab.panes[c.session.tab.activePane]?).map (·.process)

omit [RatioOps R] [Vt100 G] in
def ask (s : Confirming R G) : Confirming R G := { s with confirming := true, subject := focused s.core }

/-- The title-row branch of `process_mouse`. Its other buttons are operations of their own. -/
def press (format : SnapshotFormat R) (world : World) (x y : Nat) (s : Confirming R G) : Confirming R G :=
  let session := s.core.session
  match s.core.borderCache with
  | none => s
  | some cache =>
      if session.settings.visible then s
      else
        let layout := match session.tab.zoomedPane with
          | some id => Layout.singleton id session.tab.layout.nextId
          | none => session.tab.layout
        match titleButtonHit x y layout cache.inner with
        | some (.close id) => ask { s with core := s.core.apply format world (.focus id) }
        | _ => s

/-- The `CloseConfirm` branch of `process_key`. -/
def answer (format : SnapshotFormat R) (world : World) (yes : Bool) (s : Confirming R G) : Confirming R G :=
  if !s.confirming then s
  else if yes then
    { s with core := s.core.apply format world (.close s.core.session.tab.activePane), confirming := false }
  else { s with confirming := false }

/-- Whether an operation goes back to the normal mode. -/
def resets (format : SnapshotFormat R) (world : World) (c : Core R G) : Op R → Bool
  | .newTab name => (c.session.newTab world name).2
  | .goToTab target => (c.session.goToTab world target).isSome
  | .closeTab => (c.session.closeTab world).isSome
  | .load path => (c.session.load format world path).2.isOk
  | _ => false

def apply (format : SnapshotFormat R) (world : World) (action : ConfirmAction R) (s : Confirming R G) : Confirming R G :=
  match action with
  | .ask => s.ask
  | .press x y => s.press format world x y
  | .answer yes => s.answer format world yes
  | .leave => { s with confirming := false }
  | .op op =>
      { s with core := s.core.apply format world op, confirming := s.confirming && !resets format world s.core op }

def step (format : SnapshotFormat R) (s : Confirming R G) (label : World × ConfirmAction R) : Confirming R G :=
  s.apply format label.1 label.2

/-! ## What the prompt is about -/

/-- Under the prompt, no other process than the one it was opened for is in focus. -/
def Asked (s : Confirming R G) : Prop :=
  s.confirming = true → ∀ process, focused s.core = some process → s.subject = some process

/-- What an operation must not do under the prompt: move the focus, or put a new process in focus. -/
def KeepsFocus (world : World) (c : Core R G) : Op R → Prop
  | .focus id => id = c.session.tab.activePane
  | .close target =>
      target = c.session.tab.activePane → ∀ (id : Nat) (pane : Pane G), c.session.tab.panes[id]? = some pane → id = target
  | .newTab _ =>
      world.spawnError c.session.spawns c.session.shell = none ∨ c.session.tabMgr.activeIdx + 1 = c.session.tabMgr.count
  | op => c.session.tab.activePane ∉ c.fresh world op

def KeepsAsked (s : Confirming R G) (label : World × ConfirmAction R) : Prop :=
  match label.2 with
  | .op op => s.confirming = true → KeepsFocus label.1 s.core op
  | _ => True

/-! ## The focus -/

variable {format : SnapshotFormat R} {world : World} {c next : Core R G}

omit [RatioOps R] [Vt100 G] in
/-- The same pane stays in focus, if it stays. -/
theorem focused_of_evolve (active : next.session.tab.activePane = c.session.tab.activePane)
    (evolve : PaneMap.Evolve (fun old pane => pane.process = old.process) c.session.tab.panes next.session.tab.panes)
    {process : Nat} (now : focused next = some process) : focused c = some process := by
  unfold focused at now ⊢
  rw [active] at now
  obtain ⟨pane, found, rfl⟩ := Option.map_eq_some_iff.mp now
  obtain ⟨old, had, same⟩ := evolve _ pane found
  rw [had, Option.map_some, same]

theorem render_active (targets : List Nat) :
    ((c.refresh world).draw targets).session.tab.activePane = c.session.tab.activePane := by
  have drawn (targets : List Nat) (c : Core R G) : (c.draw targets).session.tab.activePane = c.session.tab.activePane := by
    induction targets generalizing c with
    | nil => rfl
    | cons id targets ih => exact ih (c.modifyPane id _)
  rw [drawn]
  simp only [Core.refresh, Core.followZoom, Core.rebuildBorders]
  split <;> split <;> rfl

theorem refitZoomed_active : (c.refitZoomed world).session.tab.activePane = c.session.tab.activePane := by
  simp only [Core.refitZoomed]
  split <;> rfl

/-- Only these operations move the focus. -/
theorem apply_active (op : Op R) (stays : op.stays = true) (unfocused : ∀ id, op ≠ .focus id)
    (unclosed : ∀ id, op ≠ .close id) :
    (c.apply format world op).session.tab.activePane = c.session.tab.activePane := by
  cases op with
  | read feeds => cases stays
  | newTab name => cases stays
  | goToTab target => cases stays
  | closeTab => cases stays
  | load path => cases stays
  | focus id => exact absurd rfl (unfocused id)
  | close id => exact absurd rfl (unclosed id)
  | prompt =>
      simp only [Core.apply, Core.drainPrompt]
      repeat' split
      all_goals rfl
  | restart =>
      obtain ⟨panes, after, _⟩ := c.restart_session world
      simp only [Core.apply, after]
  | unzoomMissing | resizePane dir delta | reconfigure spec =>
      simp only [Core.apply]
      split <;> rfl
  | render targets => exact render_active _
  | resizeTerminal tw th => exact refitZoomed_active
  | reload border showStatusBar showTabBar themeChanged =>
      simp only [Core.apply]
      split
      · exact refitZoomed_active
      · rfl
  | panelKey key | panelClick x y =>
      simp only [Core.apply, Core.panel]
      split <;> rfl
  | exec id command =>
      simp only [Core.apply]
      split <;> rfl
  | respawn =>
      simp only [Core.apply, Session.respawn]
      repeat' split
      all_goals rfl
  | answer reply =>
      simp only [Core.apply, Core.answer]
      split <;> rfl
  | save =>
      obtain ⟨tab, tabs, after, evolve, _⟩ := c.session.capture_evolve (fun _ _ => True) (fun _ => trivial)
        (fun _ _ _ _ _ => trivial) (fun _ => trivial) format world
      have active : tab.activePane = c.session.tab.activePane := congrArg (·.activePane) evolve.rest
      simp only [Core.apply, after, active]
  | _ => rfl

/-- After an operation that stays in the tab, the focus shows the process that it showed or a fresh one. -/
theorem stays_focused (op : Op R) (stays : op.stays = true)
    (active : (c.apply format world op).session.tab.activePane = c.session.tab.activePane)
    (kept : c.session.tab.activePane ∉ c.fresh world op) {process : Nat}
    (now : focused (c.apply format world op) = some process) : focused c = some process := by
  unfold focused at now ⊢
  rw [active] at now
  obtain ⟨pane, found, rfl⟩ := Option.map_eq_some_iff.mp now
  rcases (c.apply_renewed format world op stays).pane _ pane found with ⟨_, old, had, steady⟩ | ⟨fresh, _⟩
  · rw [had, Option.map_some, steady.process]
  · exact absurd fresh kept

omit [RatioOps R] in
theorem detectSpawned_active : c.detectSpawned.session.tab.activePane = c.session.tab.activePane := by
  have configured (ids : List Nat) (s : Session R G) :
      (ids.foldl (fun s id => s.configurePane id) s).tab.activePane = s.tab.activePane := by
    induction ids generalizing s with
    | nil => rfl
    | cons id ids ih => exact ih (s.configurePane id)
  exact configured _ _

/-- Closing a pane that is not in focus keeps the focus. -/
theorem close_active {target : Nat} (other : target ≠ c.session.tab.activePane) :
    (c.apply format world (.close target)).session.tab.activePane = c.session.tab.activePane := by
  have apart : ¬c.session.tab.activePane = target := fun same => other same.symm
  simp only [Core.apply, Core.refit, Session.resizeAll, Session.setPanes, Session.closePane, closePane, if_neg apart]

theorem close_panes (target id : Nat) :
    id ∈ (c.apply format world (.close target)).session.tab.panes ↔ id ≠ target ∧ id ∈ c.session.tab.panes := by
  simp only [Core.apply, Core.refit, Session.resizeAll, Session.setPanes, Session.closePane, closePane, mem_resizeAll,
    IdMap.mem_erase_iff]

theorem close_focused {target : Nat} (kept : KeepsFocus world c (.close target)) {process : Nat}
    (now : focused (c.apply format world (.close target)) = some process) : focused c = some process := by
  by_cases other : target = c.session.tab.activePane
  · obtain ⟨pane, found, _⟩ := Option.map_eq_some_iff.mp now
    obtain ⟨different, member⟩ := close_panes target _ |>.mp (IdMap.mem_of_getElem? found)
    obtain ⟨old, had⟩ := IdMap.getElem?_of_mem member
    exact absurd (kept other _ old had) different
  · exact stays_focused (.close target) rfl (close_active other) List.not_mem_nil now

theorem newTab_focused {name : Option String} (kept : KeepsFocus world c (.newTab name))
    (failed : (c.session.newTab world name).2 = false) {process : Nat}
    (now : focused (c.apply format world (.newTab name)) = some process) : focused c = some process := by
  cases starts : world.spawnError c.session.spawns c.session.shell with
  | none =>
      have spawned := Core.newTab_spawned starts name
      rw [failed] at spawned
      cases spawned
  | some message =>
      rcases kept with spawns | last
      · rw [spawns] at starts
        cases starts
      have tab : c.session.tabs.get ⟨c.session.tabMgr.count - 1, c.session.last_lt_tabs⟩ = c.session.tab :=
        congrArg (·.2) (Session.takeOut_last last (c.session.tabMgr.nextId + 1))
      have after := Session.newTab_failed name starts
      rw [tab] at after
      refine focused_of_evolve ?_ ?_ now
      · simp only [Core.apply, after]
        rfl
      · simp only [Core.apply, after]
        exact (resizeAll_steady world _ _ _ _ _).weaken fun _ _ steady => steady.process

/-- Under a prompt that stays open, an operation that keeps the focus shows no other process. -/
theorem op_focused (op : Op R) (kept : KeepsFocus world c op) (open_ : resets format world c op = false) {process : Nat}
    (now : focused (c.apply format world op) = some process) : focused c = some process := by
  cases op with
  | read feeds =>
      refine focused_of_evolve ?_ (c.read_processes format world feeds) now
      exact detectSpawned_active
  | newTab name => exact newTab_focused kept open_ now
  | goToTab target =>
      have stayed : c.session.goToTab world target = none := by simpa [resets] using open_
      simpa [Core.apply, stayed] using now
  | closeTab =>
      have stayed : c.session.closeTab world = none := by simpa [resets] using open_
      simpa [Core.apply, stayed] using now
  | load path =>
      rcases c.session.load_cases format world path with ⟨message, spawns, failed⟩ | ⟨saved, loaded, _, result, _⟩
      · simpa [Core.apply, Core.load, failed, focused] using now
      · simp [resets, result, Except.isOk, Except.toBool] at open_
  | focus id =>
      obtain rfl : id = c.session.tab.activePane := kept
      exact now
  | close target => exact close_focused kept now
  | _ => exact stays_focused _ rfl (apply_active _ rfl (by simp) (by simp)) kept now

/-! ## Runs -/

theorem step_asked {s : Confirming R G} (asked : s.Asked) (label : World × ConfirmAction R)
    (keeps : s.KeepsAsked label) : (s.step format label).Asked := by
  obtain ⟨world, action⟩ := label
  cases action with
  | ask => exact fun _ _ now => now
  | press x y =>
      have opened (id : Nat) : (ask { s with core := s.core.apply format world (.focus id) }).Asked := fun _ _ now => now
      simp only [step, apply, press]
      split
      · exact asked
      split
      · exact asked
      split
      · exact opened _
      · exact asked
  | answer yes =>
      simp only [step, apply, answer]
      split
      · exact asked
      split
      · exact nofun
      · exact nofun
  | leave => exact nofun
  | op op =>
      intro stillOpen process now
      obtain ⟨wasOpen, notReset⟩ := (Bool.and_eq_true _ _).mp stillOpen
      exact asked wasOpen process (op_focused op (keeps wasOpen) (by simpa using notReset) now)

/-- What an answer closes is in focus, under an open prompt. -/
theorem answer_closes {s : Confirming R G} {yes : Bool} {id : Nat} {pane : Pane G}
    (present : s.core.session.tab.panes[id]? = some pane)
    (gone : (s.answer format world yes).core.session.tab.panes[id]? = none) :
    s.confirming = true ∧ focused s.core = some pane.process := by
  unfold answer at gone
  cases confirming : s.confirming with
  | false => simp [confirming, present] at gone
  | true =>
      cases yes with
      | false => simp [confirming, present] at gone
      | true =>
          simp only [confirming, Bool.not_true, Bool.false_eq_true, if_false, if_true] at gone
          refine ⟨rfl, ?_⟩
          by_cases active : id = s.core.session.tab.activePane
          · rw [focused, ← active, present, Option.map_some]
          · have kept : id ∈ (s.core.apply format world (.close s.core.session.tab.activePane)).session.tab.panes :=
              (close_panes s.core.session.tab.activePane id).mpr ⟨active, IdMap.mem_of_getElem? present⟩
            obtain ⟨later, found⟩ := IdMap.getElem?_of_mem kept
            rw [gone] at found
            cases found

/-- An answer closes no pane but the one that the prompt was opened for. -/
def ClosesSubject (format : SnapshotFormat R) (s : Confirming R G) (label : World × ConfirmAction R) : Prop :=
  ∀ yes, label.2 = .answer yes → ∀ (id : Nat) (pane : Pane G), s.core.session.tab.panes[id]? = some pane →
    (s.step format label).core.session.tab.panes[id]? = none → s.confirming = true ∧ s.subject = some pane.process

/-- In a run that keeps the pane in focus under each prompt, answers close what was asked. -/
theorem confirmed_closed (format : SnapshotFormat R) {core : Core R G}
    {log : List (Confirming R G × (World × ConfirmAction R))} {s : Confirming R G}
    (history : Machine.History (step format) { core } log s)
    (keeps : ∀ entry ∈ log, entry.1.KeepsAsked entry.2) :
    ∀ entry ∈ log, ClosesSubject format entry.1 entry.2 := by
  intro entry member yes answered id pane present gone
  have initial : ({ core } : Confirming R G).Asked := by
    intro confirming
    cases confirming
  have asked := (history.invariant Asked KeepsAsked (fun s label asked keeps => step_asked asked label keeps) initial
    keeps).2 entry member
  obtain ⟨s, world, action⟩ := entry
  obtain rfl : action = .answer yes := answered
  obtain ⟨confirming, inFocus⟩ := answer_closes present gone
  exact ⟨confirming, asked confirming _ inFocus⟩

def run (actions : List (ConfirmAction ℚ)) : Confirming ℚ RawDisplay :=
  (actions.map (Prod.mk ({} : World))).foldl (step plainFormat) { core := { session := oneShell } }

/-- A second pane, and the prompt for the first one. -/
def asked : List (ConfirmAction ℚ) := [.op (.split 0 .horizontal), .ask, .op .equalize]

/-- Under the prompt, a request to focus the second pane. -/
def refocused : List (ConfirmAction ℚ) := asked ++ [.op (.focus 1)]

theorem run_answered (actions : List (ConfirmAction ℚ)) :
    ∃ log, Machine.History (step plainFormat) { core := { session := oneShell } } log
      ((run actions).step plainFormat ({}, .answer true)) ∧ (run actions, ({}, .answer true)) ∈ log ∧
      ∀ entry ∈ log, entry ∈ Machine.trace (step plainFormat) ({ core := { session := oneShell } } : Confirming ℚ RawDisplay)
        (actions.map (Prod.mk ({} : World))) ∨ entry = (run actions, ({}, .answer true)) := by
  have history := Machine.History.of_labels (step plainFormat) ({ core := { session := oneShell } } : Confirming ℚ RawDisplay)
    (actions.map (Prod.mk ({} : World)))
  refine ⟨_, history.step ({}, .answer true), List.mem_append_right _ (List.mem_singleton_self _), fun entry member => ?_⟩
  rcases List.mem_append.mp member with earlier | last
  · exact .inl earlier
  · exact .inr (List.mem_singleton.mp last)

theorem refocused_misclosed :
    boot plainFormat {} plainConfig (.grid 1 1 []) = .ok oneShell ∧
    ¬∀ log s, Machine.History (step plainFormat) ({ core := { session := oneShell } } : Confirming ℚ RawDisplay) log s →
      ∀ entry ∈ log, ClosesSubject plainFormat entry.1 entry.2 := by
  refine ⟨oneShell_booted, fun claimed => ?_⟩
  obtain ⟨log, history, member, _⟩ := run_answered refocused
  have second : ((run refocused).core.session.tab.panes[1]?).map (·.process) = some 1 := by decide +kernel
  have gone : (((run refocused).step plainFormat ({}, .answer true)).core.session.tab.panes[1]?).isNone = true := by
    decide +kernel
  have subject : (run refocused).subject = some 0 := by decide +kernel
  obtain ⟨pane, found, process⟩ := Option.map_eq_some_iff.mp second
  have closed := (claimed log _ history _ member true rfl 1 pane found (Option.isNone_iff_eq_none.mp gone)).2
  rw [process] at closed
  cases subject.symm.trans closed

theorem asked_closed : (run asked).confirming = true ∧ (run asked).subject = some 0 := by
  obtain ⟨log, history, member, entries⟩ := run_answered asked
  have first : ((run asked).core.session.tab.panes[0]?).map (·.process) = some 0 := by decide +kernel
  have gone : (((run asked).step plainFormat ({}, .answer true)).core.session.tab.panes[0]?).isNone = true := by
    decide +kernel
  obtain ⟨pane, found, process⟩ := Option.map_eq_some_iff.mp first
  have before : ∀ entry ∈ Machine.trace (step plainFormat) ({ core := { session := oneShell } } : Confirming ℚ RawDisplay)
      (asked.map (Prod.mk ({} : World))), entry.1.KeepsAsked entry.2 := by
    simp only [asked, List.map, Machine.trace, List.forall_mem_cons]
    refine ⟨fun confirming => ?_, trivial, fun _ => List.not_mem_nil, fun _ none => by cases none⟩
    cases confirming
  have keeps : ∀ entry ∈ log, entry.1.KeepsAsked entry.2 := by
    intro entry inLog
    rcases entries entry inLog with earlier | rfl
    · exact before entry earlier
    · trivial
  have closed := confirmed_closed plainFormat history keeps _ member true rfl 0 pane found
    (Option.isNone_iff_eq_none.mp gone)
  rwa [process] at closed

end Confirming

end Ezpn
