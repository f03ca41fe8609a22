import Ezpn.Server.Core
import Ezpn.Session.AlikeProperties

/-!
# Servers under different environments

Two servers run the same operations on sessions of one project file. What the
file's text does not say itself is in sensitive panes only, and no snapshot
shows it.
-/

set_option autoImplicit false

namespace Ezpn

theorem Pane.serve_oblivious {G : Type} [Vt100 G] {w w' : World} (same : w.Alike w') (feeds : Nat → Pane.Feed) :
    Pane.Oblivious (fun pane : Pane G => pane.serve w (feeds pane.process))
      fun pane => pane.serve w' (feeds pane.process) := by
  have taken : Pane.Oblivious (fun pane : Pane G => pane.takeOsc52.1) fun pane => pane.takeOsc52.1 :=
    ⟨fun _ _ => rfl, fun _ => rfl, fun _ => rfl⟩
  have served (feed : Pane.Feed) : Pane.Oblivious (fun pane : Pane G => pane.serve w feed) fun pane => pane.serve w' feed :=
    ((readOutput_oblivious same feed).comp (syncWatchdog_oblivious same)).comp taken
  exact ⟨fun pane => (served (feeds pane.process)).commutes pane, fun pane => (served (feeds pane.process)).origin pane,
    fun pane => (served (feeds pane.process)).sensitive pane⟩

theorem PaneOp.apply_oblivious {G : Type} [Vt100 G] (op : PaneOp) :
    Pane.Oblivious (fun pane : Pane G => op.apply pane) fun pane => op.apply pane := by
  cases op <;> exact ⟨fun _ _ => rfl, fun _ => rfl, fun _ => rfl⟩

@[simp] theorem Session.setPanes_panes {R G : Type} (panes : PaneMap G) (s : Session R G) :
    (s.setPanes panes).tab.panes = panes := rfl

namespace Core
variable {R G : Type} [RatioOps R] [Vt100 G]

omit [RatioOps R] [Vt100 G] in
def withPanes (panes : PaneMap G) (c : Core R G) : Core R G := { c with session := c.session.setPanes panes }

omit [RatioOps R] [Vt100 G] in
/-- The same state, with alike panes in the active tab. -/
structure Alike (c d : Core R G) : Prop where
  rest : d = c.withPanes d.session.tab.panes
  panes : c.session.tab.panes.Alike d.session.tab.panes

variable {c d : Core R G} {others : PaneMap G} {w w' : World}

omit [RatioOps R] [Vt100 G] in
theorem alike_withPanes (alike : c.session.tab.panes.Alike others) : c.Alike (c.withPanes others) := ⟨rfl, alike⟩

omit [RatioOps R] [Vt100 G] in
theorem modifyPane_alike (alike : c.session.tab.panes.Alike others) (id : Nat) {change change' : Pane G → Pane G}
    (oblivious : Pane.Oblivious change change') :
    (c.modifyPane id change).Alike ((c.withPanes others).modifyPane id change') :=
  ⟨rfl, alike.modify id fun _ _ _ _ pair => oblivious.alike pair⟩

theorem refit_alike (same : w.Alike w') (alike : c.session.tab.panes.Alike others) :
    (c.refit w).Alike ((c.withPanes others).refit w') :=
  ⟨rfl, resizeAll_alike same alike _ _ _ _⟩

theorem refitZoomed_alike (same : w.Alike w') (alike : c.session.tab.panes.Alike others) :
    (c.refitZoomed w).Alike ((c.withPanes others).refitZoomed w') := by
  have fitted := resizeAll_alike same alike c.session.tab.layout c.session.tw c.session.th c.session.settings
  cases zoomed : c.session.tab.zoomedPane with
  | none =>
      have left : c.refitZoomed w = c.refit w := by simp [refitZoomed, refit, Session.resizeAll, Session.setPanes, zoomed]
      have right : (c.withPanes others).refitZoomed w' = (c.withPanes others).refit w' := by
        simp [refitZoomed, refit, Session.resizeAll, Session.setPanes, withPanes, zoomed]
      rw [left, right]
      exact refit_alike same alike
  | some id =>
      simp only [refitZoomed, refit, Session.resizeAll, Session.setPanes, withPanes, zoomed]
      exact ⟨rfl, resizeZoomedPane_alike same fitted _ _ _ _⟩

theorem unzoom_alike (same : w.Alike w') (alike : c.session.tab.panes.Alike others) :
    (c.unzoom w).Alike ((c.withPanes others).unzoom w') :=
  ⟨rfl, resizeAll_alike same alike _ _ _ _⟩

omit [RatioOps R] in
/-- The same panes are configured. -/
theorem configure_alike (ids : List Nat) {s : Session R G} (alike : s.tab.panes.Alike others) :
    ∃ configured, (ids.foldl (fun session id => session.configurePane id) (s.setPanes others)) =
        (ids.foldl (fun session id => session.configurePane id) s).setPanes configured ∧
      (ids.foldl (fun session id => session.configurePane id) s).tab.panes.Alike configured := by
  induction ids generalizing s others with
  | nil => exact ⟨others, rfl, alike⟩
  | cons id ids ih =>
      exact ih (s := s.configurePane id)
        (alike.modify id fun _ _ _ _ pair => (Pane.configured_oblivious _ _).alike pair)

omit [RatioOps R] in
theorem detectSpawned_alike (alike : c.session.tab.panes.Alike others) :
    c.detectSpawned.Alike (c.withPanes others).detectSpawned := by
  obtain ⟨configured, eq, configuredAlike⟩ :=
    configure_alike (c.session.tab.panes.keys.filter fun pid => !c.spawnedSeen.contains pid) alike
  have known : Std.ExtTreeMap.contains others = Std.ExtTreeMap.contains c.session.tab.panes := funext alike.contains
  have right : (c.withPanes others).detectSpawned = c.detectSpawned.withPanes configured := by
    simp only [detectSpawned, withPanes, Session.setPanes_panes, alike.keys, eq, known]
  rw [right]
  exact alike_withPanes configuredAlike

omit [RatioOps R] in
theorem readAll_alike (same : w.Alike w') (alike : c.session.tab.panes.Alike others) (feeds : Nat → Pane.Feed) :
    (c.readAll w feeds).Alike ((c.withPanes others).readAll w' feeds) := by
  have inactive (tab : Tab R G) :
      { tab with panes := tab.panes.map fun _ (pane : Pane G) => (pane.readOutput w' (feeds pane.process)).1 } =
        { tab with panes := tab.panes.map fun _ (pane : Pane G) => (pane.readOutput w (feeds pane.process)).1 } := by
    congr 2
    funext _ pane
    exact (Pane.readOutput_oblivious same _).eq pane
  refine ⟨?_, alike.map fun _ => Pane.serve_oblivious same feeds⟩
  simp only [readAll, withPanes, Session.setPanes, inactive]

omit [Vt100 G] in
/-- Alike panes ask alike. -/
theorem asking_alike {panes others : PaneMap G} (alike : panes.Alike others) :
    (others.toList.find? fun (_, pane) => !pane.state.osc52PendingConfirm.isEmpty) =
      (panes.toList.find? fun (_, pane) => !pane.state.osc52PendingConfirm.isEmpty).map
        fun entry => (entry.1, others[entry.1]?.getD entry.2) :=
  alike.find? fun id pane other pair => by simp only [pair.state]

omit [RatioOps R] [Vt100 G] in
theorem drainPrompt_alike (alike : c.session.tab.panes.Alike others) :
    c.drainPrompt.Alike (c.withPanes others).drainPrompt := by
  cases prompted : c.osc52Confirm with
  | some prompt =>
      have left : c.drainPrompt = c := by simp [drainPrompt, prompted]
      have right : (c.withPanes others).drainPrompt = c.withPanes others := by simp [drainPrompt, withPanes, prompted]
      rw [left, right]
      exact alike_withPanes alike
  | none =>
      simp only [drainPrompt, withPanes, prompted, Option.isSome_none, Bool.false_eq_true, if_false, Session.setPanes_panes,
        asking_alike alike]
      generalize found : List.find? _ c.session.tab.panes.toList = first
      cases first with
      | none =>
          refine ⟨?_, alike⟩
          simp only [Option.map_none, withPanes, prompted]
          rfl
      | some entry =>
          obtain ⟨id, pane⟩ := entry
          have member : c.session.tab.panes[id]? = some pane :=
            Std.ExtTreeMap.mem_toList_iff_getElem?_eq_some.mp (List.mem_of_find?_eq_some found)
          rcases alike.cases id with ⟨none, _⟩ | ⟨_, other, foundPane, foundOther, pair⟩
          · cases none.symm.trans member
          cases member.symm.trans foundPane
          have taken : Pane.Oblivious (fun pane : Pane G => pane.takeOsc52PendingConfirm.1)
              fun pane => pane.takeOsc52PendingConfirm.1 := ⟨fun _ _ => rfl, fun _ => rfl, fun _ => rfl⟩
          simp only [Option.map_some, foundOther, Option.getD_some]
          refine ⟨?_, alike.insert id (taken.alike pair)⟩
          simp only [Pane.takeOsc52PendingConfirm, pair.state]
          rfl

theorem restart_alike (same : w.Alike w') (starts : StartsAlike w w' c.session.shell c.session.tab.panes others)
    (alike : c.session.tab.panes.Alike others) : (c.restart w).Alike ((c.withPanes others).restart w') := by
  have restarts := restartPanes_alike same starts alike c.session.spawns c.session.tab.layout
    c.session.tab.restartPolicies c.session.tab.restartState c.session.tw c.session.th c.session.settings
    c.session.scrollback
  let outcome := restartPanes w c.session.spawns c.session.tab.panes c.session.tab.layout
    c.session.tab.restartPolicies c.session.tab.restartState c.session.shell c.session.tw c.session.th
    c.session.settings c.session.scrollback
  obtain ⟨configured, eq, configuredAlike⟩ := configure_alike outcome.restarted
    (s := { c.session with tab.panes := outcome.panes, tab.restartState := outcome.state, spawns := outcome.spawns })
    restarts.panes
  have right : (c.withPanes others).restart w' = (c.restart w).withPanes configured := by
    simp only [restart, withPanes, Session.setPanes, restarts.state, restarts.restarted, restarts.spawns]
    exact congrArg (fun session : Session R G => { c with session }) eq
  rw [right]
  exact alike_withPanes configuredAlike

theorem restartInactive_alike (alike : c.session.tab.panes.Alike others) (single : c.session.tabMgr.tabs = []) :
    (c.restartInactive w).Alike ((c.withPanes others).restartInactive w') := by
  have nothing (c : Core R G) (single : c.session.tabMgr.tabs = []) (w : World) : c.restartInactive w = c := by
    simp only [restartInactive, restartedTabs, single, restartTabs, List.map_nil, TabManager.replaceStored]
    split <;> simp [← single]
  rw [nothing c single, nothing (c.withPanes others) single]
  exact alike_withPanes alike

omit [Vt100 G] in
theorem settle_oblivious (reply : Osc52Answer) (payloads : List Envelope) : Pane.Oblivious (G := G) (match reply with
      | .yes => Pane.acceptOsc52 payloads
      | .no => Pane.setOsc52Decision .denied
      | .later => Pane.requeueOsc52PendingConfirm payloads) (match reply with
      | .yes => Pane.acceptOsc52 payloads
      | .no => Pane.setOsc52Decision .denied
      | .later => Pane.requeueOsc52PendingConfirm payloads) := by
  cases reply <;> exact ⟨fun _ _ => rfl, fun _ => rfl, fun _ => rfl⟩

omit [RatioOps R] [Vt100 G] in
theorem answer_alike (alike : c.session.tab.panes.Alike others) (reply : Osc52Answer) :
    (c.answer reply).Alike ((c.withPanes others).answer reply) := by
  cases prompted : c.osc52Confirm with
  | none =>
      have left : c.answer reply = c := by simp [answer, prompted]
      have right : (c.withPanes others).answer reply = c.withPanes others := by simp [answer, withPanes, prompted]
      rw [left, right]
      exact alike_withPanes alike
  | some prompt =>
      have modified := modifyPane_alike alike prompt.paneId (settle_oblivious reply prompt.queuedPayloads)
      simp only [answer, withPanes, prompted]
      exact ⟨rfl, modified.panes⟩

theorem refresh_alike (same : w.Alike w') (alike : c.session.tab.panes.Alike others) :
    (c.refresh w).Alike ((c.withPanes others).refresh w') := by
  have rebuilt : (c.withPanes others).rebuildBorders = c.rebuildBorders.withPanes others := by
    cases dirty : c.borderDirty with
    | true =>
        simp only [rebuildBorders, withPanes, dirty, if_true]
        rfl
    | false => simp only [rebuildBorders, withPanes, dirty, Bool.false_eq_true, if_false]
  have kept : c.rebuildBorders.session = c.session := by
    simp only [rebuildBorders]
    split <;> rfl
  have alike : c.rebuildBorders.session.tab.panes.Alike others := by rwa [kept]
  rw [refresh, refresh, rebuilt]
  generalize c.rebuildBorders = c at alike
  cases zoomed : c.session.tab.zoomedPane.isSome with
  | false =>
      have left : c.followZoom w = c := by simp [followZoom, zoomed]
      have right : (c.withPanes others).followZoom w' = c.withPanes others := by
        simp [followZoom, withPanes, Session.setPanes, zoomed]
      rw [left, right]
      exact alike_withPanes alike
  | true =>
      simp only [followZoom, withPanes, Session.setPanes, zoomed, if_true, Session.resizeZoomedPane]
      exact ⟨rfl, resizeZoomedPane_alike same alike _ _ _ _⟩

omit [RatioOps R] in
theorem draw_alike (alike : c.Alike d) (targets : List Nat) : (c.draw targets).Alike (d.draw targets) := by
  induction targets generalizing c d with
  | nil => exact alike
  | cons id targets ih =>
      have drawn : Pane.Oblivious (fun pane : Pane G => pane.syncScrollback.resetScrollbackView)
          fun pane => pane.syncScrollback.resetScrollbackView := ⟨fun _ _ => rfl, fun _ => rfl, fun _ => rfl⟩
      rw [alike.rest]
      exact ih (modifyPane_alike alike.panes id drawn)

theorem panel_alike (same : w.Alike w') (alike : c.session.tab.panes.Alike others) (outcome : Settings × SettingsAction) :
    (c.panel w outcome).Alike ((c.withPanes others).panel w' outcome) := by
  let bars := decide (outcome.1.showStatusBar ≠ c.session.settings.showStatusBar) ||
    decide (outcome.1.showTabBar ≠ c.session.settings.showTabBar)
  let decided : Core R G :=
    { c with
      session.settings := outcome.1
      session.tab.broadcast := if outcome.2 = .broadcastToggle then !c.session.tab.broadcast else c.session.tab.broadcast }
  have left : c.panel w outcome = if bars then decided.refit w else decided := rfl
  have right : (c.withPanes others).panel w' outcome =
      if bars then (decided.withPanes others).refit w' else decided.withPanes others := rfl
  have alike : decided.session.tab.panes.Alike others := alike
  rw [left, right]
  cases bars with
  | true => exact refit_alike same alike
  | false => exact alike_withPanes alike

/-- The panes after Enter on a dead pane. -/
theorem respawn_setPanes (world : World) (s : Session R G) {panes : PaneMap G} {old : Pane G}
    (found : panes[s.tab.activePane]? = some old) (dead : old.alive = false) :
    let outcome := replacePane world s.spawns panes s.tab.layout s.tab.activePane old.launch
      (old.initialShell.getD s.shell) s.tw s.th s.settings s.scrollback
    (s.setPanes panes).respawn world =
      { s with
        tab.panes := match outcome.result with
          | .error _ => outcome.state
          | .ok () => outcome.state.modify s.tab.activePane fun pane =>
              { pane with name := old.name, initialShell := old.initialShell.or pane.initialShell }
        spawns := outcome.spawns } := by
  simp only [Session.respawn, Session.setPanes, found, dead, Bool.false_eq_true, if_false, Session.replacePane]
  generalize replacePane world s.spawns panes s.tab.layout s.tab.activePane old.launch
      (old.initialShell.getD s.shell) s.tw s.th s.settings s.scrollback = outcome
  cases outcome.result <;> rfl

theorem respawn_alike (same : w.Alike w') (starts : StartsAlike w w' c.session.shell c.session.tab.panes others)
    (alike : c.session.tab.panes.Alike others) :
    ∃ after, (c.session.setPanes others).respawn w' = (c.session.respawn w).setPanes after ∧
      (c.session.respawn w).tab.panes.Alike after := by
  have own : c.session.respawn w = (c.session.setPanes c.session.tab.panes).respawn w := rfl
  rcases alike.cases c.session.tab.activePane with ⟨none, noneOther⟩ | ⟨old, twin, found, foundTwin, pair⟩
  · simp only [Session.respawn, Session.setPanes, none, noneOther]
    exact ⟨others, rfl, alike⟩
  have aliveTwin : twin.alive = old.alive := pair.alive
  cases alive : old.alive with
  | true =>
      simp only [Session.respawn, Session.setPanes, found, foundTwin, aliveTwin, alive, if_true]
      exact ⟨others, rfl, alike⟩
  | false =>
      have launches (shown : old.snapshotSensitive = false) : twin.launch = old.launch := by rw [pair.eq shown]
      rw [own, respawn_setPanes w c.session found alive, respawn_setPanes w' c.session foundTwin (aliveTwin.trans alive)]
      obtain ⟨spawns, ⟨message, message', failed, failedOther, kept, keptOther⟩ |
          ⟨fresh, fresh', made, madeOther, state, stateOther, freshPair, sensitive⟩⟩ :=
        replacePane_pair same (starts _ old twin found foundTwin) c.session.spawns c.session.tab.layout found foundTwin
          pair launches c.session.tw c.session.th c.session.settings c.session.scrollback
      · simp only [failed, failedOther, kept, keptOther, spawns]
        exact ⟨others, rfl, alike⟩
      · simp only [made, madeOther, state, stateOther, spawns]
        refine ⟨_, rfl, (alike.insert _ freshPair).modify _ fun pane other foundPane _ newPair => ?_⟩
        rw [IdMap.getElem?_insert, if_pos rfl] at foundPane
        cases foundPane
        refine newPair.rename fun shown => ?_
        rw [pair.eq (sensitive.symm.trans shown), newPair.eq shown]
        exact ⟨rfl, rfl⟩

theorem exec_alike (same : w.Alike w') (starts : w.StartAlike w' c.session.shell c.session.shell)
    (alike : c.session.tab.panes.Alike others) {id : Nat} (present : id ∈ c.session.tab.panes) (command : String) :
    ∃ after, ((c.session.setPanes others).replacePane w' id (.command command) c.session.shell).1 =
        ((c.session.replacePane w id (.command command) c.session.shell).1).setPanes after ∧
      ((c.session.replacePane w id (.command command) c.session.shell).1).tab.panes.Alike after := by
  rcases alike.cases id with ⟨none, _⟩ | ⟨old, twin, found, foundTwin, pair⟩
  · obtain ⟨pane, found⟩ := IdMap.getElem?_of_mem present
    cases none.symm.trans found
  have launch : old.snapshotSensitive = false → PaneLaunch.command command = .command command := fun _ => rfl
  obtain ⟨spawns, ⟨message, message', failed, failedOther, kept, keptOther⟩ |
      ⟨fresh, fresh', made, madeOther, state, stateOther, freshPair, sensitive⟩⟩ :=
    replacePane_pair same starts c.session.spawns c.session.tab.layout found foundTwin pair launch c.session.tw
      c.session.th c.session.settings c.session.scrollback
  · simp only [Session.replacePane, Session.setPanes, failed, failedOther, kept, keptOther, spawns]
    exact ⟨others, rfl, alike⟩
  · simp only [Session.replacePane, Session.setPanes, made, madeOther, state, stateOther, spawns]
    exact ⟨_, rfl, alike.insert id freshPair⟩

/-- A split goes the same way in both when one that is made inherits the same directory. -/
theorem split_alike (same : w.Alike w') (starts : w.StartAlike w' c.session.shell c.session.shell)
    (alike : c.session.tab.panes.Alike others) (target : Nat) (dir : Direction)
    (cwd : (c.session.doSplit w target dir).2 = .ok () →
      c.session.tab.panes[target]?.bind (·.liveCwd w) = others[target]?.bind (·.liveCwd w')) :
    ∃ after, ((c.session.setPanes others).doSplit w' target dir).1 = ((c.session.doSplit w target dir).1).setPanes after ∧
      ((c.session.doSplit w target dir).1).tab.panes.Alike after ∧
      ((c.session.setPanes others).doSplit w' target dir).2.isOk = (c.session.doSplit w target dir).2.isOk := by
  obtain ⟨spawns, result, layout, panes⟩ := doSplit_alike same starts alike c.session.spawns c.session.tab.layout target
    dir c.session.tw c.session.th c.session.settings c.session.scrollback cwd
  refine ⟨_, ?_, panes, result⟩
  simp only [Session.doSplit, Session.setPanes, layout, spawns]

omit [RatioOps R] in
theorem captureTab_alike {tab : Tab R G} (alike : tab.panes.Alike others) (format : SnapshotFormat R)
    (persistDefault : Bool) (saved : TabSnapshot R) :
    ∃ after, captureTabScrollback format persistDefault { tab with panes := others } saved =
        ({ (captureTabScrollback format persistDefault tab saved).1 with panes := after },
          (captureTabScrollback format persistDefault tab saved).2) ∧
      (captureTabScrollback format persistDefault tab saved).1.panes.Alike after := by
  have captured := capturePanes_alike alike format persistDefault (persistOverrides tab.panes) saved.panes
  simp only [captureTabScrollback, persistOverrides_congr alike]
  generalize capturePanes format persistDefault (persistOverrides tab.panes) tab.panes saved.panes = left at captured ⊢
  generalize capturePanes format persistDefault (persistOverrides tab.panes) others saved.panes = right at captured ⊢
  obtain ⟨panes, out⟩ := left
  obtain ⟨panes', outRight⟩ := right
  obtain ⟨pairs, rfl⟩ : panes.Alike panes' ∧ outRight = out := captured
  cases outRight with
  | error message => exact ⟨panes', rfl, pairs⟩
  | ok saved => exact ⟨panes', rfl, pairs⟩

omit [RatioOps R] [Vt100 G] in
theorem snapshotTab_congr (same : w.Alike w') {tab : Tab R G} (alike : tab.panes.Alike others) :
    snapshotTab w' { tab with panes := others } = snapshotTab w tab := by
  simp only [snapshotTab, TabSnapshot.mk.injEq, true_and]
  exact List.map_congr_left fun id _ => snapshotPane_congr same alike tab.restartPolicies id

omit [RatioOps R] [Vt100 G] in
theorem fromLive_congr (same : w.Alike w') {s : Session R G} (alike : s.tab.panes.Alike others) :
    (s.setPanes others).fromLive w' = s.fromLive w := by
  have stored : snapshotTab (R := R) (G := G) w' = snapshotTab w := by
    funext tab
    exact snapshotTab_congr same (.refl tab.panes)
  have active : snapshotTab w' (s.setPanes others).tab = snapshotTab w s.tab := snapshotTab_congr same alike
  simp only [Session.fromLive, active, stored]
  rfl

/-- Snapshots of both are the same, and leave alike panes behind. -/
theorem capture_alike (same : w.Alike w') {s : Session R G} (alike : s.tab.panes.Alike others)
    (format : SnapshotFormat R) :
    ((s.setPanes others).capture format w').2 = (s.capture format w).2 ∧
      ∃ after, ((s.setPanes others).capture format w').1 = ((s.capture format w).1).setPanes after ∧
        ((s.capture format w).1).tab.panes.Alike after := by
  have live := fromLive_congr same alike
  have active : snapshotTab w' (s.setPanes others).tab = snapshotTab w s.tab := snapshotTab_congr same alike
  obtain ⟨after, captured, pairs⟩ := captureTab_alike alike format s.persistScrollback (snapshotTab w s.tab)
  have captured : captureTabScrollback format (s.setPanes others).persistScrollback (s.setPanes others).tab
      (snapshotTab w s.tab) = _ := captured
  simp only [Session.capture, live, active, captured]
  generalize captureTabScrollback format s.persistScrollback s.tab (snapshotTab w s.tab) = left at pairs ⊢
  obtain ⟨tab, out⟩ := left
  cases out with
  | error message => exact ⟨rfl, after, rfl, pairs⟩
  | ok saved =>
      simp only [Session.setPanes]
      generalize captureStored (R := R) (G := G) format s.persistScrollback _ = stored
      obtain ⟨tabs, out⟩ := stored
      cases out with
      | error message => exact ⟨rfl, after, rfl, pairs⟩
      | ok inactive => exact ⟨rfl, after, rfl, pairs⟩

/-! ## Runs -/

/-- Both runs see the same reports, and the programs of both start in the same attempts. -/
structure SameReports (c d : Core R G) (w w' : World) : Prop where
  worlds : w.Alike w'
  shell : w.StartAlike w' c.session.shell d.session.shell
  starts : StartsAlike w w' c.session.shell c.session.tab.panes d.session.tab.panes

omit [RatioOps R] [Vt100 G] in
/-- What stays within the tab that the session started with. -/
def InTab : Op R → Prop
  | .newTab _ | .load _ => False
  | _ => True

/-- A split of a pane that snapshots leave out inherits the same directory in both. -/
def InheritsSame (c d : Core R G) (w w' : World) : Op R → Prop
  | .split target dir => (c.session.doSplit w target dir).2 = .ok () →
      ∀ pane other : Pane G, c.session.tab.panes[target]? = some pane → d.session.tab.panes[target]? = some other →
        pane.snapshotSensitive = true → pane.liveCwd w = other.liveCwd w'
  | _ => True

omit [RatioOps R] [Vt100 G] in
/-- The only tab has no other to switch to. -/
theorem switchTo_single {mgr : TabManager R G} (single : mgr.tabs = []) (target : Nat) (tab : Tab R G) :
    mgr.switchTo target tab = none := by
  have stored := mgr.stored
  have inRange := mgr.inRange
  rw [single, List.length_nil] at stored
  rw [TabManager.switchTo, dif_pos]
  omega

omit [RatioOps R] [Vt100 G] in
theorem closeActive_single {mgr : TabManager R G} (single : mgr.tabs = []) : mgr.closeActive = none := by
  have stored := mgr.stored
  rw [single, List.length_nil] at stored
  rw [TabManager.closeActive, dif_pos]
  omega

theorem apply_alike {format : SnapshotFormat R} (alike : c.Alike d) (single : c.session.tabMgr.tabs = [])
    (reports : SameReports c d w w') {op : Op R} (inTab : InTab op) (inherits : InheritsSame c d w w' op) :
    (c.apply format w op).Alike (d.apply format w' op) := by
  obtain ⟨others, rfl, pairs⟩ : ∃ others, d = c.withPanes others ∧ c.session.tab.panes.Alike others :=
    ⟨_, alike.rest, alike.panes⟩
  have same := reports.worlds
  cases op with
  | read feeds =>
      have detected := detectSpawned_alike pairs
      have read := readAll_alike same detected.panes feeds
      rw [← detected.rest] at read
      exact read
  | prompt => exact drainPrompt_alike pairs
  | restart => exact restart_alike same reports.starts pairs
  | restartInactive => exact restartInactive_alike pairs single
  | unzoomMissing =>
      have missing : (c.session.tab.zoomedPane.any fun id => !others.contains id) =
          c.session.tab.zoomedPane.any fun id => !c.session.tab.panes.contains id := by simp only [pairs.contains]
      have left : c.apply format w .unzoomMissing =
        if c.session.tab.zoomedPane.any fun id => !c.session.tab.panes.contains id then c.unzoom w else c := rfl
      have right : (c.withPanes others).apply format w' .unzoomMissing =
        if c.session.tab.zoomedPane.any fun id => !others.contains id then (c.withPanes others).unzoom w'
        else c.withPanes others := rfl
      rw [left, right, missing]
      split
      · exact unzoom_alike same pairs
      · exact alike_withPanes pairs
  | render targets => exact draw_alike (refresh_alike same pairs) _
  | resizeTerminal tw th => exact refitZoomed_alike (c := { c with session := { c.session with tw, th } }) same pairs
  | reload border showStatusBar showTabBar themeChanged =>
      let visual := c.session.settings.borderStyle ≠ border || c.session.settings.showStatusBar ≠ showStatusBar ||
        c.session.settings.showTabBar ≠ showTabBar || themeChanged
      let reloaded : Core R G :=
        { c with session.settings := { c.session.settings with borderStyle := border, showStatusBar, showTabBar } }
      have left : c.apply format w (.reload border showStatusBar showTabBar themeChanged) =
        if visual then reloaded.refitZoomed w else reloaded := rfl
      have right : (c.withPanes others).apply format w' (.reload border showStatusBar showTabBar themeChanged) =
        if visual then (reloaded.withPanes others).refitZoomed w' else reloaded.withPanes others := rfl
      rw [left, right]
      split
      · exact refitZoomed_alike same pairs
      · exact alike_withPanes pairs
  | requestReload requested => exact ⟨rfl, pairs⟩
  | markBorders => exact ⟨rfl, pairs⟩
  | split target dir =>
      obtain ⟨after, eq, later, result⟩ := split_alike same reports.shell pairs target dir fun made => by
        rcases pairs.cases target with ⟨none, noneOther⟩ | ⟨pane, other, found, foundOther, pair⟩
        · rw [none, noneOther]
          rfl
        · rw [found, foundOther, Option.bind_some, Option.bind_some]
          cases shown : pane.snapshotSensitive with
          | true => exact inherits made pane other found foundOther shown
          | false => rw [pair.eq shown, Pane.liveCwd_congr same]
      have right : (c.withPanes others).apply format w' (.split target dir) =
          { c with
            session := ((c.session.setPanes others).doSplit w' target dir).1
            borderDirty := c.borderDirty || ((c.session.setPanes others).doSplit w' target dir).2.isOk } := rfl
      rw [right, eq, result]
      exact ⟨rfl, later⟩
  | close target => exact ⟨rfl, resizeAll_alike same (pairs.erase target) _ _ _ _⟩
  | equalize => exact ⟨rfl, resizeAll_alike same pairs _ _ _ _⟩
  | refit => exact refit_alike same pairs
  | resizePane dir delta =>
      simp only [apply, withPanes, Session.setPanes]
      generalize c.session.tab.layout.resizePane c.session.tab.activePane dir delta = moved
      obtain ⟨layout, changed⟩ := moved
      cases changed with
      | true => exact ⟨rfl, resizeAll_alike same pairs _ _ _ _⟩
      | false => exact ⟨rfl, pairs⟩
  | setRatio path ratio => exact ⟨rfl, resizeAll_alike same pairs _ _ _ _⟩
  | swap other => exact ⟨rfl, pairs⟩
  | reconfigure spec =>
      simp only [apply, withPanes, Session.setPanes]
      generalize reconfigureLayout c.session.tab.layout spec = reflowed
      obtain ⟨layout, result⟩ := reflowed
      cases result with
      | ok _ => exact ⟨rfl, resizeAll_alike same pairs _ _ _ _⟩
      | error message => exact ⟨rfl, pairs⟩
  | focus id => exact ⟨rfl, pairs⟩
  | zoom id => exact ⟨rfl, resizeZoomedPane_alike same pairs _ _ _ _⟩
  | unzoom => exact unzoom_alike same pairs
  | setBroadcast on => exact ⟨rfl, pairs⟩
  | showStatusBar on => exact ⟨rfl, resizeAll_alike same pairs _ _ _ _⟩
  | showTabBar on => exact ⟨rfl, resizeAll_alike same pairs _ _ _ _⟩
  | togglePanel => exact ⟨rfl, pairs⟩
  | panelKey key => exact panel_alike same pairs _
  | panelClick x y => exact panel_alike same pairs _
  | pane id op => exact modifyPane_alike pairs id op.apply_oblivious
  | respawn =>
      have starts : StartsAlike w w' c.session.shell c.session.tab.panes others := reports.starts
      obtain ⟨after, eq, later⟩ := respawn_alike same starts pairs
      have right : (c.withPanes others).apply format w' .respawn =
          { c with session := (c.session.setPanes others).respawn w' } := rfl
      rw [right, eq]
      exact ⟨rfl, later⟩
  | exec id command =>
      have right : (c.withPanes others).apply format w' (.exec id command) =
          if others.contains id then
            { c with session := ((c.session.setPanes others).replacePane w' id (.command command) c.session.shell).1 }
          else c.withPanes others := rfl
      have left : c.apply format w (.exec id command) =
          if c.session.tab.panes.contains id then
            { c with session := (c.session.replacePane w id (.command command) c.session.shell).1 }
          else c := rfl
      rw [left, right, pairs.contains]
      split
      · rename_i present
        obtain ⟨after, eq, later⟩ :=
          exec_alike same reports.shell pairs (Std.ExtTreeMap.contains_iff_mem.mp present) command
        rw [eq]
        exact ⟨rfl, later⟩
      · exact alike_withPanes pairs
  | answer reply => exact answer_alike pairs reply
  | newTab name => exact inTab.elim
  | goToTab target =>
      simp only [apply, withPanes, Session.setPanes, Session.goToTab, switchTo_single single]
      exact ⟨rfl, pairs⟩
  | closeTab =>
      simp only [apply, withPanes, Session.setPanes, Session.closeTab, closeActive_single single]
      exact ⟨rfl, pairs⟩
  | renameTab name => exact ⟨rfl, pairs⟩
  | save =>
      obtain ⟨_, after, eq, later⟩ := capture_alike same pairs format
      have right : (c.withPanes others).apply format w' .save =
          { c with session := ((c.session.setPanes others).capture format w').1 } := rfl
      rw [right, eq]
      exact ⟨rfl, later⟩
  | load path => exact inTab.elim

end Core

end Ezpn
