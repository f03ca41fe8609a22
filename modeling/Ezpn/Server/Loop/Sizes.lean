import Ezpn.Server.Loop.Rules
import Ezpn.Server.Processes

/-!
# The size of the session

Clients attach, resize and leave in many ways; after each round of bookkeeping the
session has the size that the remaining clients ask for. Only clients change it.
-/

set_option autoImplicit false

namespace Ezpn

/-! ## Operations keep the size -/

section Size
variable {R G : Type}

def Session.size (s : Session R G) : Nat × Nat := (s.tw, s.th)

variable [RatioOps R] [Vt100 G]

namespace Core

omit [RatioOps R] in
theorem configure_size (ids : List Nat) (s : Session R G) :
    (ids.foldl (fun s id => s.configurePane id) s).size = s.size := by
  induction ids generalizing s with
  | nil => rfl
  | cons id ids ih => exact ih (s.configurePane id)

omit [RatioOps R] in
theorem draw_size (targets : List Nat) (c : Core R G) : (c.draw targets).session.size = c.session.size := by
  induction targets generalizing c with
  | nil => rfl
  | cons id targets ih => exact ih (c.modifyPane id _)

theorem refresh_size (world : World) (c : Core R G) : (c.refresh world).session.size = c.session.size := by
  simp only [refresh, followZoom, rebuildBorders]
  split <;> split <;> rfl

theorem refitZoomed_size (world : World) (c : Core R G) : (c.refitZoomed world).session.size = c.session.size := by
  simp only [refitZoomed]
  split <;> rfl

theorem panel_size (world : World) (outcome : Settings × SettingsAction) (c : Core R G) :
    (c.panel world outcome).session.size = c.session.size := by
  simp only [panel]
  split <;> rfl

/-- No operation but its own changes the size of the session. -/
theorem apply_size (format : SnapshotFormat R) (world : World) {op : Op R} (c : Core R G)
    (other : ∀ tw th, op ≠ .resizeTerminal tw th) : (c.apply format world op).session.size = c.session.size := by
  cases op with
  | resizeTerminal tw th => exact absurd rfl (other tw th)
  | read feeds => exact configure_size _ c.session
  | prompt =>
      simp only [apply, drainPrompt]
      repeat' split
      all_goals rfl
  | restart =>
      obtain ⟨panes, after, _⟩ := c.restart_session world
      simp only [apply, after]
      rfl
  | render targets => exact (draw_size _ (c.refresh world)).trans (refresh_size world c)
  | reload border showStatusBar showTabBar themeChanged =>
      simp only [apply]
      split
      · exact refitZoomed_size world _
      · rfl
  | panelKey key => exact panel_size world _ c
  | panelClick x y => exact panel_size world _ c
  | respawn =>
      simp only [apply]
      rcases c.session.respawn_cases world with unchanged | ⟨rect, pane, _, _, _, replaced⟩
      · rw [unchanged]
        rfl
      · rw [replaced]
        rfl
  | answer reply =>
      simp only [apply, answer]
      split <;> rfl
  | newTab name =>
      simp only [apply]
      rcases c.session.newTab_cases world name with ⟨mgr, tab, failed, _⟩ | ⟨rect, pane, title, opened, _⟩
      · rw [failed]
        rfl
      · rw [opened]
        rfl
  | goToTab target =>
      simp only [apply]
      cases moved : c.session.goToTab world target with
      | none => rfl
      | some next =>
          obtain ⟨mgr, tab, rfl, _⟩ := Session.goToTab_cases moved
          rfl
  | closeTab =>
      simp only [apply]
      cases closed : c.session.closeTab world with
      | none => rfl
      | some next =>
          obtain ⟨mgr, tab, rfl, _⟩ := Session.closeTab_cases closed
          rfl
  | save =>
      obtain ⟨tab, tabs, captured, _⟩ := c.session.capture_evolve Pane.Steady Pane.Steady.refl Pane.Steady.trans
        (fun _ => ⟨rfl, rfl, rfl⟩) format world
      simp only [apply, captured]
      rfl
  | load path =>
      have loaded : (c.session.load format world path).1.size = c.session.size := by
        simp only [Session.load]
        repeat' split
        all_goals rfl
      simp only [apply, load]
      split
      · rename_i result
        rw [result] at loaded
        exact loaded
      · rename_i result
        rw [result] at loaded
        exact loaded
  | unzoomMissing | resizePane _ _ | reconfigure _ | exec _ _ =>
      simp only [apply]
      split <;> rfl
  | restartInactive | requestReload _ | markBorders | split _ _ | close _ | equalize | refit | setRatio _ _ | swap _
  | focus _ | zoom _ | unzoom | setBroadcast _ | showStatusBar _ | showTabBar _ | togglePanel | pane _ _ | renameTab _ =>
      rfl

end Core

end Size

namespace Loop
variable {R G U : Type}

/-! ## What belongs to the clients -/

/-- Another state of the session with the same clients on the same screen. -/
structure SameClients (l m : Loop R G U) : Prop where
  clients : m.clients = l.clients
  nextClientId : m.nextClientId = l.nextClientId
  sizeChanged : m.sizeChanged = l.sizeChanged
  detachIds : m.detachIds = l.detachIds
  disconnectIds : m.disconnectIds = l.disconnectIds
  size : m.core.session.size = l.core.session.size

theorem SameClients.refl (l : Loop R G U) : l.SameClients l := ⟨rfl, rfl, rfl, rfl, rfl, rfl⟩

theorem SameClients.trans {l m n : Loop R G U} (first : l.SameClients m) (second : m.SameClients n) : l.SameClients n :=
  ⟨second.clients.trans first.clients, second.nextClientId.trans first.nextClientId,
    second.sizeChanged.trans first.sizeChanged, second.detachIds.trans first.detachIds,
    second.disconnectIds.trans first.disconnectIds, second.size.trans first.size⟩

/-- The session has the size that its clients ask for. -/
def Fits (l : Loop R G U) : Prop := l.core.session.size = effectiveSize l.clients

/-- Once the sizes of clients have been looked at, the session has the one that they ask for. -/
def Sized (l : Loop R G U) : Prop := l.clients ≠ [] → l.sizeChanged = true ∨ l.Fits

theorem Sized.same {l m : Loop R G U} (sized : l.Sized) (same : l.SameClients m) : m.Sized := by
  rw [Sized, Fits, same.clients, same.sizeChanged, same.size]
  exact sized

variable [RatioOps R] [Vt100 G] {format : SnapshotFormat R} {world : World}

theorem perform_sameClients (l : Loop R G U) {op : Op R} (other : ∀ tw th, op ≠ .resizeTerminal tw th) :
    l.SameClients (l.perform format world op) :=
  ⟨rfl, rfl, rfl, rfl, rfl, l.core.apply_size format world other⟩

theorem handle_sameClients (format : SnapshotFormat R) (world : World) (l : Loop R G U) (handler : Handler R G U) :
    l.SameClients (l.handle format world handler) := by
  have inert : Inert l.SameClients :=
    { ui := fun _ _ same => same.trans ⟨rfl, rfl, rfl, rfl, rfl, rfl⟩
      ended := fun _ same => same.trans ⟨rfl, rfl, rfl, rfl, rfl, rfl⟩
      marked := fun _ _ same => same.trans ⟨rfl, rfl, rfl, rfl, rfl, rfl⟩ }
  have performs (m : Loop R G U) (op : Op R) (same : l.SameClients m) (handled : op.handled = true) (_ : True) :
      l.SameClients (m.perform format world op) := by
    refine same.trans (perform_sameClients m fun tw th resized => ?_)
    rw [resized] at handled
    cases handled
  exact handle_invariant inert performs (.refl l) handler (each_of_forall (fun _ _ => trivial) _ _)

theorem frame_sameClients (l : Loop R G U) (input : FrameInput) : l.SameClients (l.frame format world input) := by
  have size (targets : Option (List Nat)) : (l.core.apply format world (.render targets)).session.size = l.core.session.size :=
    l.core.apply_size format world (by simp)
  simp only [frame]
  split
  · split <;> exact ⟨rfl, rfl, rfl, rfl, rfl, size _⟩
  · exact ⟨rfl, rfl, rfl, rfl, rfl, size _⟩

variable [Interface U]

omit [Interface U] in
theorem detect_sameClients (l : Loop R G U) (feeds : Nat → Pane.Feed) :
    l.SameClients (l.detect format world feeds) := by
  have read : l.SameClients (l.perform format world (.read feeds)) := perform_sameClients l (by simp)
  have prompted : l.SameClients ((l.perform format world (.read feeds)).perform format world .prompt) :=
    read.trans (perform_sameClients _ (by simp))
  exact prompted.trans ⟨rfl, rfl, rfl, rfl, rfl, rfl⟩

omit [Interface U] in
theorem restartAll_sameClients (l : Loop R G U) : l.SameClients (l.restartAll format world) := by
  have restarted : l.SameClients (l.perform format world .restart) := perform_sameClients l (by simp)
  exact restarted.trans (perform_sameClients _ (by simp))

theorem closeDeadTab_sameClients (l : Loop R G U) : l.SameClients (l.closeDeadTab format world) := by
  simp only [closeDeadTab]
  split
  · exact .refl l
  split
  · exact ⟨rfl, rfl, rfl, rfl, rfl, rfl⟩
  · exact ⟨rfl, rfl, rfl, rfl, rfl, l.core.apply_size format world (by simp)⟩

theorem upkeep_sameClients (l : Loop R G U) (feeds : Nat → Pane.Feed) :
    l.SameClients (l.upkeep format world feeds) := by
  have restarted : l.SameClients ((l.detect format world feeds).restartAll format world) :=
    (detect_sameClients l feeds).trans (restartAll_sameClients _)
  have closed : l.SameClients (((l.detect format world feeds).restartAll format world).closeDeadTab format world) :=
    restarted.trans (closeDeadTab_sameClients _)
  simp only [upkeep]
  split
  · exact closed
  · exact closed.trans (perform_sameClients _ (by simp))

/-! ## Taking sizes -/

omit [Interface U] in
theorem resize_size (format : SnapshotFormat R) (world : World) (l : Loop R G U) (tw th : Nat) :
    (l.perform format world (.resizeTerminal tw th)).core.session.size = (tw, th) :=
  Core.refitZoomed_size world { l.core with session := { l.core.session with tw, th } }

/-- After the sizes of the clients are taken, the session has the size that they ask for. -/
theorem takeSize_fits (format : SnapshotFormat R) (world : World) (l : Loop R G U) : (l.takeSize format world).Fits := by
  simp only [takeSize]
  split
  · exact resize_size format world l _ _
  · rename_i same
    simp only [ne_eq, not_or, not_not] at same
    exact Prod.ext same.1.symm same.2.symm

/-- A session of the right size has nothing to take. -/
theorem takeSize_of_fits {l : Loop R G U} (fits : l.Fits) : l.takeSize format world = l := by
  simp only [Fits, Session.size] at fits
  simp only [takeSize, ← fits, ne_eq, not_true_eq_false, or_self, if_false]

theorem takeSize_clients (format : SnapshotFormat R) (world : World) (l : Loop R G U) :
    (l.takeSize format world).clients = l.clients ∧ (l.takeSize format world).nextClientId = l.nextClientId ∧
      (l.takeSize format world).sizeChanged = l.sizeChanged ∧ (l.takeSize format world).detachIds = l.detachIds ∧
      (l.takeSize format world).disconnectIds = l.disconnectIds := by
  simp only [takeSize]
  split <;> exact ⟨rfl, rfl, rfl, rfl, rfl⟩

/-! ## Bookkeeping -/

theorem acceptClient_sized {l : Loop R G U} (sized : l.Sized) (w h : Nat) (mode : AttachMode) (connected : Bool) :
    (l.acceptClient format world w h mode connected).Sized := by
  simp only [acceptClient]
  split
  · exact sized
  · exact fun _ => .inr (takeSize_fits format world (l.join w h mode))

omit [Interface U] in
theorem message_sized {l : Loop R G U} (sized : l.Sized) (id : Nat) (msg : ClientMsg R G U) :
    (l.message format world id msg).Sized := by
  simp only [message]
  split
  · exact sized
  rename_i client sent
  cases msg with
  | event handler detach =>
      simp only [receive]
      split
      · exact sized
      have handled := sized.same (handle_sameClients format world l handler)
      split
      · exact handled
      · exact handled
  | resize w h => exact fun _ => .inl rfl
  | detach => exact sized
  | disconnected => exact sized
  | kill =>
      simp only [receive]
      split <;> exact sized

omit [RatioOps R] [Vt100 G] [Interface U] in
/-- Without departures nobody is removed. -/
theorem removeLeaving_of_staying {l : Loop R G U}
    (staying : (!l.detachIds.isEmpty || !l.disconnectIds.isEmpty) = false) : l.removeLeaving = l := by
  cases l
  simp_all [removeLeaving]

/-- When the session has its size or a client has sent a new one, the sizes may be taken either way. -/
theorem takeSizes_eq {l : Loop R G U} (ready : l.sizeChanged = true ∨ l.Fits) :
    l.takeSizes format world = { l.takeSize format world with sizeChanged := false } := by
  simp only [takeSizes]
  split
  · rfl
  · rename_i unchanged
    rw [takeSize_of_fits (ready.resolve_left unchanged)]
    cases l
    simp_all

theorem takeSizes_clients (format : SnapshotFormat R) (world : World) (l : Loop R G U) : (l.takeSizes format world).removeLeaving.clients = l.removeLeaving.clients := by
  obtain ⟨clients, _, _, detachIds, disconnectIds⟩ := takeSize_clients format world l
  simp only [takeSizes]
  split
  · simp only [removeLeaving, clients, detachIds, disconnectIds]
  · rfl

/-- When clients remain in a session of the right size, so it does for departures. -/
theorem depart_eq {l : Loop R G U} (fits : l.Fits) (attached : l.removeLeaving.clients ≠ []) :
    l.depart format world = l.removeLeaving.takeSize format world := by
  simp only [depart]
  split
  · rw [if_neg (by simpa using attached)]
  · rename_i staying
    rw [removeLeaving_of_staying (by simpa using staying), takeSize_of_fits fits]

theorem settle_eq {l : Loop R G U} (ready : l.sizeChanged = true ∨ l.Fits) (attached : l.removeLeaving.clients ≠ []) :
    l.settle format world =
      ({ l.takeSize format world with sizeChanged := false } : Loop R G U).removeLeaving.takeSize format world := by
  have remaining : (l.takeSizes format world).removeLeaving.clients ≠ [] := by rwa [takeSizes_clients]
  have fits : (l.takeSizes format world).Fits := by
    rw [takeSizes_eq ready]
    exact takeSize_fits format world l
  rw [settle, depart_eq fits remaining, takeSizes_eq ready]

theorem settle_clients (l : Loop R G U) : (l.settle format world).clients = l.removeLeaving.clients := by
  rw [← takeSizes_clients format world l]
  simp only [settle, depart]
  split
  · split
    · split <;> rfl
    · exact (takeSize_clients ..).1
  · rfl

/-- The bookkeeping leaves the session with the size that the remaining clients ask for. -/
theorem settle_fits {l : Loop R G U} (sized : l.Sized) (attached : (l.settle format world).clients ≠ []) :
    (l.settle format world).Fits := by
  rw [settle_clients] at attached
  have had : l.clients ≠ [] := by
    intro none
    simp [removeLeaving, none] at attached
  rw [settle_eq (sized had) attached]
  exact takeSize_fits ..

theorem step_sized {l : Loop R G U} (sized : l.Sized) (label : World × LoopOp R G U) : (l.step format label).Sized := by
  obtain ⟨world, op⟩ := label
  simp only [step]
  split
  · exact sized
  cases op with
  | upkeep feeds =>
      have kept : (l.upkeep format world feeds).Sized := sized.same (upkeep_sameClients l feeds)
      exact kept
  | front handler => exact sized.same (handle_sameClients format world l handler)
  | attach w h mode connected => exact acceptClient_sized sized w h mode connected
  | message id msg => exact message_sized sized id msg
  | outputFailed id => exact sized
  | settle => exact fun attached => .inr (settle_fits sized attached)
  | frame input => exact sized.same (frame_sameClients l input)
  | kill => exact sized

end Loop

end Ezpn
