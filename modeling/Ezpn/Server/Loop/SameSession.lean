import Ezpn.Server.Loop.Sizes
import Ezpn.Server.Panes
import Ezpn.Session.View

/-!
# Loops with the same session

Two states of the loop may differ in their clients and in what is marked for
redraw and still hold the same session. Handlers, upkeep and frames act on both in
the same way: a frame leaves the view of each pane where it was.
-/

set_option autoImplicit false

namespace Ezpn

/-! ## Drawing -/

namespace Core
variable {R G : Type} [RatioOps R] [Vt100 G] [ViewedVt100 G]

omit [RatioOps R] in
theorem draw_atBottom {c : Core R G} (bottom : c.session.tab.panes.All Pane.AtBottom) (targets : List Nat) :
    c.draw targets = c := by
  induction targets with
  | nil => rfl
  | cons id targets ih =>
      have same : Std.ExtTreeMap.modify c.session.tab.panes id
          (fun pane => pane.syncScrollback.resetScrollbackView) = c.session.tab.panes := by
        apply Std.ExtTreeMap.ext_getElem?
        intro other
        rw [IdMap.getElem?_modify]
        split
        · cases found : c.session.tab.panes[other]? with
          | none => rfl
          | some pane => rw [Option.map_some, Pane.draw_atBottom (bottom other pane found)]
        · rfl
      have unchanged : c.modifyPane id (fun pane => pane.syncScrollback.resetScrollbackView) = c := by
        simp only [modifyPane, same, Session.setPanes]
      simp only [draw, List.foldl_cons, unchanged]
      exact ih

/-- What a frame draws leaves no trace in the core. -/
theorem render_atBottom {c : Core R G} (bottom : c.session.AllPanes Pane.AtBottom) (format : SnapshotFormat R)
    (world : World) (targets : Option (List Nat)) : c.apply format world (.render targets) = c.refresh world :=
  draw_atBottom (refresh_all Pane.atBottom_stable bottom.1 world) _

end Core

/-- Handlers put the view back, so that every operation of the loop keeps it at the bottom. -/
theorem keeps_atBottom {R G : Type} [Vt100 G] [ViewedVt100 G] (c : Core R G) {op : Op R}
    (handled : ∀ id, op ≠ .pane id .syncScrollback) : c.Keeps Pane.AtBottom op := by
  cases op with
  | pane id op =>
      intro pane _ bottom
      cases op with
      | write bytes => exact bottom
      | scrollUp lines =>
          simp only [PaneOp.apply, Pane.scrollUp, Pane.AtBottom, Pane.setScrollback_back bottom]
          exact bottom
      | scrollDown lines => exact bottom
      | snapToBottom => exact bottom
      | syncScrollback => exact absurd rfl (handled id)
      | resetScrollbackView =>
          simp only [PaneOp.apply, Pane.resetScrollbackView, Pane.AtBottom, ViewedVt100.setScrollback_bottom _ bottom]
          exact bottom
      | copyOut payload => exact bottom
      | dump includeScrollback => exact Pane.atBottom_stable.dumped includeScrollback pane bottom
  | answer reply =>
      intro prompt _ pane _ bottom
      cases reply <;> exact bottom
  | _ => trivial

namespace Loop
variable {R G U : Type} [RatioOps R] [Vt100 G] {format : SnapshotFormat R} {world : World}

/-! ## The session without its clients -/

/-- The same session and user interface; pending redraws and clients may differ. -/
structure SameSession (l m : Loop R G U) : Prop where
  core : m.core = l.core
  ui : m.ui = l.ui
  ended : m.ended = l.ended

omit [RatioOps R] [Vt100 G] in
theorem SameSession.refl (l : Loop R G U) : l.SameSession l := ⟨rfl, rfl, rfl⟩

omit [RatioOps R] [Vt100 G] in
theorem SameSession.symm {l m : Loop R G U} (same : l.SameSession m) : m.SameSession l :=
  ⟨same.core.symm, same.ui.symm, same.ended.symm⟩

theorem SameSession.perform {l m : Loop R G U} (same : l.SameSession m) (op : Op R) :
    (l.perform format world op).SameSession (m.perform format world op) :=
  ⟨congrArg (Core.apply format world op) same.core, same.ui, same.ended⟩

theorem SameSession.frontOp {l m : Loop R G U} (same : l.SameSession m) (front : FrontOp R U) :
    (l.frontOp format world front).SameSession (m.frontOp format world front) := by
  simp only [Loop.frontOp, same.ended, same.core]
  split
  · exact same
  split
  · split
    · exact ⟨rfl, same.ui, rfl⟩
    · exact same.perform _
  · exact same.perform _
  · exact ⟨rfl, by rw [same.ui], rfl⟩
  · exact ⟨rfl, same.ui, rfl⟩
  · exact ⟨rfl, same.ui, rfl⟩

/-- A handler decides from what both have in common. -/
theorem SameSession.handle {l m : Loop R G U} (same : l.SameSession m) (handler : Handler R G U) :
    (l.handle format world handler).SameSession (m.handle format world handler) := by
  simp only [Loop.handle, same.core, same.ui]
  generalize handler l.ui l.core = fronts
  induction fronts generalizing l m with
  | nil => exact same
  | cons front fronts ih => exact ih (same.frontOp front)

variable [Interface U]

theorem SameSession.upkeep {l m : Loop R G U} (same : l.SameSession m) (feeds : Nat → Pane.Feed) :
    (l.upkeep format world feeds).SameSession (m.upkeep format world feeds) := by
  have detected : (l.detect format world feeds).SameSession (m.detect format world feeds) := by
    have read : (l.perform format world (.read feeds)).SameSession (m.perform format world (.read feeds)) := same.perform _
    have prompted : ((l.perform format world (.read feeds)).perform format world .prompt).SameSession
        ((m.perform format world (.read feeds)).perform format world .prompt) := read.perform .prompt
    exact ⟨prompted.core, prompted.ui, prompted.ended⟩
  have restarted : ((l.detect format world feeds).restartAll format world).SameSession
      ((m.detect format world feeds).restartAll format world) := (detected.perform .restart).perform .restartInactive
  have closed : (((l.detect format world feeds).restartAll format world).closeDeadTab format world).SameSession
      (((m.detect format world feeds).restartAll format world).closeDeadTab format world) := by
    generalize (l.detect format world feeds).restartAll format world = a at restarted ⊢
    generalize (m.detect format world feeds).restartAll format world = b at restarted ⊢
    simp only [closeDeadTab, restarted.core]
    split
    · exact restarted
    split
    · exact ⟨rfl, restarted.ui, rfl⟩
    · exact ⟨rfl, by rw [restarted.ui], restarted.ended⟩
  simp only [Loop.upkeep, closed.ended]
  split
  · exact closed
  · exact closed.perform .unzoomMissing

/-- Clients that ask for the same size get it in the same way. -/
theorem SameSession.takeSize {l m : Loop R G U} (same : l.SameSession m)
    (size : effectiveSize m.clients = effectiveSize l.clients) :
    (l.takeSize format world).SameSession (m.takeSize format world) := by
  simp only [Loop.takeSize, size, same.core]
  split
  · have resized (tw th : Nat) :
        (l.perform format world (.resizeTerminal tw th)).SameSession (m.perform format world (.resizeTerminal tw th)) :=
      same.perform _
    obtain ⟨core, _, ended⟩ := resized (effectiveSize l.clients).1 (effectiveSize l.clients).2
    exact ⟨core, by simp [same.ui], ended⟩
  · exact same

omit [Interface U] in
theorem SameSession.frame [ViewedVt100 G] {l m : Loop R G U} (same : l.SameSession m)
    (bottom : l.core.session.AllPanes Pane.AtBottom) (left right : FrameInput) :
    (l.frame format world left).SameSession (m.frame format world right) := by
  have drawn (n : Loop R G U) (core : n.core = l.core) (input : FrameInput) :
      (n.frame format world input).core = l.core.refresh world ∧ (n.frame format world input).ui = n.ui ∧
        (n.frame format world input).ended = n.ended := by
    have rendered (targets : Option (List Nat)) : n.core.apply format world (.render targets) = l.core.refresh world := by
      rw [core]
      exact Core.render_atBottom bottom format world targets
    simp only [Loop.frame, rendered]
    split
    · split <;> exact ⟨rfl, rfl, rfl⟩
    · exact ⟨rfl, rfl, rfl⟩
  obtain ⟨coreLeft, uiLeft, endedLeft⟩ := drawn l rfl left
  obtain ⟨coreRight, uiRight, endedRight⟩ := drawn m same.core right
  exact ⟨coreRight.trans coreLeft.symm, uiRight.trans (same.ui.trans uiLeft.symm),
    endedRight.trans (same.ended.trans endedLeft.symm)⟩

/-! ## What every state keeps -/

/-- Every client has an id of its own, given out before. -/
structure DistinctIds (l : Loop R G U) : Prop where
  nodup : (l.clients.map (·.id)).Nodup
  below : ∀ c ∈ l.clients, c.id < l.nextClientId

omit [RatioOps R] [Vt100 G] [Interface U] in
theorem DistinctIds.eq {l : Loop R G U} (distinct : l.DistinctIds) {a b : ConnectedClient} (memberA : a ∈ l.clients)
    (memberB : b ∈ l.clients) (same : a.id = b.id) : a = b :=
  List.inj_on_of_nodup_map distinct.nodup memberA memberB same

omit [RatioOps R] [Vt100 G] [Interface U] in
/-- Fewer clients under the same ids. -/
theorem DistinctIds.sublist {l m : Loop R G U} (distinct : l.DistinctIds)
    (fewer : (m.clients.map (·.id)).Sublist (l.clients.map (·.id))) (next : m.nextClientId = l.nextClientId) :
    m.DistinctIds := by
  refine ⟨distinct.nodup.sublist fewer, fun c member => ?_⟩
  obtain ⟨old, oldMember, same⟩ := List.mem_map.mp (fewer.subset (List.mem_map_of_mem member))
  rw [next, ← same]
  exact distinct.below old oldMember

omit [RatioOps R] [Vt100 G] [Interface U] in
theorem DistinctIds.same {l m : Loop R G U} (distinct : l.DistinctIds) (same : l.SameClients m) : m.DistinctIds :=
  distinct.sublist (by rw [same.clients]) same.nextClientId

theorem acceptClient_distinctIds {l : Loop R G U} (distinct : l.DistinctIds) (w h : Nat) (mode : AttachMode)
    (connected : Bool) : (l.acceptClient format world w h mode connected).DistinctIds := by
  simp only [acceptClient]
  split
  · exact distinct
  obtain ⟨clients, next, _⟩ := takeSize_clients format world (l.join w h mode)
  have joined : (l.join w h mode).DistinctIds := by
    constructor
    · simp only [join, List.map_append, List.map_cons, List.map_nil]
      split
      · simp
      · refine List.nodup_append.mpr ⟨distinct.nodup, List.nodup_singleton _, fun id old other new same => ?_⟩
        obtain ⟨c, member, rfl⟩ := List.mem_map.mp old
        have below := distinct.below c member
        rw [same, List.mem_singleton.mp new] at below
        exact Nat.lt_irrefl _ below
    · intro c member
      simp only [join, List.mem_append, List.mem_singleton] at member ⊢
      rcases member with old | rfl
      · split at old
        · cases old
        · exact (distinct.below c old).trans (Nat.lt_succ_self _)
      · exact Nat.lt_succ_self _
  exact joined.sublist (by rw [clients]) next

omit [Interface U] in
theorem receive_ids (format : SnapshotFormat R) (world : World) (client : ConnectedClient) (l : Loop R G U) (msg : ClientMsg R G U) :
    (l.receive format world client msg).clients.map (·.id) = l.clients.map (·.id) ∧
      (l.receive format world client msg).nextClientId = l.nextClientId := by
  cases msg with
  | event handler detach =>
      have same := handle_sameClients format world l handler
      simp only [receive]
      split
      · exact ⟨rfl, rfl⟩
      split
      · exact ⟨by rw [same.clients], same.nextClientId⟩
      · exact ⟨by rw [same.clients], same.nextClientId⟩
  | resize w h =>
      refine ⟨?_, rfl⟩
      simp only [receive, List.map_map]
      refine List.map_congr_left fun c _ => ?_
      simp only [Function.comp]
      split <;> rfl
  | detach => exact ⟨rfl, rfl⟩
  | disconnected => exact ⟨rfl, rfl⟩
  | kill =>
      simp only [receive]
      split <;> exact ⟨rfl, rfl⟩

theorem settle_nextClientId (l : Loop R G U) : (l.settle format world).nextClientId = l.nextClientId := by
  have sized : (l.takeSizes format world).nextClientId = l.nextClientId := by
    simp only [takeSizes]
    split
    · exact (takeSize_clients format world l).2.1
    · rfl
  simp only [settle, depart]
  split
  · split
    · split <;> exact sized
    · exact (takeSize_clients ..).2.1.trans sized
  · exact sized

theorem step_distinctIds {l : Loop R G U} (distinct : l.DistinctIds) (label : World × LoopOp R G U) :
    (l.step format label).DistinctIds := by
  obtain ⟨world, op⟩ := label
  simp only [step]
  split
  · exact distinct
  cases op with
  | upkeep feeds =>
      have kept : (l.upkeep format world feeds).DistinctIds := distinct.same (upkeep_sameClients l feeds)
      exact kept
  | front handler => exact distinct.same (handle_sameClients format world l handler)
  | attach w h mode connected => exact acceptClient_distinctIds distinct w h mode connected
  | message id msg =>
      simp only [apply, message]
      split
      · exact distinct
      · rename_i client _
        obtain ⟨ids, next⟩ := receive_ids format world client l msg
        exact distinct.sublist (by rw [ids]) next
  | outputFailed id => exact distinct.sublist (List.Sublist.refl _) rfl
  | settle =>
      refine distinct.sublist ?_ (settle_nextClientId l)
      rw [apply, settle_clients]
      exact List.filter_sublist.map _
  | frame input => exact distinct.same (frame_sameClients l input)
  | kill => exact distinct.sublist (List.Sublist.refl _) rfl

/-! ### The view -/

variable [ViewedVt100 G]

/-- No pane of any tab looks at its history. -/
def AtBottom (l : Loop R G U) : Prop := l.core.session.AllPanes Pane.AtBottom

omit [RatioOps R] [Interface U] in
theorem atBottom_indifferent : Indifferent (AtBottom (R := R) (G := G) (U := U)) :=
  { ui := fun _ _ bottom => bottom
    ended := fun _ bottom => bottom
    marked := fun _ _ bottom => bottom
    clients := fun _ _ _ _ _ _ bottom => bottom }

omit [Interface U] in
theorem perform_atBottom {l : Loop R G U} (bottom : l.AtBottom) {op : Op R}
    (handled : ∀ id, op ≠ .pane id .syncScrollback) : (l.perform format world op).AtBottom :=
  Core.apply_allPanes Pane.atBottom_stable format world bottom (keeps_atBottom l.core handled)

theorem upkeep_atBottom {l : Loop R G U} (bottom : l.AtBottom) (feeds : Nat → Pane.Feed) :
    (l.upkeep format world feeds).AtBottom := by
  have read : (l.perform format world (.read feeds)).AtBottom := perform_atBottom bottom (by simp)
  have prompted : ((l.perform format world (.read feeds)).perform format world .prompt).AtBottom :=
    perform_atBottom read (by simp)
  have detected : (l.detect format world feeds).AtBottom := prompted
  have restarted : ((l.detect format world feeds).perform format world .restart).AtBottom :=
    perform_atBottom detected (by simp)
  have all : (((l.detect format world feeds).perform format world .restart).perform format world .restartInactive).AtBottom :=
    perform_atBottom restarted (by simp)
  have closed (m : Loop R G U) (bottom : m.AtBottom) : (m.closeDeadTab format world).AtBottom := by
    simp only [closeDeadTab]
    split
    · exact bottom
    split
    · exact bottom
    · have kept : (m.core.apply format world .closeTab).session.AllPanes Pane.AtBottom :=
        Core.apply_allPanes Pane.atBottom_stable format world bottom trivial
      exact kept
  simp only [upkeep]
  split
  · exact closed _ all
  · exact perform_atBottom (closed _ all) (by simp)

theorem step_atBottom {l : Loop R G U} (bottom : l.AtBottom) (label : World × LoopOp R G U) :
    (l.step format label).AtBottom := by
  obtain ⟨world, op⟩ := label
  have performs (l : Loop R G U) (op : Op R) (bottom : l.AtBottom) (handled : op.handled = true) (_ : True) :
      (l.perform format world op).AtBottom := perform_atBottom bottom fun id same => by
    rw [same] at handled
    cases handled
  have resizes (l : Loop R G U) (tw th : Nat) (bottom : l.AtBottom) :
      (l.perform format world (.resizeTerminal tw th)).AtBottom := perform_atBottom bottom (by simp)
  simp only [step]
  split
  · exact bottom
  cases op with
  | upkeep feeds =>
      have kept : (l.upkeep format world feeds).AtBottom := upkeep_atBottom bottom feeds
      exact kept
  | front handler =>
      exact handle_invariant atBottom_indifferent.toInert performs bottom handler (each_of_forall (fun _ _ => trivial) _ _)
  | attach w h mode connected =>
      exact acceptClient_invariant atBottom_indifferent resizes (fun _ _ _ _ bottom => bottom) (fun _ bottom => bottom)
        bottom w h mode connected
  | message id msg =>
      exact message_invariant atBottom_indifferent performs bottom id msg (handles_of_forall (fun _ _ => trivial) _ _)
  | outputFailed id => exact bottom
  | settle =>
      exact settle_invariant atBottom_indifferent resizes (fun _ bottom => perform_atBottom bottom (by simp)) bottom
  | frame input =>
      have drawn (targets : Option (List Nat)) : (l.perform format world (.render targets)).AtBottom :=
        perform_atBottom bottom (by simp)
      simp only [apply, frame]
      split
      · split <;> exact drawn _
      · exact drawn _
  | kill => exact bottom

end Loop

end Ezpn
