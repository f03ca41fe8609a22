import Ezpn.Lib.Pairing
import Ezpn.Server.Loop.SameSession

/-!
# Clients that only watch

What a read-only client sends changes the redraws that are pending and the list of
clients. Two runs that differ in such messages have the same session, as long as a
client that may type is attached and the same clients are let in.
-/

set_option autoImplicit false

namespace Ezpn.Loop
variable {R G U : Type}

/-! ## Twins -/

/-- Whether the client's messages of this iteration are over. -/
def leaves (l : Loop R G U) (id : Nat) : Bool := l.detachIds.contains id || l.disconnectIds.contains id

def writers (l : Loop R G U) : List ConnectedClient := l.clients.filter (·.writes)

/-- The same session, and the same clients that may type, of which there is one. Clients that
only watch may differ. -/
structure Close (l m : Loop R G U) : Prop where
  session : l.SameSession m
  nextClientId : m.nextClientId = l.nextClientId
  writers : m.writers = l.writers
  typed : l.writers ≠ []
  leaving : ∀ id, (l.nextClientId ≤ id ∨ ∃ c ∈ l.writers, c.id = id) → m.leaves id = l.leaves id

/-- Close, and the session has the size that its clients ask for unless both will look again. -/
structure Agree (l m : Loop R G U) : Prop extends Close l m where
  sized : (l.sizeChanged = true ∧ m.sizeChanged = true) ∨ l.Fits

theorem any_writes {l : Loop R G U} (typed : l.writers ≠ []) : l.clients.any (·.writes) = true := by
  obtain ⟨c, member⟩ := List.exists_mem_of_ne_nil _ typed
  exact List.any_eq_true.mpr ⟨c, (List.mem_filter.mp member).1, (List.mem_filter.mp member).2⟩

/-- Clients that only watch do not count. -/
theorem effectiveSize_eq {l m : Loop R G U} (typed : l.writers ≠ []) (writers : m.writers = l.writers) :
    effectiveSize m.clients = effectiveSize l.clients := by
  have typedRight : m.writers ≠ [] := by rwa [writers]
  have same : m.clients.filter (·.writes) = l.clients.filter (·.writes) := writers
  rw [effectiveSize_writers (any_writes typed), effectiveSize_writers (any_writes typedRight), same]

theorem fits_iff {l m : Loop R G U} (typed : l.writers ≠ []) (writers : m.writers = l.writers)
    (same : l.SameSession m) : m.Fits ↔ l.Fits := by
  rw [Fits, Fits, effectiveSize_eq typed writers, same.core]

namespace Agree
variable {l m : Loop R G U}

theorem symm (agree : l.Agree m) : m.Agree l :=
  { session := agree.session.symm
    nextClientId := agree.nextClientId.symm
    writers := agree.writers.symm
    typed := by
      rw [agree.writers]
      exact agree.typed
    leaving := fun id known => by
      rw [agree.nextClientId, agree.writers] at known
      exact (agree.leaving id known).symm
    sized := agree.sized.imp And.symm (fits_iff agree.typed agree.writers agree.session).mpr }

/-- Steps that leave the clients alone. -/
theorem same {left right : Loop R G U} (agree : l.Agree m) (sameLeft : l.SameClients left)
    (sameRight : m.SameClients right) (session : left.SameSession right) : left.Agree right := by
  have writersLeft : left.writers = l.writers := by rw [Loop.writers, sameLeft.clients, Loop.writers]
  have writersRight : right.writers = m.writers := by rw [Loop.writers, sameRight.clients, Loop.writers]
  refine ⟨⟨session, ?_, ?_, ?_, fun id known => ?_⟩, ?_⟩
  · rw [sameRight.nextClientId, sameLeft.nextClientId, agree.nextClientId]
  · rw [writersRight, writersLeft, agree.writers]
  · rw [writersLeft]
    exact agree.typed
  · rw [sameLeft.nextClientId, writersLeft] at known
    simp only [leaves, sameLeft.detachIds, sameLeft.disconnectIds, sameRight.detachIds, sameRight.disconnectIds]
    exact agree.leaving id known
  · rw [sameLeft.sizeChanged, sameRight.sizeChanged, Fits, sameLeft.size, sameLeft.clients]
    exact agree.sized

/-- A change on one side that touches only clients that watch. -/
theorem change {left : Loop R G U} (agree : l.Agree m) (session : l.SameSession left)
    (nextClientId : left.nextClientId = l.nextClientId) (writers : left.writers = l.writers)
    (leaving : ∀ id, (l.nextClientId ≤ id ∨ ∃ c ∈ l.writers, c.id = id) → left.leaves id = l.leaves id)
    (sized : l.sizeChanged = true → left.sizeChanged = true) : left.Agree m := by
  refine ⟨⟨⟨?_, ?_, ?_⟩, ?_, ?_, ?_, fun id known => ?_⟩, ?_⟩
  · rw [session.core, agree.session.core]
  · rw [session.ui, agree.session.ui]
  · rw [session.ended, agree.session.ended]
  · rw [nextClientId, agree.nextClientId]
  · rw [writers, agree.writers]
  · rw [writers]
    exact agree.typed
  · rw [nextClientId, writers] at known
    rw [leaving id known, agree.leaving id known]
  · exact agree.sized.imp (fun both => ⟨sized both.1, both.2⟩) (fits_iff agree.typed writers session).mpr

end Agree

/-! ## Messages of one side -/

section Alone
variable [RatioOps R] [Vt100 G] {format : SnapshotFormat R} {world : World} {l m : Loop R G U}

omit [RatioOps R] [Vt100 G] in
theorem sender_mem {id : Nat} {client : ConnectedClient} (sent : l.sender id = some client) :
    client ∈ l.clients ∧ client.id = id := by
  simp only [sender] at sent
  split at sent
  · cases sent
  · exact ⟨List.mem_of_find?_eq_some sent, by simpa using List.find?_some sent⟩

omit [RatioOps R] [Vt100 G] in
/-- Giving a client that only watches another size leaves the others as they are. -/
theorem writers_resize {id w h : Nat} (watches : ∀ c ∈ l.clients, c.id = id → c.mode = .readonly) :
    (l.clients.map fun c => if c.id = id then { c with tw := w, th := h } else c).filter (·.writes) =
      l.clients.filter (·.writes) := by
  have kept (clients : List ConnectedClient) (watches : ∀ c ∈ clients, c.id = id → c.mode = .readonly) :
      (clients.map fun c => if c.id = id then { c with tw := w, th := h } else c).filter (·.writes) =
        clients.filter (·.writes) := by
    induction clients with
    | nil => rfl
    | cons c clients ih =>
        have rest := ih fun c member => watches c (List.mem_cons_of_mem _ member)
        simp only [List.map_cons]
        by_cases here : c.id = id
        · have silent := watches c List.mem_cons_self here
          rw [if_pos here, List.filter_cons_of_neg (by simp [ConnectedClient.writes, silent]),
            List.filter_cons_of_neg (by simp [ConnectedClient.writes, silent]), rest]
        · simp only [here, if_false, List.filter_cons, rest]
  exact kept l.clients watches

omit [RatioOps R] [Vt100 G] in
/-- A client that only watches has neither a writer's id nor one to come. -/
theorem watcher_ne (distinct : l.DistinctIds) {client : ConnectedClient} (member : client ∈ l.clients)
    (silent : client.mode = .readonly) {id : Nat} (known : l.nextClientId ≤ id ∨ ∃ c ∈ l.writers, c.id = id) :
    id ≠ client.id := by
  rintro rfl
  rcases known with fresh | ⟨c, writer, same⟩
  · exact absurd (distinct.below client member) (by omega)
  · obtain ⟨present, writes⟩ := List.mem_filter.mp writer
    rw [distinct.eq present member same] at writes
    simp [ConnectedClient.writes, silent] at writes

/-- A message under an id that no writing client has. -/
theorem Agree.message (agree : l.Agree m) (distinct : l.DistinctIds) (id : Nat) (msg : ClientMsg R G U)
    (watches : ∀ c ∈ l.clients, c.id = id → c.mode = .readonly) : (l.message format world id msg).Agree m := by
  simp only [Loop.message]
  split
  · exact agree
  rename_i client sent
  obtain ⟨member, rfl⟩ := sender_mem sent
  have silent := watches client member rfl
  have other (id : Nat) (known : l.nextClientId ≤ id ∨ ∃ c ∈ l.writers, c.id = id) : id ≠ client.id :=
    watcher_ne distinct member silent known
  cases msg with
  | event handler detach =>
      simp only [receive, silent, if_true]
      exact agree
  | resize w h =>
      exact agree.change ⟨rfl, rfl, rfl⟩ rfl (writers_resize watches) (fun _ _ => rfl) fun _ => rfl
  | detach =>
      refine agree.change ⟨rfl, rfl, rfl⟩ rfl rfl (fun id known => ?_) fun changed => changed
      simp [receive, leaves, other id known]
  | disconnected =>
      refine agree.change ⟨rfl, rfl, rfl⟩ rfl rfl (fun id known => ?_) fun changed => changed
      simp [receive, leaves, other id known]
  | kill =>
      simp only [receive, silent, if_true]
      exact agree

end Alone

/-! ## Messages of both sides -/

section Together
variable [RatioOps R] [Vt100 G] {format : SnapshotFormat R} {world : World} {l m : Loop R G U}

omit [RatioOps R] [Vt100 G] in
theorem leaves_detach (l : Loop R G U) (id other : Nat) :
    leaves { l with detachIds := l.detachIds ++ [id] } other = (l.leaves other || decide (other = id)) := by
  simp [leaves, Bool.or_assoc, Bool.or_comm]

omit [RatioOps R] [Vt100 G] in
theorem leaves_disconnect (l : Loop R G U) (id other : Nat) :
    leaves { l with disconnectIds := l.disconnectIds ++ [id] } other = (l.leaves other || decide (other = id)) := by
  simp [leaves, Bool.or_assoc]

omit [RatioOps R] [Vt100 G] in
theorem Agree.detach (agree : l.Agree m) (id : Nat) :
    Agree { l with detachIds := l.detachIds ++ [id] } { m with detachIds := m.detachIds ++ [id] } :=
  { agree with
    session := ⟨agree.session.core, agree.session.ui, agree.session.ended⟩
    leaving := fun other known => by rw [leaves_detach, leaves_detach, agree.leaving other known] }

omit [RatioOps R] [Vt100 G] in
theorem Agree.disconnect (agree : l.Agree m) (id : Nat) :
    Agree { l with disconnectIds := l.disconnectIds ++ [id] } { m with disconnectIds := m.disconnectIds ++ [id] } :=
  { agree with
    session := ⟨agree.session.core, agree.session.ui, agree.session.ended⟩
    leaving := fun other known => by rw [leaves_disconnect, leaves_disconnect, agree.leaving other known] }

omit [RatioOps R] [Vt100 G] in
theorem writers_map {f : ConnectedClient → ConnectedClient} (mode : ∀ c, (f c).mode = c.mode)
    (clients : List ConnectedClient) : (clients.map f).filter (·.writes) = (clients.filter (·.writes)).map f := by
  rw [List.filter_map]
  refine congrArg (List.map f) (List.filter_congr fun c _ => ?_)
  simp [ConnectedClient.writes, mode]

/-- The same client sends the same message. -/
theorem Agree.receive (agree : l.Agree m) (client : ConnectedClient) (msg : ClientMsg R G U) :
    (l.receive format world client msg).Agree (m.receive format world client msg) := by
  cases msg with
  | event handler detach =>
      have handled := agree.same (handle_sameClients format world l handler)
        (handle_sameClients format world m handler) (agree.session.handle handler)
      simp only [Loop.receive]
      split
      · exact agree
      split
      · exact handled.detach client.id
      · exact handled
  | resize w h =>
      let resized (c : ConnectedClient) : ConnectedClient := if c.id = client.id then { c with tw := w, th := h } else c
      have mode (c : ConnectedClient) : (resized c).mode = c.mode := by
        simp only [resized]
        split <;> rfl
      have id (c : ConnectedClient) : (resized c).id = c.id := by
        simp only [resized]
        split <;> rfl
      have left : (l.receive format world client (.resize w h)).writers = l.writers.map resized := writers_map mode l.clients
      have right : (m.receive format world client (.resize w h)).writers = m.writers.map resized := writers_map mode m.clients
      refine ⟨⟨⟨agree.session.core, agree.session.ui, agree.session.ended⟩, agree.nextClientId, ?_, ?_,
        fun other known => ?_⟩, .inl ⟨rfl, rfl⟩⟩
      · rw [left, right, agree.writers]
      · rw [left]
        simpa using agree.typed
      · refine agree.leaving other (known.imp_right ?_)
        rintro ⟨c, writer, same⟩
        rw [left] at writer
        obtain ⟨old, oldWriter, rfl⟩ := List.mem_map.mp writer
        exact ⟨old, oldWriter, (id old).symm.trans same⟩
  | detach => exact agree.detach client.id
  | disconnected => exact agree.disconnect client.id
  | kill =>
      simp only [Loop.receive]
      split
      · exact agree
      · exact { agree with session := ⟨agree.session.core, agree.session.ui, rfl⟩ }

omit [RatioOps R] [Vt100 G] in
/-- A client that may type is under its id in both. -/
theorem Agree.sender (agree : l.Agree m) (distinctLeft : l.DistinctIds) (distinctRight : m.DistinctIds)
    {c : ConnectedClient} (writer : c ∈ l.writers) : m.sender c.id = l.sender c.id := by
  have found {n : Loop R G U} (distinct : n.DistinctIds) (present : c ∈ n.clients) :
      n.clients.find? (fun other => other.id = c.id) = some c := by
    cases found : n.clients.find? fun other => other.id = c.id with
    | none =>
        have absent := List.find?_eq_none.mp found c present
        simp at absent
    | some other =>
        have same := List.find?_some found
        rw [distinct.eq (List.mem_of_find?_eq_some found) present (by simpa using same)]
  have writerRight : c ∈ m.writers := by rwa [agree.writers]
  have leaving := agree.leaving c.id (.inr ⟨c, writer, rfl⟩)
  simp only [leaves] at leaving
  simp only [Loop.sender, leaving, found distinctLeft (List.mem_filter.mp writer).1,
    found distinctRight (List.mem_filter.mp writerRight).1]

/-- Both read a message under an id. Where no writer has it, it is a matter of each side. -/
theorem Agree.messages (agree : l.Agree m) (distinctLeft : l.DistinctIds) (distinctRight : m.DistinctIds) (id : Nat)
    (msg : ClientMsg R G U) : (l.message format world id msg).Agree (m.message format world id msg) := by
  by_cases known : ∃ c ∈ l.writers, c.id = id
  · obtain ⟨c, writer, rfl⟩ := known
    simp only [Loop.message, agree.sender distinctLeft distinctRight writer]
    split
    · exact agree
    · exact agree.receive _ msg
  · have watches {n : Loop R G U} (same : n.writers = l.writers) (c : ConnectedClient) (member : c ∈ n.clients)
        (here : c.id = id) : c.mode = .readonly := by
      by_contra types
      refine known ⟨c, same ▸ List.mem_filter.mpr ⟨member, ?_⟩, here⟩
      simp [ConnectedClient.writes, types]
    have first : (l.message format world id msg).Agree m := agree.message distinctLeft id msg (watches rfl)
    exact (first.symm.message distinctRight id msg (watches agree.writers)).symm

/-! ## Clients that come and go -/

variable [Interface U]

/-- Clients that ask for the same size get it. -/
theorem Close.takeSize (close : l.Close m) : (l.takeSize format world).Close (m.takeSize format world) := by
  obtain ⟨clients, next, _, detachIds, disconnectIds⟩ := takeSize_clients format world l
  obtain ⟨clients', next', _, detachIds', disconnectIds'⟩ := takeSize_clients format world m
  refine ⟨close.session.takeSize (effectiveSize_eq close.typed close.writers), ?_, ?_, ?_, fun id known => ?_⟩
  · rw [next, next', close.nextClientId]
  · rw [Loop.writers, Loop.writers, clients, clients']
    exact close.writers
  · rw [Loop.writers, clients]
    exact close.typed
  · rw [next, Loop.writers, clients] at known
    simp only [leaves, detachIds, disconnectIds, detachIds', disconnectIds']
    exact close.leaving id known

omit [RatioOps R] [Vt100 G] [Interface U] in
/-- A client is let in by both. -/
theorem Close.join (close : l.Close m) (w h : Nat) (mode : AttachMode) : (l.join w h mode).Close (m.join w h mode) := by
  let client : ConnectedClient :=
    { id := l.nextClientId, mode, tw := (normalizeSize w h).1, th := (normalizeSize w h).2 }
  have joined {n : Loop R G U} (next : n.nextClientId = l.nextClientId) :
      (n.join w h mode).writers = (if mode = .steal then [] else n.writers) ++ [client].filter (·.writes) := by
    simp only [Loop.writers, Loop.join, List.filter_append, next, client]
    split <;> rfl
  refine ⟨⟨close.session.core, close.session.ui, close.session.ended⟩, congrArg (· + 1) close.nextClientId, ?_, ?_,
    fun id known => close.leaving id ?_⟩
  · rw [joined close.nextClientId, joined rfl, close.writers]
  · rw [joined rfl]
    split
    · rename_i steals
      simp [client, ConnectedClient.writes, steals]
    · simp [close.typed]
  · rcases known with fresh | ⟨c, writer, rfl⟩
    · exact .inl (Nat.le_of_succ_le fresh)
    · rw [joined rfl, List.mem_append] at writer
      rcases writer with old | new
      · split at old
        · cases old
        · exact .inr ⟨c, old, rfl⟩
      · have same := List.mem_singleton.mp (List.mem_filter.mp new).1
        exact .inl (by rw [same])

theorem Agree.acceptClient (agree : l.Agree m) (w h : Nat) (mode : AttachMode) (connected : Bool)
    (admitted : m.accepts mode connected = l.accepts mode connected) :
    (l.acceptClient format world w h mode connected).Agree (m.acceptClient format world w h mode connected) := by
  simp only [Loop.acceptClient, admitted]
  split
  · exact agree
  · have sized : ((l.join w h mode).takeSize format world).Close ((m.join w h mode).takeSize format world) :=
      (agree.toClose.join w h mode).takeSize
    have fits := takeSize_fits format world (l.join w h mode)
    exact ⟨{ sized with session := ⟨congrArg Core.markBorders sized.session.core, sized.session.ui, sized.session.ended⟩ },
      .inr fits⟩

omit [RatioOps R] [Vt100 G] [Interface U] in
theorem writers_removeLeaving (n : Loop R G U) : n.removeLeaving.writers = n.writers.filter fun c => !n.leaves c.id := by
  simp only [Loop.writers, removeLeaving, List.filter_filter, leaves]
  exact List.filter_congr fun c _ => Bool.and_comm _ _

omit [RatioOps R] [Vt100 G] [Interface U] in
/-- The same clients that may type leave. -/
theorem Close.removeLeaving (close : l.Close m) (typed : l.removeLeaving.writers ≠ []) :
    l.removeLeaving.Close m.removeLeaving := by
  refine ⟨⟨close.session.core, close.session.ui, close.session.ended⟩, close.nextClientId, ?_, typed, fun _ _ => rfl⟩
  rw [writers_removeLeaving, writers_removeLeaving, close.writers]
  exact List.filter_congr fun c member => by rw [close.leaving c.id (.inr ⟨c, member, rfl⟩)]

theorem Agree.settle (agree : l.Agree m) (typed : (l.settle format world).writers ≠ []) :
    (l.settle format world).Agree (m.settle format world) := by
  have remaining : l.removeLeaving.writers ≠ [] := by
    simpa only [Loop.writers, settle_clients] using typed
  have left : l.removeLeaving.clients ≠ [] := fun none => remaining (by simp [Loop.writers, none])
  have right : m.removeLeaving.clients ≠ [] := by
    have same := (agree.toClose.removeLeaving remaining).writers
    intro none
    rw [← same] at remaining
    exact remaining (by simp [Loop.writers, none])
  have sized : (l.takeSize format world).Close (m.takeSize format world) := agree.toClose.takeSize
  have settled : Close { l.takeSize format world with sizeChanged := false }
      { m.takeSize format world with sizeChanged := false } :=
    ⟨⟨sized.session.core, sized.session.ui, sized.session.ended⟩, sized.nextClientId, sized.writers, sized.typed,
      sized.leaving⟩
  obtain ⟨clients, _, _, detachIds, disconnectIds⟩ := takeSize_clients format world l
  have typedAfter : ({ l.takeSize format world with sizeChanged := false } : Loop R G U).removeLeaving.writers ≠ [] := by
    simpa only [Loop.writers, Loop.removeLeaving, clients, detachIds, disconnectIds] using remaining
  have ready : l.sizeChanged = true ∨ l.Fits := agree.sized.imp_left And.left
  have readyRight : m.sizeChanged = true ∨ m.Fits := agree.symm.sized.imp_left And.left
  rw [settle_eq ready left, settle_eq readyRight right]
  exact ⟨(settled.removeLeaving typedAfter).takeSize, .inr (takeSize_fits ..)⟩

end Together

/-! ## Runs -/

section Runs
variable [RatioOps R] [Vt100 G] [Interface U] [ViewedVt100 G] {format : SnapshotFormat R}

/-- A client that only watches sends something, or its output fails. -/
def FromWatcher (l : Loop R G U) : World × LoopOp R G U → Prop
  | (_, .message id _) | (_, .outputFailed id) => ∃ c ∈ l.clients, c.id = id ∧ c.mode = .readonly
  | _ => False

/-- The same input for both runs; what a frame shows may differ. -/
inductive SameInput : World × LoopOp R G U → World × LoopOp R G U → Prop where
  | same (label : World × LoopOp R G U) : SameInput label label
  | frames (world : World) (left right : FrameInput) : SameInput (world, .frame left) (world, .frame right)

/-- A step of both runs after which a client that may type is attached to each. -/
def Common (format : SnapshotFormat R) (l m : Loop R G U) (left right : World × LoopOp R G U) : Prop :=
  SameInput left right ∧ (l.step format left).writers ≠ [] ∧ (m.step format right).writers ≠ []

/-- The same clients are let in. -/
def Admitted (l m : Loop R G U) : World × LoopOp R G U → Prop
  | (_, .attach _ _ mode connected) => m.accepts mode connected = l.accepts mode connected
  | _ => True

/-- Two states of runs that differ in clients that only watch. -/
structure Twins (l m : Loop R G U) : Prop where
  agree : l.Agree m
  distinctLeft : l.DistinctIds
  distinctRight : m.DistinctIds
  bottomLeft : l.AtBottom
  bottomRight : m.AtBottom

omit [RatioOps R] [Interface U] in
theorem Twins.symm {l m : Loop R G U} (twins : l.Twins m) : m.Twins l :=
  ⟨twins.agree.symm, twins.distinctRight, twins.distinctLeft, twins.bottomRight, twins.bottomLeft⟩

theorem Twins.alone {l m : Loop R G U} (twins : l.Twins m) (label : World × LoopOp R G U)
    (watcher : l.FromWatcher label) : (l.step format label).Twins m := by
  refine ⟨?_, step_distinctIds twins.distinctLeft label, twins.distinctRight, step_atBottom twins.bottomLeft label,
    twins.bottomRight⟩
  obtain ⟨world, op⟩ := label
  simp only [step]
  split
  · exact twins.agree
  cases op with
  | message id msg =>
      obtain ⟨c, member, rfl, silent⟩ := watcher
      refine twins.agree.message twins.distinctLeft c.id msg fun other otherMember same => ?_
      rw [twins.distinctLeft.eq otherMember member same]
      exact silent
  | outputFailed id =>
      obtain ⟨c, member, rfl, silent⟩ := watcher
      refine twins.agree.change ⟨rfl, rfl, rfl⟩ rfl rfl (fun id known => ?_) fun changed => changed
      have other := watcher_ne twins.distinctLeft member silent known
      simp [apply, leaves, other]
  | _ => cases watcher

theorem Twins.both {l m : Loop R G U} (twins : l.Twins m) (left right : World × LoopOp R G U)
    (common : Common format l m left right) (admitted : l.Admitted m left) :
    (l.step format left).Twins (m.step format right) := by
  refine ⟨?_, step_distinctIds twins.distinctLeft left, step_distinctIds twins.distinctRight right,
    step_atBottom twins.bottomLeft left, step_atBottom twins.bottomRight right⟩
  obtain ⟨same, typed, _⟩ := common
  have agree := twins.agree
  have stopped : m.ended = l.ended := agree.session.ended
  cases same with
  | frames world left right =>
      simp only [step, stopped]
      split
      · exact agree
      · exact agree.same (frame_sameClients l left) (frame_sameClients m right)
          (agree.session.frame twins.bottomLeft left right)
  | same label =>
      obtain ⟨world, op⟩ := left
      simp only [step, stopped] at typed ⊢
      split
      · exact agree
      rename_i running
      rw [if_neg running] at typed
      cases op with
      | upkeep feeds =>
          have served : (l.upkeep format world feeds).Agree (m.upkeep format world feeds) :=
            agree.same (upkeep_sameClients l feeds) (upkeep_sameClients m feeds) (agree.session.upkeep feeds)
          exact served
      | front handler =>
          exact agree.same (handle_sameClients format world l handler) (handle_sameClients format world m handler) (agree.session.handle handler)
      | attach w h mode connected => exact agree.acceptClient w h mode connected admitted
      | message id msg => exact agree.messages twins.distinctLeft twins.distinctRight id msg
      | outputFailed id => exact agree.disconnect id
      | settle => exact agree.settle typed
      | frame input =>
          exact agree.same (frame_sameClients l input) (frame_sameClients m input)
            (agree.session.frame twins.bottomLeft input input)
      | kill => exact { agree with session := ⟨agree.session.core, agree.session.ui, rfl⟩ }

/-- After each round of bookkeeping the session has the largest size that fits the clients that
count. Two runs that differ in what read-only clients send, with a client that may type and with
the same clients let in, have the same session and user interface. -/
theorem size_and_watchers (format : SnapshotFormat R) {bootWorld : World} {config : LaunchConfig}
    {startup : Startup R} {session : Session R G} (booted : boot format bootWorld config startup = .ok session) (ui : U)
    {log : List (Loop R G U × (World × LoopOp R G U))} {l : Loop R G U}
    (history : Machine.History (step format) { core := { session }, ui } log l) :
    (∀ entry ∈ log, ∀ world, entry.2 = (world, .settle) →
        let after := entry.1.settle format world
        after.clients ≠ [] →
          (after.core.session.tw, after.core.session.th) = effectiveSize after.clients ∧
            FitsAll after.clients (after.core.session.tw, after.core.session.th)) ∧
      (l.writers ≠ [] → ∀ left right,
        Machine.Paired (step format) FromWatcher (fun a b x y => Common format a b x y ∧ a.Admitted b x) l left right →
          right.core = left.core ∧ right.ui = left.ui ∧ right.ended = left.ended) := by
  have initial : DistinctIds ({ core := { session }, ui } : Loop R G U) := ⟨List.nodup_nil, by simp⟩
  have sized := history.invariant Sized (fun _ _ => True)
    (fun l label sized _ => step_sized sized label) (fun attached => absurd rfl attached) (by simp)
  constructor
  · intro entry member world _ after attached
    have fits : (after.core.session.tw, after.core.session.th) = effectiveSize after.clients :=
      settle_fits (sized.2 entry member) attached
    exact ⟨fits, fits ▸ effectiveSize_fitsAll attached⟩
  · intro typed left right paired
    have distinct : l.DistinctIds := (history.invariant DistinctIds (fun _ _ => True)
      (fun l label distinct _ => step_distinctIds distinct label) initial (by simp)).1
    have bottom : l.AtBottom := (history.invariant AtBottom (fun _ _ => True)
      (fun l label bottom _ => step_atBottom bottom label) (Session.boot_allPanes Pane.atBottom_stable booted)
      (by simp)).1
    have ready := sized.1 fun none => typed (by simp [writers, none])
    have agree : l.Agree l := ⟨⟨.refl l, rfl, rfl, typed, fun _ _ => rfl⟩, ready.imp_left fun changed => ⟨changed, changed⟩⟩
    have twins : left.Twins right := paired.related (fun _ _ twins => twins.symm)
      (fun _ _ label twins watcher => twins.alone label watcher)
      (fun _ _ a b twins common => twins.both a b common.1 common.2) ⟨agree, distinct, distinct, bottom, bottom⟩
    exact ⟨twins.agree.session.core, twins.agree.session.ui, twins.agree.session.ended⟩

end Runs

/-- One client that may type and as many others as there is room for. -/
def fullHouse : List (World × LoopOp ℚ RawDisplay Unit) :=
  ({}, .attach 80 24 .shared true) :: List.replicate 31 ({}, .attach 80 24 .readonly true)

/-- When a client that watches leaves, there is room for one that types on a smaller screen. -/
theorem watcher_makes_room :
    ¬∀ (log : List (Loop ℚ RawDisplay Unit × (World × LoopOp ℚ RawDisplay Unit))) (l : Loop ℚ RawDisplay Unit),
      Machine.History (step plainFormat) { core := { session := oneShell }, ui := () } log l →
      l.writers ≠ [] → ∀ left right,
        Machine.Paired (step plainFormat) FromWatcher (Common plainFormat) l left right →
          (right.core.session.tw, right.core.session.th) = (left.core.session.tw, left.core.session.th) := by
  intro claimed
  have run := Machine.History.of_labels (step plainFormat)
    ({ core := { session := oneShell }, ui := () } : Loop ℚ RawDisplay Unit) fullHouse
  generalize built : fullHouse.foldl (step plainFormat) { core := { session := oneShell }, ui := () } = l at run
  have together : Machine.Paired (step plainFormat) FromWatcher (Common plainFormat) l l l := .start
  have gone := together.left ({}, .message 2 .disconnected) ?_
  · have settled := gone.both ({}, .settle) ({}, .settle) ⟨.same _, ?_, ?_⟩
    · have joined := settled.both ({}, .attach 40 10 .shared true) ({}, .attach 40 10 .shared true) ⟨.same _, ?_, ?_⟩
      · have same := claimed _ l run ?_ _ _ joined
        · subst built
          revert same
          decide +kernel
        · subst built
          decide +kernel
      · subst built
        decide +kernel
      · subst built
        decide +kernel
    · subst built
      decide +kernel
    · subst built
      decide +kernel
  · subst built
    show ∃ c ∈ _, _
    decide +kernel

theorem watcher_resize_ignored :
    let labels : List (World × LoopOp ℚ RawDisplay Unit) :=
      [({}, .attach 80 24 .shared true), ({}, .attach 80 24 .readonly true)]
    let l := labels.foldl (step plainFormat) { core := { session := oneShell }, ui := () }
    let left := step plainFormat (step plainFormat l ({}, .message 2 (.resize 20 10))) ({}, .settle)
    let right := step plainFormat l ({}, .settle)
    right.core = left.core ∧ right.ui = left.ui ∧ right.ended = left.ended := by
  intro labels l left right
  have run := Machine.History.of_labels (step plainFormat)
    ({ core := { session := oneShell }, ui := () } : Loop ℚ RawDisplay Unit) labels
  have typed : l.writers ≠ [] := by decide +kernel
  refine (size_and_watchers plainFormat oneShell_booted () run).2 typed left right ?_
  let resized : World × LoopOp ℚ RawDisplay Unit := ({}, .message 2 (.resize 20 10))
  let settled : World × LoopOp ℚ RawDisplay Unit := ({}, .settle)
  refine .both (.left .start resized ?_) settled settled ⟨⟨.same _, ?_, ?_⟩, trivial⟩
  · show ∃ c ∈ _, _
    decide +kernel
  · decide +kernel
  · decide +kernel

end Ezpn.Loop
