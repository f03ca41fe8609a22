import Ezpn.Server.Input
import Ezpn.Server.Output.Delivery

/-!
# What the input queue delivers

Invariants of every interleaving of the reader and the main loop, and from them
the order of the messages, the accounting and the end of the connection.
-/

set_option autoImplicit false

namespace Ezpn

namespace Input

open Output (queueBytes fetchSub fetchSub_eq)

variable {E : Type} {codec : Codec E}

def ClientMsg.isEnd : ClientMsg E → Bool
  | disconnected => true
  | _ => false

/-- The entries that came out of frames. -/
def contents (entries : List (ClientMsg E × Nat)) : List (ClientMsg E × Nat) :=
  entries.filter fun entry => !entry.1.isEnd

/-- What a frame is worth to the queue. -/
def entry (codec : Codec E) (frame : Frame) : Option (ClientMsg E × Nat) :=
  (decode codec frame).map fun msg => (msg, accountedSize frame)

def sizes (entries : List (ClientMsg E × Nat)) : Nat := (entries.map Prod.snd).sum

namespace Reader

/-- The message that the reader holds. -/
def pending : Reader E → List (ClientMsg E × Nat)
  | reserving msg size | checking msg size | sending msg size | refunding msg size => [(msg, size)]
  | _ => []

/-- The room that it holds for the message. -/
def held : Reader E → Nat
  | sending _ size | refunding _ size => size
  | _ => 0

def size : Reader E → Nat
  | reserving _ size | checking _ size | sending _ size | refunding _ size => size
  | _ => 0

/-- No more frames are read. -/
def left : Reader E → Bool
  | leaving | exited => true
  | _ => false

def isExited : Reader E → Bool
  | exited => true
  | _ => false

/-- In the middle of a `send` that has failed. -/
def refunds : Reader E → Bool
  | refunding _ _ => true
  | _ => false

/-- Without room in the budget so far. -/
def waits : Reader E → Bool
  | reserving _ _ | checking _ _ => true
  | _ => false

end Reader

namespace Receiver

def inHand : Receiver E → List (ClientMsg E × Nat)
  | accounting msg size => [(msg, size)]
  | _ => []

/-- The loop still holds the receiver. -/
def isOpen : Receiver E → Bool
  | idle | accounting _ _ => true
  | _ => false

def isDropped : Receiver E → Bool
  | dropped => true
  | _ => false

theorem isDropped_eq_false {receiver : Receiver E} (there : receiver ≠ .dropped) : receiver.isDropped = false := by
  cases receiver with
  | dropped => exact absurd rfl there
  | _ => rfl

end Receiver

namespace State

/-- The valid frames of the client. -/
def wanted (codec : Codec E) (s : State E) : List (ClientMsg E × Nat) := s.frames.filterMap (entry codec)

/-- What was sent and not received, with what was lost with the channel. -/
def outstanding (s : State E) : List (ClientMsg E × Nat) := s.receiver.inHand ++ s.queue ++ s.lost

structure Kept (codec : Codec E) (s : State E) : Prop where
  order : s.wanted codec = s.received ++ contents s.outstanding ++ s.reader.pending ++ s.refused
  counted : s.bytes = sizes s.outstanding + s.reader.held
  bounded : s.bytes ≤ queueBytes
  fits : s.reader.size ≤ queueBytes
  depth : s.queue.length ≤ queueDepth
  reading : s.reader.left = false → s.refused = []
  running : s.reader.isExited = false → (∀ entry ∈ s.outstanding, entry.1.isEnd = false) ∧ s.sawEnd = false
  genuine : ∀ entry ∈ s.reader.pending, entry.1.isEnd = false
  /-- the end is announced last -/
  last : (∀ entry ∈ s.queue.dropLast, entry.1.isEnd = false) ∧
    ∀ entry ∈ s.receiver.inHand, entry.1.isEnd = true → s.queue = []
  present : s.closed = !s.receiver.isOpen
  kept : s.receiver.isDropped = false → s.lost = []
  failed : s.reader.refunds = true → s.closed = true
  refused : s.closed = false → s.refused = []
  ended : s.sawEnd = true → s.reader.isExited = true ∧ s.outstanding = [] ∧ s.received = s.wanted codec

end State

theorem decode_genuine {frame : Frame} {msg : ClientMsg E} (decoded : decode codec frame = some msg) : msg.isEnd = false := by
  simp only [decode] at decoded
  split at decoded
  · obtain ⟨event, _, rfl⟩ := Option.map_eq_some_iff.mp decoded
    split <;> rfl
  split at decoded
  · obtain ⟨size, _, rfl⟩ := Option.map_eq_some_iff.mp decoded
    rfl
  split at decoded
  · cases decoded
    rfl
  split at decoded
  · cases decoded
    rfl
  · cases decoded

/-- A frame that a stream holds fits the budget. -/
theorem accountedSize_fits {frame : Frame} {window : Nat → Nat} {source rest : Source UInt8}
    (read : Protocol.readMsg window source = .ok frame rest) : accountedSize frame ≤ queueBytes := by
  have large : 64 ≤ queueBytes := by decide
  rcases Protocol.readMsg_cases window source with ⟨announced, _, s', whole, _⟩ | ⟨_, e, s', failed⟩
  · rw [read] at whole
    cases whole
    have length : ((source.stream.drop 5).take (Protocol.announced source.stream)).length ≤ _ := List.length_take_le _ _
    simp only [accountedSize, queueBytes] at *
    omega
  · rw [read] at failed
    cases failed

/-! ## Entries -/

@[simp] theorem contents_append (xs ys : List (ClientMsg E × Nat)) : contents (xs ++ ys) = contents xs ++ contents ys := by
  simp [contents]

@[simp] theorem sizes_append (xs ys : List (ClientMsg E × Nat)) : sizes (xs ++ ys) = sizes xs + sizes ys := by
  simp [sizes]

theorem contents_genuine {msg : ClientMsg E} (genuine : msg.isEnd = false) (size : Nat)
    (rest : List (ClientMsg E × Nat)) : contents ((msg, size) :: rest) = (msg, size) :: contents rest := by
  simp [contents, genuine]

theorem contents_end {msg : ClientMsg E} (isEnd : msg.isEnd = true) (size : Nat)
    (rest : List (ClientMsg E × Nat)) : contents ((msg, size) :: rest) = contents rest := by
  simp [contents, isEnd]

@[simp] theorem sizes_cons (entry : ClientMsg E × Nat) (rest : List (ClientMsg E × Nat)) :
    sizes (entry :: rest) = entry.2 + sizes rest := by
  simp [sizes]

@[simp] theorem contents_nil : contents ([] : List (ClientMsg E × Nat)) = [] := rfl

@[simp] theorem sizes_nil : sizes ([] : List (ClientMsg E × Nat)) = 0 := rfl

/-! ## The reader -/

namespace State
variable {s : State E}

theorem kept_start : Kept codec ({} : State E) where
  order := rfl
  counted := rfl
  bounded := Nat.zero_le _
  fits := Nat.zero_le _
  depth := Nat.zero_le _
  reading _ := rfl
  running _ := ⟨nofun, rfl⟩
  genuine := nofun
  last := ⟨nofun, nofun⟩
  present := rfl
  kept _ := rfl
  failed := nofun
  refused _ := rfl
  ended := nofun

theorem Kept.read (inv : Kept codec s) (reading : s.reader = .reading) {frame : Option Frame}
    (fits : ∀ message, frame = some message → accountedSize message ≤ queueBytes) : Kept codec (s.read codec frame) := by
  have order := inv.order
  have none := inv.reading (by rw [reading]; rfl)
  have running := inv.running (by rw [reading]; rfl)
  have counted := inv.counted
  have notEnded : s.sawEnd ≠ true := by simp [running.2]
  simp only [reading, Reader.pending, Reader.held, none, List.append_nil, Nat.add_zero] at order counted
  cases frame with
  | none =>
      exact { inv with
        order := by simpa [State.read, State.wanted, State.outstanding, Reader.pending, none] using order
        counted := counted
        fits := Nat.zero_le _
        reading := nofun
        running := fun _ => running
        genuine := nofun
        failed := nofun
        ended := fun saw => absurd saw notEnded }
  | some frame =>
      cases decoded : decode codec frame with
      | none =>
          simp only [State.read, decoded]
          exact { inv with
            order := by
              simpa [State.wanted, State.outstanding, entry, decoded, reading, Reader.pending, none] using order
            ended := fun saw => absurd saw notEnded }
      | some msg =>
          simp only [State.read, decoded]
          exact { inv with
            order := by
              simp only [State.wanted, State.outstanding] at order
              simp only [State.wanted, State.outstanding, List.filterMap_append, List.filterMap_cons, entry, decoded,
                Option.map_some, List.filterMap_nil, Reader.pending, none, List.append_nil, order]
            counted := counted
            fits := fits frame rfl
            reading := fun _ => none
            running := fun _ => running
            genuine := fun other member => by
              rw [List.mem_singleton.mp member]
              exact decode_genuine decoded
            failed := nofun
            ended := fun saw => absurd saw notEnded }

/-- The reader stays with its message, with or without room for it. -/
theorem Kept.hold (inv : Kept codec s) {reader : Reader E} {bytes : Nat} (pending : reader.pending = s.reader.pending)
    (size : reader.size = s.reader.size) (counted : bytes = sizes s.outstanding + reader.held) (bounded : bytes ≤ queueBytes)
    (here : s.reader.isExited = false ∧ reader.isExited = false) (left : reader.left = s.reader.left)
    (failed : reader.refunds = true → s.closed = true) : Kept codec { s with reader, bytes } :=
  { inv with
    order := pending ▸ inv.order
    counted
    bounded
    fits := size ▸ inv.fits
    reading := fun stays => inv.reading (left ▸ stays)
    running := fun _ => inv.running here.1
    genuine := pending ▸ inv.genuine
    failed
    ended := fun saw => by simp [(inv.running here.1).2] at saw }

/-- The reader gives its message up. -/
theorem Kept.refuse (inv : Kept codec s) {msg : ClientMsg E} {size bytes : Nat} (pending : s.reader.pending = [(msg, size)])
    (stays : s.reader.left = false ∧ s.reader.isExited = false) (closed : s.closed = true)
    (counted : bytes = sizes s.outstanding) : Kept codec { s with reader := .leaving, bytes, refused := s.refused ++ [(msg, size)] } := by
  have running := inv.running stays.2
  have order := inv.order
  have none := inv.reading stays.1
  have bounded := inv.bounded
  have before := inv.counted
  rw [pending, none, List.append_nil] at order
  exact { inv with
    order := by simpa [State.wanted, State.outstanding, Reader.pending, none] using order
    counted := counted
    bounded := by
      simp only
      omega
    fits := Nat.zero_le _
    reading := nofun
    running := fun _ => running
    genuine := nofun
    failed := nofun
    refused := fun opened => by simp [closed] at opened
    ended := fun saw => by simp [running.2] at saw }

/-- The message is in the channel. -/
theorem Kept.send (inv : Kept codec s) {msg : ClientMsg E} {size : Nat} (sending : s.reader = .sending msg size)
    (there : s.receiver.isDropped = false) (room : s.queue.length < queueDepth) :
    Kept codec { s with reader := .reading, queue := s.queue ++ [(msg, size)] } := by
  have running := inv.running (by rw [sending]; rfl)
  have order := inv.order
  have counted := inv.counted
  have none := inv.reading (by rw [sending]; rfl)
  have kept := inv.kept there
  have genuine := inv.genuine (msg, size) (by rw [sending]; exact List.mem_singleton_self _)
  simp only [State.outstanding, kept, List.append_nil] at order counted running
  exact { inv with
    order := by
      simp only [State.wanted, sending, Reader.pending, none, List.append_nil] at order
      simp only [State.wanted, State.outstanding, kept, List.append_nil, Reader.pending, none, order, contents_append,
        contents_genuine genuine, contents_nil, List.append_assoc]
    counted := by
      simp only [sending, Reader.held, sizes_append] at counted
      simp only [State.outstanding, kept, List.append_nil, Reader.held, sizes_append, sizes_cons, sizes_nil]
      omega
    fits := Nat.zero_le _
    depth := by
      simp only [List.length_append, List.length_singleton]
      exact room
    reading := fun _ => none
    running := fun _ => by
      refine ⟨fun entry member => ?_, running.2⟩
      simp only [State.outstanding, kept, List.append_nil] at member
      rw [← List.append_assoc] at member
      rcases List.mem_append.mp member with old | new
      · exact running.1 entry old
      · rw [List.mem_singleton.mp new]
        exact genuine
    genuine := nofun
    last := by
      refine ⟨fun entry member => ?_, fun entry member isEnd => ?_⟩
      · rw [List.dropLast_concat] at member
        exact running.1 entry (List.mem_append_right _ member)
      · rw [running.1 entry (List.mem_append_left _ member)] at isEnd
        cases isEnd
    failed := nofun
    ended := fun saw => by simp [running.2] at saw }

/-- The last step of the thread, which announces the end if there is room. -/
theorem Kept.leave (inv : Kept codec s) (leaving : s.reader = .leaving) {tail : List (ClientMsg E × Nat)}
    (announced : tail = [] ∨ tail = [(.disconnected, 0)] ∧ s.queue.length < queueDepth) :
    Kept codec { s with reader := .exited, queue := s.queue ++ tail } := by
  have running := inv.running (by rw [leaving]; rfl)
  have order := inv.order
  have counted := inv.counted
  have same : contents tail = [] ∧ sizes tail = 0 := by rcases announced with rfl | ⟨rfl, _⟩ <;> exact ⟨rfl, rfl⟩
  simp only [State.outstanding, leaving, Reader.pending, Reader.held, contents_append, sizes_append] at order counted
  exact { inv with
    order := by
      simp only [State.wanted] at order
      simp only [State.wanted, State.outstanding, Reader.pending, contents_append, same.1, List.append_nil, order]
    counted := by
      simp only [State.outstanding, Reader.held, sizes_append, same.2]
      omega
    fits := Nat.zero_le _
    depth := by
      have depth := inv.depth
      rcases announced with rfl | ⟨rfl, room⟩
      · rw [List.append_nil]
        exact depth
      · simp only [List.length_append, List.length_singleton]
        exact room
    reading := nofun
    running := nofun
    genuine := nofun
    last := by
      refine ⟨fun entry member => ?_, fun entry member isEnd => ?_⟩
      · have inQueue : entry ∈ s.queue := by
          rcases announced with rfl | ⟨rfl, _⟩
          · rw [List.append_nil] at member
            exact List.dropLast_subset _ member
          · rw [List.dropLast_concat] at member
            exact member
        exact running.1 entry (List.mem_append_left _ (List.mem_append_right _ inQueue))
      · rw [running.1 entry (List.mem_append_left _ (List.mem_append_left _ member))] at isEnd
        cases isEnd
    failed := nofun
    ended := fun saw => by simp [running.2] at saw }

theorem Kept.work (inv : Kept codec s) (allowed : Allowed s .work) : Kept codec s.work := by
  have counted := inv.counted
  have bounded := inv.bounded
  have fits := inv.fits
  unfold Allowed at allowed
  unfold State.work
  cases stands : s.reader with
  | reading => exact inv
  | exited => exact inv
  | reserving msg size =>
      simp only [stands, Reader.held, Nat.add_zero] at counted
      dsimp only
      split
      · rename_i room
        exact inv.hold (by rw [stands]; rfl) (by rw [stands]; rfl) (by simp only [Reader.held]; omega) room
          (by rw [stands]; exact ⟨rfl, rfl⟩) (by rw [stands]; rfl) nofun
      · exact inv.hold (by rw [stands]; rfl) (by rw [stands]; rfl) counted bounded (by rw [stands]; exact ⟨rfl, rfl⟩)
          (by rw [stands]; rfl) nofun
  | checking msg size =>
      simp only [stands, Reader.held, Nat.add_zero] at counted
      dsimp only
      split
      · rename_i closed
        exact inv.refuse (by rw [stands]; rfl) (by rw [stands]; exact ⟨rfl, rfl⟩) closed counted
      · exact inv.hold (by rw [stands]; rfl) (by rw [stands]; rfl) counted bounded (by rw [stands]; exact ⟨rfl, rfl⟩)
          (by rw [stands]; rfl) nofun
  | sending msg size =>
      simp only [stands] at allowed counted
      dsimp only
      split
      · rename_i there
        refine inv.hold (by rw [stands]; rfl) (by rw [stands]; rfl) counted bounded (by rw [stands]; exact ⟨rfl, rfl⟩)
          (by rw [stands]; rfl) fun _ => ?_
        rw [inv.present, there]
        rfl
      · rename_i there
        split at allowed
        · rename_i dropped
          exact absurd dropped there
        · exact inv.send stands (Receiver.isDropped_eq_false there) allowed
  | refunding msg size =>
      simp only [stands, Reader.held] at counted
      have enough : size ≤ s.bytes := by omega
      refine inv.refuse (by rw [stands]; rfl) (by rw [stands]; exact ⟨rfl, rfl⟩) (inv.failed (by rw [stands]; rfl)) ?_
      rw [fetchSub_eq enough bounded]
      omega
  | leaving =>
      have silent : Kept codec { s with reader := .exited } := by
        have left := inv.leave stands (.inl rfl)
        rwa [List.append_nil] at left
      dsimp only
      split
      · exact silent
      · split
        · rename_i room
          exact inv.leave stands (.inr ⟨rfl, room⟩)
        · exact silent

/-! ## The main loop -/

theorem Kept.poll (inv : Kept codec s) (idle : s.receiver = .idle) : Kept codec s.poll := by
  have order := inv.order
  have counted := inv.counted
  have present : s.closed = false := by
    rw [inv.present, idle]
    rfl
  have kept := inv.kept (by rw [idle]; rfl)
  cases queue : s.queue with
  | cons entry rest =>
      obtain ⟨msg, size⟩ := entry
      have same : ({ s with receiver := .accounting msg size, queue := rest } : State E).outstanding = s.outstanding := by
        simp only [outstanding, idle, queue, Receiver.inHand, List.nil_append, List.singleton_append]
      have depth := inv.depth
      have last := inv.last.1
      have behind : ∀ other ∈ rest.dropLast, other ∈ s.queue.dropLast := by
        intro other member
        cases rest with
        | nil => cases member
        | cons next more =>
            rw [queue, List.dropLast_cons_cons]
            exact List.mem_cons_of_mem _ member
      simp only [State.poll, queue]
      exact { inv with
        order := by rw [same]; exact order
        counted := by rw [same]; exact counted
        depth := by
          rw [queue, List.length_cons] at depth
          exact Nat.le_of_succ_le depth
        running := fun stays => by
          rw [same]
          exact inv.running stays
        last := by
          refine ⟨fun other member => last other (behind other member), fun other member isEnd => ?_⟩
          rw [List.mem_singleton.mp member] at isEnd
          cases rest with
          | nil => rfl
          | cons next more =>
              have first := last (msg, size) (by rw [queue, List.dropLast_cons_cons]; exact List.mem_cons_self)
              rw [first] at isEnd
              cases isEnd
        present := by
          rw [present]
          rfl
        kept := fun _ => kept
        ended := fun saw => by
          rw [same]
          exact inv.ended saw }
  | nil =>
      have nothing : s.outstanding = [] := by simp [outstanding, idle, queue, kept, Receiver.inHand]
      cases stands : s.reader with
      | exited =>
          have polled : s.poll = { s with sawEnd := true } := by
            unfold State.poll
            rw [queue, stands]
          rw [polled]
          have all := order
          simp only [nothing, stands, Reader.pending, inv.refused present, contents_nil, List.append_nil] at all
          exact { inv with
            running := fun stays => by simp [stands, Reader.isExited] at stays
            ended := fun _ => ⟨by rw [stands]; rfl, nothing, all.symm⟩ }
      | _ =>
          have polled : s.poll = s := by
            unfold State.poll
            rw [queue, stands]
          rw [polled]
          exact inv

theorem Kept.account (inv : Kept codec s) {msg : ClientMsg E} {size : Nat} (taken : s.receiver = .accounting msg size) :
    Kept codec s.account := by
  have order := inv.order
  have counted := inv.counted
  have bounded := inv.bounded
  have present : s.closed = false := by
    rw [inv.present, taken]
    rfl
  have kept := inv.kept (by rw [taken]; rfl)
  have split : s.outstanding = (msg, size) :: (s.queue ++ s.lost) := by
    simp only [outstanding, taken, Receiver.inHand, List.cons_append, List.nil_append]
  rw [split] at order counted
  simp only [sizes_cons] at counted
  have back : fetchSub s.bytes size = s.bytes - size := fetchSub_eq (by omega) bounded
  have running (stays : s.reader.isExited = false) : (∀ entry ∈ s.queue ++ s.lost, entry.1.isEnd = false) ∧ s.sawEnd = false := by
    have running := inv.running stays
    rw [split] at running
    exact ⟨fun entry member => running.1 entry (List.mem_cons_of_mem _ member), running.2⟩
  cases isEnd : msg.isEnd with
  | true =>
      have only := inv.last.2 (msg, size) (by rw [taken]; exact List.mem_singleton_self _) isEnd
      have exited : s.reader.isExited = true := by
        by_contra stays
        have first := (inv.running (by simpa using stays)).1 (msg, size) (by rw [split]; exact List.mem_cons_self)
        rw [first] at isEnd
        cases isEnd
      have account : s.account = { s with receiver := .idle, bytes := fetchSub s.bytes size, sawEnd := true } := by
        unfold State.account
        rw [taken]
        cases msg <;> first | rfl | cases isEnd
      have nothing : ({ s with receiver := .idle, bytes := fetchSub s.bytes size, sawEnd := true } : State E).outstanding = [] := by
        simp [outstanding, Receiver.inHand, only, kept]
      rw [account]
      rw [contents_end isEnd] at order
      have all := order
      have pending : s.reader.pending = [] := by
        cases stands : s.reader with
        | exited => rfl
        | _ => simp [stands, Reader.isExited] at exited
      simp only [only, kept, List.append_nil, contents_nil, pending, inv.refused present] at all
      exact { inv with
        order := by
          simp only [only, kept, List.append_nil, contents_nil] at order
          simp only [nothing, contents_nil, List.append_nil]
          exact order
        counted := by
          rw [nothing]
          simp only [back, sizes_nil]
          simp only [only, kept, List.append_nil, sizes_nil] at counted
          omega
        bounded := by
          simp only [back]
          omega
        running := fun stays => by simp [exited] at stays
        last := ⟨inv.last.1, nofun⟩
        present := by
          rw [present]
          rfl
        kept := fun _ => kept
        ended := fun _ => ⟨exited, nothing, all.symm⟩ }
  | false =>
      have account : s.account =
          { s with receiver := .idle, bytes := fetchSub s.bytes size, received := s.received ++ [(msg, size)] } := by
        unfold State.account
        rw [taken]
        cases msg <;> first | rfl | cases isEnd
      have rest : ({ s with receiver := .idle, bytes := fetchSub s.bytes size, received := s.received ++ [(msg, size)] } :
          State E).outstanding = s.queue ++ s.lost := by
        simp [outstanding, Receiver.inHand]
      rw [account]
      rw [contents_genuine isEnd] at order
      exact { inv with
        order := by
          rw [rest]
          simp only [List.append_assoc, List.cons_append] at order ⊢
          exact order
        counted := by
          rw [rest]
          simp only [back]
          omega
        bounded := by
          simp only [back]
          omega
        running := fun stays => by
          rw [rest]
          exact running stays
        last := ⟨inv.last.1, nofun⟩
        present := by
          rw [present]
          rfl
        kept := fun _ => kept
        ended := fun saw => by
          have nothing := (inv.ended saw).2.1
          rw [split] at nothing
          cases nothing }

theorem Kept.drop (inv : Kept codec s) (idle : s.receiver = .idle) :
    Kept codec { s with receiver := .closing, closed := true } := by
  have same : ({ s with receiver := .closing, closed := true } : State E).outstanding = s.outstanding := by
    simp only [outstanding, idle, Receiver.inHand]
  exact { inv with
    order := by rw [same]; exact inv.order
    counted := by rw [same]; exact inv.counted
    running := fun stays => by
      rw [same]
      exact inv.running stays
    last := ⟨inv.last.1, nofun⟩
    present := rfl
    kept := fun _ => inv.kept (by rw [idle]; rfl)
    failed := fun _ => rfl
    refused := nofun
    ended := fun saw => by
      rw [same]
      exact inv.ended saw }

theorem Kept.release (inv : Kept codec s) (closing : s.receiver = .closing) :
    Kept codec { s with receiver := .dropped, lost := s.queue, queue := [] } := by
  have same : ({ s with receiver := .dropped, lost := s.queue, queue := [] } : State E).outstanding = s.outstanding := by
    simp [outstanding, closing, Receiver.inHand, inv.kept (by rw [closing]; rfl)]
  exact { inv with
    order := by rw [same]; exact inv.order
    counted := by rw [same]; exact inv.counted
    depth := Nat.zero_le _
    running := fun stays => by
      rw [same]
      exact inv.running stays
    last := ⟨nofun, nofun⟩
    present := by
      rw [inv.present, closing]
      rfl
    kept := nofun
    ended := fun saw => by
      rw [same]
      exact inv.ended saw }

theorem Kept.step (inv : Kept codec s) {action : Action} (allowed : Allowed s action) :
    Kept codec (Input.step codec s action) := by
  cases action with
  | read frame =>
      simp only [Allowed] at allowed
      split at allowed
      · rename_i reading
        refine inv.read reading fun message read => ?_
        obtain ⟨window, source, rest, whole⟩ := allowed message read
        exact accountedSize_fits whole
      · exact allowed.elim
  | work => exact inv.work allowed
  | poll =>
      simp only [Allowed] at allowed
      split at allowed
      · rename_i idle
        exact inv.poll idle
      · exact allowed.elim
  | account =>
      simp only [Allowed] at allowed
      split at allowed
      · rename_i taken
        exact inv.account taken
      · exact allowed.elim
  | drop =>
      simp only [Allowed] at allowed
      split at allowed
      · rename_i idle
        exact inv.drop idle
      · exact allowed.elim
  | release =>
      simp only [Allowed] at allowed
      split at allowed
      · rename_i closing
        exact inv.release closing
      · exact allowed.elim

end State

theorem Reached.start (codec : Codec E) : Reached codec {} := Machine.Run.start

theorem Reached.step {s : State E} (reached : Reached codec s) (action : Action) (allowed : Allowed s action) :
    Reached codec (Input.step codec s action) :=
  Machine.Run.step reached action allowed

theorem reached_kept {s : State E} (reached : Reached codec s) : s.Kept codec :=
  reached.invariant (fun s _ (inv : s.Kept codec) allowed => inv.step allowed) State.kept_start

/-! ## Progress -/

/-- Only the reader moves. -/
def ReaderMoves (s : State E) (action : Action) : Prop := Allowed s action ∧ action = .work

/-- Only the main loop moves, and receives. -/
def LoopReceives (s : State E) (action : Action) : Prop := Allowed s action ∧ (action = .poll ∨ action = .account)

namespace Reader

def isSending : Reader E → Bool
  | sending _ _ => true
  | _ => false

/-- An upper bound of the steps of the reader until it exits, if the receiver is gone. -/
def distance : Reader E → Nat
  | reserving _ _ => 4
  | sending _ _ => 3
  | checking _ _ | refunding _ _ => 2
  | leaving => 1
  | reading | exited => 0

end Reader

namespace State
variable {s : State E}

/-- Once the channel is drained, there is room for every message. -/
theorem Kept.room (inv : Kept codec s) (idle : s.receiver = .idle) (drained : s.queue = []) (waits : s.reader.held = 0) :
    s.bytes + s.reader.size ≤ queueBytes := by
  have counted := inv.counted
  have fits := inv.fits
  have lost := inv.kept (by rw [idle]; rfl)
  simp only [outstanding, idle, drained, lost, Receiver.inHand, List.append_nil, sizes_nil] at counted
  omega

theorem Kept.reserving_sends (inv : Kept codec s) (idle : s.receiver = .idle) (drained : s.queue = []) {msg : ClientMsg E}
    {size : Nat} (reserving : s.reader = .reserving msg size) :
    Machine.Inevitable (Input.step codec) ReaderMoves (fun s => s.reader.isSending = true) s := by
  have room := inv.room idle drained (by rw [reserving]; rfl)
  simp only [reserving, Reader.size] at room
  refine .next ⟨.work, by simp only [Allowed, reserving], rfl⟩ ?_
  rintro action ⟨_, rfl⟩
  refine .reached ?_
  simp only [Input.step, State.work, reserving, room, if_true, Reader.isSending]

theorem Kept.drained_sends (inv : Kept codec s) (idle : s.receiver = .idle) (drained : s.queue = [])
    (waits : s.reader.waits = true) :
    Machine.Inevitable (Input.step codec) ReaderMoves (fun s => s.reader.isSending = true) s := by
  cases stands : s.reader with
  | reserving msg size => exact inv.reserving_sends idle drained stands
  | checking msg size =>
      -- the flag is not set, and the reader tries again
      have allowed : Allowed s .work := by simp only [Allowed, stands]
      have opened : s.closed = false := by
        rw [inv.present, idle]
        rfl
      have back : s.work = { s with reader := .reserving msg size } := by
        unfold State.work
        rw [stands]
        simp only [opened, Bool.false_eq_true, if_false]
      have kept := inv.work allowed
      refine .next ⟨.work, allowed, rfl⟩ ?_
      rintro action ⟨_, rfl⟩
      simp only [Input.step]
      rw [back] at kept ⊢
      exact kept.reserving_sends idle drained rfl
  | _ =>
      rw [stands] at waits
      cases waits

theorem work_receiver (s : State E) : s.work.receiver = s.receiver := by
  unfold State.work
  cases s.reader with
  | leaving =>
      dsimp only
      split
      · rfl
      · split <;> rfl
  | reading | exited | refunding _ _ => rfl
  | _ =>
      dsimp only
      split <;> rfl

/-- Without a receiver the reader never waits, and never reads again once it holds a message. -/
theorem Kept.work_distance (inv : Kept codec s) (dropped : s.receiver = .dropped) (busy : s.reader ≠ .reading)
    (here : s.reader ≠ .exited) : s.work.reader.distance < s.reader.distance ∧ s.work.reader ≠ .reading := by
  have closed : s.closed = true := by
    rw [inv.present, dropped]
    rfl
  unfold State.work
  cases stands : s.reader with
  | reading => exact absurd stands busy
  | exited => exact absurd stands here
  | reserving msg size =>
      dsimp only
      split
      · exact ⟨Nat.lt_succ_self 3, nofun⟩
      · exact ⟨Nat.lt_of_succ_lt (Nat.lt_succ_self 3), nofun⟩
  | checking msg size =>
      simp only [closed, if_true]
      exact ⟨Nat.lt_succ_self 1, nofun⟩
  | sending msg size =>
      simp only [dropped]
      exact ⟨Nat.lt_succ_self 2, nofun⟩
  | refunding msg size => exact ⟨Nat.lt_succ_self 1, nofun⟩
  | leaving =>
      simp only [dropped]
      exact ⟨Nat.zero_lt_one, nofun⟩

theorem work_allowed (dropped : s.receiver = .dropped) (busy : s.reader ≠ .reading) (here : s.reader ≠ .exited) :
    Allowed s .work := by
  simp only [Allowed, dropped]
  cases stands : s.reader with
  | reading => exact absurd stands busy
  | exited => exact absurd stands here
  | _ => trivial

theorem Kept.dropped_exits (inv : Kept codec s) (dropped : s.receiver = .dropped) (waits : s.reader.waits = true) :
    Machine.Inevitable (Input.step codec) ReaderMoves (fun s => s.reader.isExited = true) s := by
  have preserved (s : State E) (action : Action) (inv : Kept codec s ∧ s.receiver = .dropped ∧ s.reader ≠ .reading)
      (moves : ReaderMoves s action) : Kept codec (Input.step codec s action) ∧
        (Input.step codec s action).receiver = .dropped ∧ (Input.step codec s action).reader ≠ .reading := by
    obtain ⟨kept, dropped, busy⟩ := inv
    obtain ⟨allowed, rfl⟩ := moves
    have here : s.reader ≠ .exited := by
      intro exited
      simp only [Allowed, exited] at allowed
    exact ⟨kept.work allowed, (work_receiver s).trans dropped, (kept.work_distance dropped busy here).2⟩
  refine Machine.Inevitable.of_measure (fun s => s.reader.distance) preserved ?_
    ⟨inv, dropped, fun reading => by rw [reading] at waits; cases waits⟩
  rintro s ⟨kept, dropped, busy⟩
  by_cases exited : s.reader = .exited
  · exact .inl (by rw [exited]; rfl)
  · refine .inr ⟨⟨.work, work_allowed dropped busy exited, rfl⟩, ?_⟩
    rintro action ⟨_, rfl⟩
    exact (kept.work_distance dropped busy exited).1

/-- What the loop still has to do before it sees the end. -/
def remaining (s : State E) : Nat :=
  2 * s.queue.length + s.receiver.inHand.length + (if s.sawEnd then 0 else 1)

/-- The loop alone gets to the end of a connection, whether or not the end was announced. -/
theorem exited_observed (exited : s.reader = .exited) (there : s.receiver.isOpen = true) :
    Machine.Inevitable (Input.step codec) LoopReceives (fun s => s.sawEnd = true) s := by
  have preserved (s : State E) (action : Action) (inv : s.reader = .exited ∧ s.receiver.isOpen = true)
      (moves : LoopReceives s action) : (Input.step codec s action).reader = .exited ∧
        (Input.step codec s action).receiver.isOpen = true := by
    obtain ⟨exited, there⟩ := inv
    obtain ⟨_, rfl | rfl⟩ := moves
    · simp only [Input.step, State.poll]
      split <;> simp_all [Receiver.isOpen]
    · simp only [Input.step, State.account]
      split <;> simp_all [Receiver.isOpen]
  refine Machine.Inevitable.of_measure remaining preserved ?_ ⟨exited, there⟩
  rintro s ⟨exited, there⟩
  cases saw : s.sawEnd with
  | true => exact .inl rfl
  | false =>
      refine .inr ?_
      cases stands : s.receiver with
      | idle =>
          refine ⟨⟨.poll, by simp only [Allowed, stands], .inl rfl⟩, ?_⟩
          rintro action ⟨allowed, rfl | rfl⟩
          · simp only [Input.step, State.poll, remaining, exited, stands, saw]
            cases s.queue with
            | nil => simp [Receiver.inHand]
            | cons => simp [Receiver.inHand]; omega
          · simp only [Allowed, stands] at allowed
      | accounting msg size =>
          refine ⟨⟨.account, by simp only [Allowed, stands], .inr rfl⟩, ?_⟩
          rintro action ⟨allowed, rfl | rfl⟩
          · simp only [Allowed, stands] at allowed
          · simp only [Input.step, State.account, remaining, stands, saw]
            cases msg with
            | disconnected =>
                simp only [Receiver.inHand, List.length_nil, List.length_cons, if_true, Bool.false_eq_true, if_false]
                omega
            | _ => simp [Receiver.inHand]
      | _ =>
          rw [stands] at there
          cases there

/-- No step takes more off the budget than there is. -/
theorem Kept.enough (inv : Kept codec s) (msg : ClientMsg E) (size : Nat) :
    (s.receiver = .accounting msg size → size ≤ s.bytes) ∧ (s.reader = .refunding msg size → size ≤ s.bytes) := by
  have counted := inv.counted
  constructor
  · intro taken
    simp only [outstanding, taken, Receiver.inHand, List.cons_append, sizes_cons] at counted
    omega
  · intro refunding
    simp only [refunding, Reader.held] at counted
    omega

theorem wanted_messages (s : State E) : (s.wanted codec).map Prod.fst = s.frames.filterMap (decode codec) := by
  rw [wanted, List.map_filterMap]
  congr 1
  funext frame
  simp [entry, Function.comp_def]

end State

/-- In every interleaving the loop receives the valid frames in order and all of them before the
end, the budget is the size of what is on its way, and no party waits for ever. -/
theorem client_queue (codec : Codec E) (s : State E) (reached : Reached codec s) :
    s.received.map Prod.fst <+: s.frames.filterMap (decode codec) ∧
    (s.sawEnd = true → s.reader = .exited ∧ s.queue = [] ∧ s.received.map Prod.fst = s.frames.filterMap (decode codec)) ∧
    (s.frames.filterMap (entry codec) = s.received ++ contents s.outstanding ++ s.reader.pending ++ s.refused ∧
      (s.closed = false → s.refused = [])) ∧
    s.bytes = sizes s.outstanding + s.reader.held ∧ s.bytes ≤ queueBytes ∧ s.queue.length ≤ queueDepth ∧
    (∀ msg size, (s.receiver = .accounting msg size → size ≤ s.bytes) ∧
      (s.reader = .refunding msg size → size ≤ s.bytes)) ∧
    (s.reader = .exited → s.receiver.isOpen = true →
      Machine.Inevitable (step codec) LoopReceives (fun s => s.sawEnd = true) s) ∧
    (s.receiver = .idle → s.queue = [] → s.reader.waits = true →
      Machine.Inevitable (step codec) ReaderMoves (fun s => s.reader.isSending = true) s) ∧
    (s.receiver = .dropped → s.reader.waits = true →
      Machine.Inevitable (step codec) ReaderMoves (fun s => s.reader.isExited = true) s) := by
  have inv := reached_kept reached
  have order := inv.order
  refine ⟨?_, ?_, ⟨order, inv.refused⟩, inv.counted, inv.bounded, inv.depth, inv.enough, State.exited_observed,
    inv.drained_sends, inv.dropped_exits⟩
  · rw [← State.wanted_messages, order]
    simp only [List.append_assoc, List.map_append]
    exact List.prefix_append _ _
  · intro saw
    obtain ⟨exited, nothing, all⟩ := inv.ended saw
    have left : s.reader = .exited := by
      cases stands : s.reader <;> first | rfl | simp [stands, Reader.isExited] at exited
    refine ⟨left, ?_, by rw [all, State.wanted_messages]⟩
    simp only [State.outstanding, List.append_eq_nil_iff] at nothing
    exact nothing.1.2

end Input

/-! ## A resize before the end -/

namespace Input

def plainCodec : Codec Unit where
  parse _ := none
  resizeOf _ := none

def resizeFrame : Frame := (0x03, [0, 80, 0, 24])

def resizeActions : List Action := [.read (some resizeFrame), .work, .work, .poll, .account, .read none, .work, .poll, .account]

def resizeDelivered : State Unit := resizeActions.foldl (step plainCodec) {}

theorem resizeDelivered_reached : Reached plainCodec resizeDelivered := by
  have framed : ∀ message, some resizeFrame = some message →
      ∃ (window : Nat → Nat) (source rest : Source UInt8), Protocol.readMsg window source = .ok message rest := by
    intro message same
    cases same
    have stream : ({ deliveries := [.chunk ⟨Protocol.frame resizeFrame, by decide⟩] } : Source UInt8).stream = Protocol.frame resizeFrame ++ [] := by
      simp [Source.stream, Source.streamOf]
    obtain ⟨rest, read, _⟩ := Protocol.readMsg_frame id (by simp [resizeFrame, Protocol.maxPayload]) stream
    exact ⟨id, _, rest, read⟩
  have asked := (Reached.start plainCodec).step (.read (some resizeFrame)) framed
  have sent := (asked.step .work trivial).step .work (show 0 < queueDepth by decide)
  have received := (sent.step .poll trivial).step .account trivial
  exact (((received.step (.read none) (by rintro _ ⟨⟩)).step .work trivial).step .poll trivial).step .account trivial

theorem client_queue_resize :
    Reached plainCodec resizeDelivered ∧ resizeDelivered.sawEnd = true ∧
    resizeDelivered.received.map Prod.fst = resizeDelivered.frames.filterMap (decode plainCodec) :=
  have reached := resizeDelivered_reached
  ⟨reached, rfl, ((client_queue plainCodec resizeDelivered reached).2.1 rfl).2.2⟩

end Input

end Ezpn
