import Ezpn.Server.Loop

/-!
# Invariants of the loop

Handlers and bookkeeping are sequences of operations of the core among changes
that most invariants do not look at. The rules here reduce them to the operations.
-/

set_option autoImplicit false

namespace Ezpn.Loop
variable {R G U : Type} [RatioOps R] [Vt100 G]

/-- Every operation that a handler runs meets a condition where it is run. -/
def Each (format : SnapshotFormat R) (world : World) (Good : Loop R G U → Op R → Prop) :
    Loop R G U → List (FrontOp R U) → Prop
  | _, [] => True
  | l, front :: fronts =>
      (match front with
        | .op op _ => l.ended = false → Good l op
        | _ => True) ∧ Each format world Good (l.frontOp format world front) fronts

theorem each_of_forall {format : SnapshotFormat R} {world : World} {Good : Loop R G U → Op R → Prop}
    (all : ∀ l op, Good l op) (l : Loop R G U) (fronts : List (FrontOp R U)) : Each format world Good l fronts := by
  induction fronts generalizing l with
  | nil => trivial
  | cons front fronts ih =>
      refine ⟨?_, ih _⟩
      cases front with
      | op op handled => exact fun _ => all l op
      | ui change => trivial
      | mark update => trivial
      | quit => trivial

/-- The condition on the operations of a step that runs a handler. -/
def Handles (format : SnapshotFormat R) (world : World) (Good : Loop R G U → Op R → Prop) (l : Loop R G U) :
    LoopOp R G U → Prop
  | .front handler => Each format world Good l (handler l.ui l.core)
  | .message id (.event handler _) =>
      ∀ client, l.sender id = some client → client.mode ≠ .readonly → Each format world Good l (handler l.ui l.core)
  | _ => True

theorem handles_of_forall {format : SnapshotFormat R} {world : World} {Good : Loop R G U → Op R → Prop}
    (all : ∀ l op, Good l op) (l : Loop R G U) (op : LoopOp R G U) : Handles format world Good l op := by
  cases op with
  | front handler => exact each_of_forall all _ _
  | message id msg =>
      cases msg with
      | event handler detach => exact fun _ _ _ => each_of_forall all _ _
      | _ => trivial
  | _ => trivial

/-- The invariant does not look at the user interface, at whether the loop has returned,
or at further marks. -/
structure Inert (Inv : Loop R G U → Prop) : Prop where
  ui : ∀ (l : Loop R G U) (ui : U), Inv l → Inv { l with ui }
  ended : ∀ l : Loop R G U, Inv l → Inv { l with ended := true }
  marked : ∀ (l : Loop R G U) (update : RenderUpdate), Inv l → Inv { l with update := l.update.merge update }

/-- Nor does it look at the clients, as long as none attaches to an empty session. -/
structure Indifferent (Inv : Loop R G U → Prop) : Prop extends Inert Inv where
  clients : ∀ (l : Loop R G U) (clients : List ConnectedClient) (sizeChanged : Bool) (detachIds disconnectIds : List Nat),
    (clients ≠ [] → l.clients ≠ []) → Inv l → Inv { l with clients, sizeChanged, detachIds, disconnectIds }

section Rules
variable {format : SnapshotFormat R} {world : World} {Inv : Loop R G U → Prop} {Good : Loop R G U → Op R → Prop}
  {l : Loop R G U}

theorem frontOp_invariant (inert : Inert Inv)
    (performs : ∀ l op, Inv l → op.handled = true → Good l op → Inv (l.perform format world op)) (inv : Inv l)
    (front : FrontOp R U)
    (good : match front with
      | .op op _ => l.ended = false → Good l op
      | _ => True) : Inv (l.frontOp format world front) := by
  simp only [frontOp]
  split
  · exact inv
  rename_i running
  simp only [Bool.not_eq_true] at running
  split
  · split
    · exact inert.ended l inv
    · exact performs l _ inv rfl (good running)
  · rename_i op handled _
    exact performs l op inv handled (good running)
  · exact inert.ui l _ inv
  · exact inert.marked l _ inv
  · exact inert.ended l inv

theorem handle_invariant (inert : Inert Inv)
    (performs : ∀ l op, Inv l → op.handled = true → Good l op → Inv (l.perform format world op)) (inv : Inv l)
    (handler : Handler R G U) (each : Each format world Good l (handler l.ui l.core)) :
    Inv (l.handle format world handler) := by
  have fronts (fronts : List (FrontOp R U)) (l : Loop R G U) (inv : Inv l) (each : Each format world Good l fronts) :
      Inv (fronts.foldl (frontOp format world) l) := by
    induction fronts generalizing l with
    | nil => exact inv
    | cons front fronts ih => exact ih _ (frontOp_invariant inert performs inv front each.1) each.2
  exact fronts _ l inv each

variable [Interface U]

theorem takeSize_invariant (indifferent : Indifferent Inv)
    (resizes : ∀ l tw th, Inv l → Inv (l.perform format world (.resizeTerminal tw th))) (inv : Inv l) :
    Inv (l.takeSize format world) := by
  simp only [takeSize]
  split
  · exact indifferent.ui _ _ (resizes l _ _ inv)
  · exact inv

omit [Interface U] in
theorem message_invariant (indifferent : Indifferent Inv)
    (performs : ∀ l op, Inv l → op.handled = true → Good l op → Inv (l.perform format world op)) (inv : Inv l)
    (id : Nat) (msg : ClientMsg R G U) (handles : Handles format world Good l (.message id msg)) :
    Inv (l.message format world id msg) := by
  simp only [message]
  split
  · exact inv
  rename_i client sent
  cases msg with
  | event handler detach =>
      simp only [receive]
      split
      · exact inv
      rename_i writes
      have handled := handle_invariant indifferent.toInert performs inv handler (handles client sent writes)
      split
      · exact indifferent.clients _ _ _ _ _ (fun some => some) handled
      · exact handled
  | resize w h =>
      refine indifferent.marked { l with clients := _, sizeChanged := true } _ (indifferent.clients l _ _ _ _ ?_ inv)
      exact fun some => by simpa using some
  | detach => exact indifferent.clients l _ _ _ _ (fun some => some) inv
  | disconnected => exact indifferent.clients l _ _ _ _ (fun some => some) inv
  | kill =>
      simp only [receive]
      split
      · exact inv
      · exact indifferent.ended l inv

theorem settle_invariant (indifferent : Indifferent Inv)
    (resizes : ∀ l tw th, Inv l → Inv (l.perform format world (.resizeTerminal tw th)))
    (saves : ∀ l, Inv l → Inv (l.perform format world .save)) (inv : Inv l) : Inv (l.settle format world) := by
  have sized : Inv (l.takeSizes format world) := by
    simp only [takeSizes]
    split
    · exact indifferent.clients _ _ _ _ _ id (takeSize_invariant indifferent resizes inv)
    · exact inv
  simp only [settle, depart]
  generalize l.takeSizes format world = next at sized ⊢
  have removed : Inv next.removeLeaving := by
    refine indifferent.clients next _ _ _ _ (fun left none => ?_) sized
    simp [none] at left
  split
  · split
    · split
      · exact indifferent.ui _ _ (saves _ removed)
      · exact removed
    · exact takeSize_invariant indifferent resizes removed
  · exact removed

/-- A client attaches: its size is taken, everything is marked. -/
theorem acceptClient_invariant (indifferent : Indifferent Inv)
    (resizes : ∀ l tw th, Inv l → Inv (l.perform format world (.resizeTerminal tw th)))
    (joins : ∀ (l : Loop R G U) w h mode, Inv l → Inv (l.join w h mode))
    (borders : ∀ l : Loop R G U, Inv l → Inv { l with core := l.core.markBorders }) (inv : Inv l) (w h : Nat)
    (mode : AttachMode) (connected : Bool) : Inv (l.acceptClient format world w h mode connected) := by
  simp only [acceptClient]
  split
  · exact inv
  · have sized := takeSize_invariant indifferent resizes (joins l w h mode inv)
    exact indifferent.marked _ _ (borders _ sized)

end Rules

end Ezpn.Loop
