import Ezpn.Lib.Source

/-!
# Exchanges with a peer

Both directions of a connection: a fragmented source, and a peer that takes what
is sent to it until it is gone.
-/

set_option autoImplicit false

structure Peer (α : Type) where
  source : Source α
  /-- How many more items the peer takes, and the error after that. -/
  room : Option (Nat × StreamError) := none
  sent : List α := []

/-- A computation that reads from a peer and writes to it. -/
abbrev Exchange (α β : Type) : Type := EStateM StreamError (Peer α) β

namespace Exchange
variable {α β γ : Type}

def receive (x : Reader α β) : Exchange α β := fun s =>
  match x s.source with
  | .ok b t => .ok b { s with source := t }
  | .error e t => .error e { s with source := t }

/-- `write_all`. -/
def send (items : List α) : Exchange α Unit := fun s =>
  match s.room with
  | none => .ok () { s with sent := s.sent ++ items }
  | some (n, e) =>
      if items.length ≤ n then .ok () { s with room := some (n - items.length, e), sent := s.sent ++ items }
      else .error e { s with room := some (0, e), sent := s.sent ++ items.take n }

/-- The peer takes all of the items. -/
def Takes (s : Peer α) (items : List α) : Prop := ∀ limit ∈ s.room, items.length ≤ limit.1

theorem bind_eq_ok {x : Exchange α β} {f : β → Exchange α γ} {s t : Peer α} {c : γ} :
    (x >>= f) s = .ok c t ↔ ∃ b r, x s = .ok b r ∧ f b r = .ok c t := by
  change EStateM.bind x f s = _ ↔ _
  unfold EStateM.bind
  cases x s with
  | ok b r =>
      constructor
      · exact fun rest => ⟨b, r, rfl, rest⟩
      · rintro ⟨_, _, same, rest⟩
        cases same
        exact rest
  | error e r => exact iff_of_false nofun nofun

theorem bind_ok {x : Exchange α β} {f : β → Exchange α γ} {s r : Peer α} {b : β} (ran : x s = .ok b r) : (x >>= f) s = f b r := by
  change EStateM.bind x f s = _
  rw [EStateM.bind, ran]

theorem receive_eq_ok {x : Reader α β} {s t : Peer α} {b : β} :
    receive x s = .ok b t ↔ x s.source = .ok b t.source ∧ t.room = s.room ∧ t.sent = s.sent := by
  unfold receive
  cases x s.source with
  | ok b' r =>
      obtain ⟨source, room, sent⟩ := t
      constructor
      · intro same
        cases same
        exact ⟨rfl, rfl, rfl⟩
      · rintro ⟨same, rfl, rfl⟩
        cases same
        rfl
  | error e r => exact iff_of_false nofun nofun

theorem send_eq_ok {items : List α} {s t : Peer α} :
    send items s = .ok () t ↔ Takes s items ∧ t.source = s.source ∧ t.sent = s.sent ++ items ∧
      t.room = s.room.map fun limit => (limit.1 - items.length, limit.2) := by
  obtain ⟨source, room, sent⟩ := s
  obtain ⟨source', room', sent'⟩ := t
  unfold send Takes
  cases room with
  | none =>
      constructor
      · intro same
        cases same
        exact ⟨nofun, rfl, rfl, rfl⟩
      · rintro ⟨-, same, all, unlimited⟩
        dsimp only [Option.map_none] at same all unlimited
        rw [same, all, unlimited]
  | some limit =>
      dsimp only
      split
      · rename_i fits
        constructor
        · intro same
          cases same
          exact ⟨fun _ same => Option.some.inj same ▸ fits, rfl, rfl, rfl⟩
        · rintro ⟨-, same, all, left⟩
          dsimp only [Option.map_some] at same all left
          rw [same, all, left]
      · rename_i long
        exact iff_of_false nofun fun ⟨takes, _⟩ => long (takes limit rfl)

theorem send_ok {items : List α} {s : Peer α} (takes : Takes s items) : ∃ t, send items s = .ok () t :=
  ⟨⟨s.source, s.room.map fun limit => (limit.1 - items.length, limit.2), s.sent ++ items⟩,
    send_eq_ok.mpr ⟨takes, rfl, rfl, rfl⟩⟩

/-- Taking one part after the other. -/
theorem takes_append {s t : Peer α} {items more : List α} (sent : send items s = .ok () t) :
    Takes s (items ++ more) ↔ Takes t more := by
  obtain ⟨takes, -, -, room⟩ := send_eq_ok.mp sent
  unfold Takes at takes ⊢
  rw [room]
  cases limited : s.room with
  | none => exact iff_of_true nofun nofun
  | some limit =>
      have fits := takes limit limited
      simp only [Option.mem_def, Option.some.injEq, forall_eq', Option.map_some, List.length_append]
      omega

end Exchange
