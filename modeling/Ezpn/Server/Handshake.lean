import Ezpn.Protocol.Negotiation
import Ezpn.Server.Input

/-!
# Handshakes of the server

What the server does with a new connection until it hands over an attach or a kill.
The bytes that arrive decide, however they are cut. The first of them is read alone
and put back in front of the frame reader.
-/

set_option autoImplicit false

namespace Ezpn

namespace Handshake

open Protocol Exchange

def controlLimit : Nat := 64 * 1024

/-- The connection of an attach is the peer as the handshake leaves it. -/
inductive Incoming where
  | attach (cols rows : Nat) (mode : AttachMode)
  | kill
  deriving DecidableEq, Repr

/-- An attach with the normalised size. -/
def Incoming.sized (size : Nat × Nat) (mode : AttachMode) : Incoming :=
  let (cols, rows) := normalizeSize size.1 size.2
  .attach cols rows mode

/-- `first.chain(io)`, read past the first byte. -/
def chain {β : Type} (first : UInt8) (x : Reader UInt8 β) : Reader UInt8 β := fun s =>
  x { s with deliveries := .chunk ⟨[first], by simp⟩ :: s.deliveries, received := s.received - 1 }

section Json
variable [ControlJson]

/-- The `match tag` of `negotiate`. -/
def settle (tag : UInt8) (payload : List UInt8) : Exchange UInt8 (Option Incoming) :=
  if tag = cPing && payload.isEmpty then do
    writeFrame sPong []
    return none
  else if tag = cKill && payload.isEmpty then return some .kill
  else if tag = cResize then
    match Input.decodeResize payload with
    | none => throw { kind := .invalidData, message := "invalid resize" }
    | some size => return some (.sized size .steal)
  else if tag = cAttach then
    match ControlJson.parseAttach payload with
    | .error e => throw { kind := .other, message := e }
    | .ok request => return some (.sized (request.cols.toNat, request.rows.toNat) request.mode)
  else throw { kind := .invalidData, message := "unexpected handshake frame" }

/-- The rest of `negotiate` after the first byte. -/
def answer (window : Nat → Nat) (session : SessionName) (first : UInt8) : Exchange UInt8 (Option Incoming) :=
  if classifyFirstByte first ≠ .tag then do
    send (incompatForLegacyClient session)
    return none
  else do
    let (tag, payload) ← receive (chain first (readMsgLimited window controlLimit))
    if tag = cHello then
      let hello ← decoded "C_HELLO" (ControlJson.parseClientHello payload)
      if hello.protoMajor ≠ protoMajor then
        send (incompatForMajorMismatch hello session)
        return none
      else
        let (tag, payload) ← receive (readMsgLimited window controlLimit)
        settle tag payload
    else settle tag payload

/-- `negotiate`, once the peer is known to be of the same user. -/
def negotiate (window : Nat → Nat) (session : SessionName) : Exchange UInt8 (Option Incoming) := do
  send serverHelloFrame
  let first ← receive (Source.readExact 1)
  answer window session (first.headD 0)

/-! ## What arrives -/

/-- A stream opens with a hello of the same major version, or with none. -/
inductive Opening (stream : List UInt8) : List UInt8 → Prop where
  | plain : Opening stream stream
  | hello {payload rest : List UInt8} {hello : ClientHello} (starts : Starts controlLimit stream (cHello, payload) rest)
      (parsed : ControlJson.parseClientHello payload = .ok hello) (same : hello.protoMajor = protoMajor) : Opening stream rest

/-- The frames that ask for something to be handed over. -/
inductive Request : UInt8 × List UInt8 → Incoming → Prop where
  | kill : Request (cKill, []) .kill
  | resize (a b c d : UInt8) : Request (cResize, [a, b, c, d]) (.sized (beValue [a, b], beValue [c, d]) .steal)
  | attach {payload : List UInt8} {request : AttachRequest} (parsed : ControlJson.parseAttach payload = .ok request) :
      Request (cAttach, payload) (.sized (request.cols.toNat, request.rows.toNat) request.mode)

/-- What the frames at the start of a stream ask for, and the bytes after them. -/
def Offers (stream : List UInt8) (incoming : Incoming) (rest : List UInt8) : Prop :=
  ∃ middle message, Opening stream middle ∧ Starts controlLimit middle message rest ∧ Request message incoming

/-- A client that cannot be served, and the notice for it. -/
inductive Refused (session : SessionName) (stream : List UInt8) : IncompatNotice → Prop where
  | legacy {first : UInt8} {rest : List UInt8} (arrived : stream = first :: rest) (other : classifyFirstByte first ≠ .tag) :
      Refused session stream (legacyClient session)
  | major {payload rest : List UInt8} {hello : ClientHello} (starts : Starts controlLimit stream (cHello, payload) rest)
      (parsed : ControlJson.parseClientHello payload = .ok hello) (other : hello.protoMajor ≠ protoMajor) :
      Refused session stream (majorMismatch hello session)

/-! ## Single steps -/

theorem settle_eq_some {tag : UInt8} {payload : List UInt8} {s t : Peer UInt8} {incoming : Incoming} :
    settle tag payload s = .ok (some incoming) t ↔ Request (tag, payload) incoming ∧ t = s := by
  constructor
  · intro settled
    unfold settle at settled
    split at settled
    · obtain ⟨⟨⟩, r, -, done⟩ := bind_eq_ok.mp settled
      cases done
    split at settled
    · rename_i killed
      obtain ⟨rfl, empty⟩ := Bool.and_eq_true_iff.mp killed |>.imp_left of_decide_eq_true
      cases List.isEmpty_iff.mp empty
      cases settled
      exact ⟨.kill, rfl⟩
    split at settled
    · rename_i resize
      cases (resize : tag = cResize)
      cases decoded : Input.decodeResize payload with
      | none =>
          rw [decoded] at settled
          cases settled
      | some size =>
          rw [decoded] at settled
          cases settled
          unfold Input.decodeResize at decoded
          split at decoded
          · rename_i a b c d _ _
            have same : (a.toNat * 256 + b.toNat, c.toNat * 256 + d.toNat) = (beValue [a, b], beValue [c, d]) := by
              simp only [beValue, List.foldl_cons, List.foldl_nil, Nat.zero_mul, Nat.zero_add]
            rw [← Option.some.inj decoded, same]
            exact ⟨.resize a b c d, rfl⟩
          · cases decoded
    split at settled
    · rename_i attach
      cases (attach : tag = cAttach)
      cases parsed : ControlJson.parseAttach payload with
      | error e =>
          rw [parsed] at settled
          cases settled
      | ok request =>
          rw [parsed] at settled
          cases settled
          exact ⟨.attach parsed, rfl⟩
    · cases settled
  · rintro ⟨request, rfl⟩
    cases request with
    | kill => rfl
    | resize a b c d =>
        have size : (a.toNat * 256 + b.toNat, c.toNat * 256 + d.toNat) = (beValue [a, b], beValue [c, d]) := by
          simp only [beValue, List.foldl_cons, List.foldl_nil, Nat.zero_mul, Nat.zero_add]
        rw [← size]
        rfl
    | @attach payload request parsed =>
        change (match ControlJson.parseAttach payload with
          | .error e => throw { kind := .other, message := e }
          | .ok request => pure (some (.sized (request.cols.toNat, request.rows.toNat) request.mode)) :
            Exchange UInt8 (Option Incoming)) t = _
        rw [parsed]
        rfl

omit [ControlJson] in
/-- Reading the first byte alone. -/
theorem readFirst_cases (s : Peer UInt8) :
    (∃ first t, s.source.stream = first :: t.source.stream ∧ receive (Source.readExact 1) s = .ok [first] t ∧
      t.room = s.room ∧ t.sent = s.sent) ∨
    (s.source.stream = [] ∧ ∃ e t, receive (Source.readExact 1) s = .error e t) := by
  have reads := @Source.readExact_reads UInt8 1 s.source
  cases stream : s.source.stream with
  | nil =>
      obtain ⟨e, r, failed⟩ := reads.2 (by rw [stream]; exact Nat.one_pos)
      refine .inr ⟨rfl, e, { s with source := r }, ?_⟩
      rw [receive, failed]
  | cons first rest =>
      obtain ⟨r, read, left⟩ := reads.1 (by rw [stream]; exact Nat.le_add_left 1 _)
      rw [stream] at read left
      refine .inl ⟨first, { s with source := r }, ?_, receive_eq_ok.mpr ⟨read, rfl, rfl⟩, rfl, rfl⟩
      rw [left]
      rfl

omit [ControlJson] in
/-- Reading a frame leaves the writing side alone. -/
theorem receive_starts {reader : Reader UInt8 (UInt8 × List UInt8)} {stream : List UInt8} {s : Peer UInt8}
    (reads : (∃ message r, reader s.source = .ok message r ∧ Starts controlLimit stream message r.stream) ∨
      (∃ e r, reader s.source = .error e r) ∧ ∀ message rest, ¬Starts controlLimit stream message rest) :
    (∃ message t, receive reader s = .ok message t ∧ Starts controlLimit stream message t.source.stream ∧ t.room = s.room ∧
      t.sent = s.sent) ∨
    (∃ e t, receive reader s = .error e t) ∧ ∀ message rest, ¬Starts controlLimit stream message rest := by
  rcases reads with ⟨message, r, read, starts⟩ | ⟨⟨e, r, failed⟩, none⟩
  · exact .inl ⟨message, { s with source := r }, receive_eq_ok.mpr ⟨read, rfl, rfl⟩, starts, rfl, rfl⟩
  · refine .inr ⟨⟨e, { s with source := r }, ?_⟩, none⟩
    rw [receive, failed]

omit [ControlJson] in
/-- The frame reader sees the first byte again. -/
theorem chained_starts (window : Nat → Nat) (first : UInt8) (s : Peer UInt8) :
    (∃ message t, receive (chain first (readMsgLimited window controlLimit)) s = .ok message t ∧
      Starts controlLimit (first :: s.source.stream) message t.source.stream ∧ t.room = s.room ∧ t.sent = s.sent) ∨
    (∃ e t, receive (chain first (readMsgLimited window controlLimit)) s = .error e t) ∧
      ∀ message rest, ¬Starts controlLimit (first :: s.source.stream) message rest :=
  receive_starts (readMsgLimited_starts window controlLimit
    { s.source with deliveries := .chunk ⟨[first], by simp⟩ :: s.source.deliveries, received := s.source.received - 1 })

omit [ControlJson] in
theorem received_starts (window : Nat → Nat) (s : Peer UInt8) :
    (∃ message t, receive (readMsgLimited window controlLimit) s = .ok message t ∧
      Starts controlLimit s.source.stream message t.source.stream ∧ t.room = s.room ∧ t.sent = s.sent) ∨
    (∃ e t, receive (readMsgLimited window controlLimit) s = .error e t) ∧
      ∀ message rest, ¬Starts controlLimit s.source.stream message rest :=
  receive_starts (readMsgLimited_starts window controlLimit s.source)

omit [ControlJson] in
theorem Starts.head {limit : Nat} {first : UInt8} {stream rest : List UInt8} {message : UInt8 × List UInt8}
    (starts : Starts limit (first :: stream) message rest) : first = message.1 := (List.cons.inj starts.1).1

theorem Request.tag {message : UInt8 × List UInt8} {incoming : Incoming} (request : Request message incoming) :
    classifyFirstByte message.1 = .tag ∧ message.1 ≠ cHello := by
  cases request with
  | kill => exact ⟨rfl, (by decide : cKill ≠ cHello)⟩
  | resize => exact ⟨rfl, (by decide : cResize ≠ cHello)⟩
  | attach => exact ⟨rfl, (by decide : cAttach ≠ cHello)⟩

/-! ## Whole handshakes -/

section Handshake
variable {window : Nat → Nat} {session : SessionName} {s t : Peer UInt8} {incoming : Incoming}

/-- After its hello, the server goes by the first byte. -/
theorem negotiate_started (takes : Takes s serverHelloFrame) {first : UInt8} {rest : List UInt8}
    (arrived : s.source.stream = first :: rest) :
    ∃ r, negotiate window session s = answer window session first r ∧ r.source.stream = rest ∧
      r.sent = s.sent ++ serverHelloFrame ∧ ∀ more, Takes s (serverHelloFrame ++ more) → Takes r more := by
  obtain ⟨u, greeted⟩ := send_ok takes
  obtain ⟨-, source, sent, -⟩ := send_eq_ok.mp greeted
  rcases readFirst_cases u with ⟨first', r, stream, read, room, kept⟩ | ⟨ended, -⟩
  · rw [source, arrived] at stream
    obtain ⟨rfl, rfl⟩ := List.cons.inj stream
    refine ⟨r, ?_, rfl, kept.trans sent, fun more takes => ?_⟩
    · exact (bind_ok greeted).trans (bind_ok read)
    · have left := (takes_append greeted).mp takes
      unfold Takes at left ⊢
      rw [room]
      exact left
  · rw [source, arrived] at ended
    nomatch ended

theorem answer_handed {first : UInt8} (handed : answer window session first s = .ok (some incoming) t) :
    t.sent = s.sent ∧ Offers (first :: s.source.stream) incoming t.source.stream := by
  unfold answer at handed
  split at handed
  · obtain ⟨⟨⟩, u, -, done⟩ := bind_eq_ok.mp handed
    nomatch done
  · obtain ⟨⟨tag, payload⟩, u, received, handed⟩ := bind_eq_ok.mp handed
    rcases chained_starts window first s with ⟨message, u', received', starts, -, sent⟩ | ⟨⟨e, u', failed⟩, -⟩
    · cases received.symm.trans received'
      dsimp only at handed
      split at handed
      · rename_i hello
        cases (hello : tag = cHello)
        obtain ⟨hello, v, decode, greeted⟩ := bind_eq_ok.mp handed
        obtain ⟨parsed, rfl⟩ := decoded_eq_ok.mp decode
        split at greeted
        · obtain ⟨⟨⟩, w, -, done⟩ := bind_eq_ok.mp greeted
          nomatch done
        · rename_i same
          obtain ⟨⟨tag, payload'⟩, w, receivedMore, settled⟩ := bind_eq_ok.mp greeted
          rcases received_starts window v with ⟨message, w', received', next, -, sentNext⟩ | ⟨⟨e, w', failed⟩, -⟩
          · cases receivedMore.symm.trans received'
            obtain ⟨request, rfl⟩ := settle_eq_some.mp settled
            exact ⟨sentNext.trans sent, _, _, .hello starts parsed (not_not.mp same), next, request⟩
          · nomatch receivedMore.symm.trans failed
      · obtain ⟨request, rfl⟩ := settle_eq_some.mp handed
        exact ⟨sent, _, _, .plain, starts, request⟩
    · nomatch received.symm.trans failed

theorem answer_offers {first : UInt8} {rest : List UInt8} (offers : Offers (first :: s.source.stream) incoming rest) :
    ∃ t, answer window session first s = .ok (some incoming) t ∧ t.source.stream = rest := by
  obtain ⟨middle, message, opening, starts, request⟩ := offers
  unfold answer
  cases opening with
  | plain =>
      obtain ⟨tag, noHello⟩ := request.tag
      rw [if_neg (by rw [Starts.head starts, tag]; exact not_not.mpr rfl)]
      rcases chained_starts window first s with ⟨message', u, received, starts', -⟩ | ⟨-, none⟩
      · obtain ⟨rfl, rfl⟩ := starts.unique starts'
        refine ⟨u, (bind_ok received).trans ?_, rfl⟩
        dsimp only
        rw [if_neg noHello]
        exact settle_eq_some.mpr ⟨request, rfl⟩
      · exact absurd starts (none _ _)
  | hello opened parsed same =>
      rw [if_neg (by rw [Starts.head opened]; exact not_not.mpr rfl)]
      rcases chained_starts window first s with ⟨message', u, received, opened', -⟩ | ⟨-, none⟩
      · obtain ⟨rfl, rfl⟩ := opened.unique opened'
        rcases received_starts window u with ⟨message', v, next, starts', -⟩ | ⟨-, none⟩
        · obtain ⟨rfl, rfl⟩ := starts.unique starts'
          refine ⟨v, (bind_ok received).trans ?_, rfl⟩
          dsimp only
          rw [if_pos rfl, bind_ok (decoded_eq_ok.mpr ⟨parsed, rfl⟩), if_neg (not_not.mpr same), bind_ok next]
          exact settle_eq_some.mpr ⟨request, rfl⟩
        · exact absurd starts (none _ _)
      · exact absurd opened (none _ _)

theorem negotiate_handed (handed : negotiate window session s = .ok (some incoming) t) :
    Takes s serverHelloFrame ∧ t.sent = s.sent ++ serverHelloFrame ∧ Offers s.source.stream incoming t.source.stream := by
  obtain ⟨⟨⟩, u, greeted, rest⟩ := bind_eq_ok.mp handed
  obtain ⟨takes, source, sent, -⟩ := send_eq_ok.mp greeted
  cases arrived : s.source.stream with
  | nil =>
      obtain ⟨first, v, read, -⟩ := bind_eq_ok.mp rest
      rcases readFirst_cases u with ⟨first', r, stream, -⟩ | ⟨-, e, r, failed⟩
      · rw [source, arrived] at stream
        nomatch stream
      · nomatch read.symm.trans failed
  | cons first later =>
      obtain ⟨r, started, left, sent, -⟩ := @negotiate_started _ window session s takes first later arrived
      obtain ⟨kept, offers⟩ := answer_handed (started.symm.trans handed)
      rw [left] at offers
      exact ⟨takes, kept.trans sent, offers⟩

theorem negotiate_offers {rest : List UInt8} (takes : Takes s serverHelloFrame)
    (offers : Offers s.source.stream incoming rest) :
    ∃ t, negotiate window session s = .ok (some incoming) t ∧ t.source.stream = rest := by
  cases arrived : s.source.stream with
  | nil =>
      rw [arrived] at offers
      obtain ⟨middle, message, opening, starts, -⟩ := offers
      cases opening with
      | plain => nomatch starts.1
      | hello opened _ _ => nomatch opened.1
  | cons first later =>
      obtain ⟨r, started, left, -, -⟩ := @negotiate_started _ window session s takes first later arrived
      rw [arrived, ← left] at offers
      rw [started]
      exact answer_offers offers

omit [ControlJson] in
theorem refusal {notice : List UInt8} {s : Peer UInt8} :
    let refuse : Exchange UInt8 (Option Incoming) := do
      send notice
      return none
    (∀ incoming t, refuse s ≠ .ok (some incoming) t) ∧
      (Takes s notice → ∃ t, refuse s = .ok none t ∧ t.sent = s.sent ++ notice) := by
  constructor
  · intro incoming t handed
    obtain ⟨⟨⟩, u, -, done⟩ := bind_eq_ok.mp handed
    nomatch done
  · intro takes
    obtain ⟨t, sent⟩ := send_ok takes
    exact ⟨t, bind_ok sent, (send_eq_ok.mp sent).2.2.1⟩

theorem answer_refused {first : UInt8} {notice : IncompatNotice} (refused : Refused session (first :: s.source.stream) notice) :
    (∀ incoming t, answer window session first s ≠ .ok (some incoming) t) ∧
      (Takes s (frame (sIncompat, ControlJson.incompat notice)) →
        ∃ t, answer window session first s = .ok none t ∧
          t.sent = s.sent ++ frame (sIncompat, ControlJson.incompat notice)) := by
  cases refused with
  | legacy arrived other =>
      obtain ⟨rfl, -⟩ := List.cons.inj arrived
      rw [answer, if_pos other, incompatForLegacyClient, encodeIncompat_eq]
      exact refusal
  | @major payload rest hello starts parsed other =>
      rw [answer, if_neg (by rw [Starts.head starts]; exact not_not.mpr rfl)]
      rcases chained_starts window first s with ⟨message', u, received, starts', room, sent⟩ | ⟨-, none⟩
      · obtain ⟨rfl, -⟩ := starts.unique starts'
        rw [bind_ok received, ← sent]
        dsimp only
        rw [if_pos rfl, bind_ok (decoded_eq_ok.mpr ⟨parsed, rfl⟩), if_pos other, incompatForMajorMismatch,
          encodeIncompat_eq, Takes, ← room]
        exact refusal
      · exact absurd starts (none _ _)

theorem negotiate_refused {notice : IncompatNotice} (refused : Refused session s.source.stream notice) :
    (∀ incoming t, negotiate window session s ≠ .ok (some incoming) t) ∧
      (Takes s (serverHelloFrame ++ frame (sIncompat, ControlJson.incompat notice)) →
        ∃ t, negotiate window session s = .ok none t ∧
          t.sent = s.sent ++ serverHelloFrame ++ frame (sIncompat, ControlJson.incompat notice)) := by
  obtain ⟨first, later, arrived⟩ : ∃ first later, s.source.stream = first :: later := by
    cases refused with
    | legacy arrived other => exact ⟨_, _, arrived⟩
    | major starts parsed other => exact ⟨_, _, starts.1⟩
  rw [arrived] at refused
  constructor
  · intro incoming t handed
    obtain ⟨takes, -, -⟩ := negotiate_handed handed
    obtain ⟨r, started, left, -, -⟩ := @negotiate_started _ window session s takes first later arrived
    rw [← left] at refused
    exact (answer_refused refused).1 incoming t (started.symm.trans handed)
  · intro takes
    have greeting : Takes s serverHelloFrame := fun limit limited =>
      (List.length_append ▸ Nat.le_add_right _ _).trans (takes limit limited)
    obtain ⟨r, started, left, sent, more⟩ := @negotiate_started _ window session s greeting first later arrived
    rw [← left] at refused
    obtain ⟨t, answered, all⟩ := (answer_refused refused).2 (more _ takes)
    exact ⟨t, started.trans answered, by rw [all, sent]⟩

end Handshake

/-- A handshake hands over what the frames at the start of the stream ask for, and leaves the bytes after
them, if the peer takes the hello of the server; a client that cannot be served gets one notice; and a
client goes on only with a server of its own major version. -/
theorem negotiation (window : Nat → Nat) (session : SessionName) (s : Peer UInt8) :
    let hello := frame (sVersion, ControlJson.serverHello serverHello)
    (∀ incoming rest,
      (∃ t, negotiate window session s = .ok (some incoming) t ∧ t.source.stream = rest ∧ t.sent = s.sent ++ hello) ↔
        Takes s hello ∧ Offers s.source.stream incoming rest) ∧
    (∀ incoming t, negotiate window session s = .ok (some incoming) t → Offers s.source.stream incoming t.source.stream) ∧
    (∀ notice, Refused session s.source.stream notice →
      (∀ incoming t, negotiate window session s ≠ .ok (some incoming) t) ∧
        (Takes s (hello ++ frame (sIncompat, ControlJson.incompat notice)) →
          ∃ t, negotiate window session s = .ok none t ∧
            t.sent = s.sent ++ hello ++ frame (sIncompat, ControlJson.incompat notice))) ∧
    ∀ server t, performHandshake window s = .ok (.ok server) t →
      ∃ payload rest, Starts maxPayload s.source.stream (sVersion, payload) rest ∧
        ControlJson.parseServerHello payload = .ok server ∧ server.protoMajor = protoMajor := by
  intro hello
  rw [show hello = serverHelloFrame from serverHelloFrame_eq.symm]
  refine ⟨fun incoming rest => ?_, fun incoming t handed => (negotiate_handed handed).2.2, fun notice => negotiate_refused,
    fun server t => performHandshake_ok⟩
  constructor
  · rintro ⟨t, handed, rfl, -⟩
    obtain ⟨takes, -, offers⟩ := negotiate_handed handed
    exact ⟨takes, offers⟩
  · rintro ⟨takes, offers⟩
    obtain ⟨t, handed, left⟩ := @negotiate_offers _ window session s incoming rest takes offers
    exact ⟨t, handed, left, (negotiate_handed handed).2.1⟩

end Json

/-- The frames of a peer that is gone by the time the server says hello ask for an attach in vain. -/
theorem gone_peer : ¬∀ (_ : ControlJson) (window : Nat → Nat) (session : SessionName) (s : Peer UInt8) (cols rows : Nat)
    (mode : AttachMode) (rest : List UInt8), Offers s.source.stream (.attach cols rows mode) rest →
      ∃ t, negotiate window session s = .ok (some (.attach cols rows mode)) t := by
  intro claim
  let json : ControlJson :=
    { serverHello := fun _ => [0x7B, 0x7D]
      clientHello := fun _ => [0x7B, 0x7D]
      incompat := fun _ => [0x7B, 0x7D]
      parseServerHello := fun _ => .error "missing field"
      parseClientHello := fun _ => .error "missing field"
      parseIncompat := fun _ => .error "missing field"
      parseAttach := fun _ => .error "missing field"
      serverHello_fits := fun _ _ => by decide
      incompat_fits := fun _ _ => by decide }
  let resize : List UInt8 := frame (cResize, [0, 80, 0, 24])
  let gone : Peer UInt8 :=
    { source := { deliveries := [.chunk ⟨resize, by decide⟩] }
      room := some (0, { kind := .other, message := "Broken pipe" }) }
  have size : Incoming.sized (beValue [0, 80], beValue [0, 24]) .steal = .attach 80 24 .steal := by decide +kernel
  obtain ⟨t, handed⟩ := claim json (fun _ => 32) ⟨"main", by decide⟩ gone 80 24 .steal []
    ⟨resize, _, .plain, ⟨rfl, by decide⟩, size ▸ .resize 0 80 0 24⟩
  have takes := (negotiate_handed handed).1 _ rfl
  rw [serverHelloFrame_eq, frame_length] at takes
  omega

end Handshake

end Ezpn
