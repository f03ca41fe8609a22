import Ezpn.Lib.Exchange
import Ezpn.Protocol.Frame
import Ezpn.Server.Clients

/-!
# Version negotiation

The frames with which client and server agree on a protocol version, what the first
byte of a client tells, and the client's side of the handshake.
-/

set_option autoImplicit false

namespace Ezpn

namespace Protocol

/-! ## Tags -/

def cResize : UInt8 := 0x03

def cKill : UInt8 := 0x04

def cPing : UInt8 := 0x05

def cAttach : UInt8 := 0x06

def sPong : UInt8 := 0x84

def sVersion : UInt8 := 0x10

def cHello : UInt8 := 0x11

def sIncompat : UInt8 := 0x12

def protoMajor : UInt16 := 1

def protoMinor : UInt16 := 0

/-! ## Payloads -/

structure AttachRequest where
  cols : UInt16
  rows : UInt16
  mode : AttachMode
  deriving DecidableEq, Repr

structure ServerHello where
  protoMajor : UInt16
  protoMinor : UInt16
  build : String
  deriving DecidableEq, Repr

structure ClientHello where
  protoMajor : UInt16
  protoMinor : UInt16
  clientBuild : String
  supportedFeatures : List String
  deriving DecidableEq, Repr

structure IncompatNotice where
  serverProto : String
  clientProto : String
  message : String
  deriving DecidableEq, Repr

/-- The library that writes and reads the payloads. A record with short texts is
written in few bytes. -/
class ControlJson where
  serverHello : ServerHello → List UInt8
  clientHello : ClientHello → List UInt8
  incompat : IncompatNotice → List UInt8
  parseServerHello : List UInt8 → Except String ServerHello
  parseClientHello : List UInt8 → Except String ClientHello
  parseIncompat : List UInt8 → Except String IncompatNotice
  parseAttach : List UInt8 → Except String AttachRequest
  serverHello_fits : ∀ hello, hello.build.length ≤ 1000 → (serverHello hello).length ≤ maxPayload
  incompat_fits : ∀ notice, notice.serverProto.length + notice.clientProto.length + notice.message.length ≤ 1000 →
    (incompat notice).length ≤ maxPayload

def clientFeatures : List String := ["scrollback-v3", "kitty-kbd-stack", "osc-52-confirm"]

/-- `build_string`, whose revision is never known. -/
def buildString : String := "ezpn 0.14.0 (rev unknown)"

/-- A name that `validate_name` allows. -/
structure SessionName where
  name : String
  short : name.length ≤ 64

def protoText (major minor : UInt16) : String := toString major.toNat ++ "." ++ toString minor.toNat

/-! ## First byte -/

inductive FirstByteKind where
  | tag
  | legacyJson
  | unknown
  deriving DecidableEq, Repr

def classifyFirstByte (b : UInt8) : FirstByteKind :=
  if b = 0x20 || b = 0x09 || b = 0x0D || b = 0x0A then .legacyJson
  else if b ≤ 0x20 then .tag
  else if b = 0x7B || b = 0x5B then .legacyJson
  else .unknown

section Json
variable [ControlJson]

/-! ## Server frames -/

def serverHello : ServerHello := { protoMajor, protoMinor, build := buildString }

/-- `write_msg` into a vector; a payload that does not fit would be a panic. -/
def encoded (tag : UInt8) (payload : List UInt8) (fits : payload.length ≤ maxPayload) : List UInt8 :=
  match written : writeMsg tag payload with
  | .ok calls => calls.flatMap WriteCall.bytes
  | .error _ => absurd (written.symm.trans (if_neg (Nat.not_lt.mpr fits))) nofun

/-- `server_hello` -/
def serverHelloFrame : List UInt8 :=
  encoded sVersion (ControlJson.serverHello serverHello) (ControlJson.serverHello_fits _ (by decide))

def majorMismatch (client : ClientHello) (session : SessionName) : IncompatNotice :=
  let serverProto := protoText protoMajor protoMinor
  let clientProto := protoText client.protoMajor client.protoMinor
  { serverProto
    clientProto
    message := "client v" ++ clientProto ++ " cannot attach to server v" ++ serverProto ++
      " — restart the daemon with 'ezpn kill " ++ session.name ++ "' to upgrade." }

def legacyClient (session : SessionName) : IncompatNotice where
  serverProto := protoText protoMajor protoMinor
  clientProto := "unknown"
  message := "legacy client detected (no version handshake) — restart the daemon with 'ezpn kill " ++ session.name ++
    "' to upgrade."

omit [ControlJson] in
theorem protoText_short (major minor : UInt16) : (protoText major minor).length ≤ 11 := by
  have digits (n : UInt16) : (toString n.toNat).length ≤ 5 :=
    (Nat.length_repr_le_iff (by decide)).mpr (n.toNat_lt.trans (by decide))
  have majorDigits := digits major
  have minorDigits := digits minor
  rw [protoText, String.length_append, String.length_append]
  have point : ".".length = 1 := rfl
  omega

/-- A notice that is short enough to be sent. -/
def IncompatNotice.Short (notice : IncompatNotice) : Prop :=
  notice.serverProto.length + notice.clientProto.length + notice.message.length ≤ 1000

omit [ControlJson] in
theorem majorMismatch_short (client : ClientHello) (session : SessionName) : (majorMismatch client session).Short := by
  have server := protoText_short protoMajor protoMinor
  have peer := protoText_short client.protoMajor client.protoMinor
  have name := session.short
  have literals : "client v".length = 8 ∧ " cannot attach to server v".length = 26 ∧
      " — restart the daemon with 'ezpn kill ".length = 38 ∧ "' to upgrade.".length = 13 :=
    ⟨String.length_ofList, String.length_ofList, String.length_ofList, String.length_ofList⟩
  simp only [IncompatNotice.Short, majorMismatch, String.length_append]
  omega

omit [ControlJson] in
theorem legacyClient_short (session : SessionName) : (legacyClient session).Short := by
  have server := protoText_short protoMajor protoMinor
  have name := session.short
  have literals : "legacy client detected (no version handshake) — restart the daemon with 'ezpn kill ".length = 83 ∧
      "unknown".length = 7 ∧ "' to upgrade.".length = 13 :=
    ⟨String.length_ofList, String.length_ofList, String.length_ofList⟩
  simp only [IncompatNotice.Short, legacyClient, String.length_append]
  omega

def encodeIncompat (notice : IncompatNotice) (short : notice.Short) : List UInt8 :=
  encoded sIncompat (ControlJson.incompat notice) (ControlJson.incompat_fits notice short)

def incompatForMajorMismatch (client : ClientHello) (session : SessionName) : List UInt8 :=
  encodeIncompat (majorMismatch client session) (majorMismatch_short client session)

def incompatForLegacyClient (session : SessionName) : List UInt8 :=
  encodeIncompat (legacyClient session) (legacyClient_short session)

omit [ControlJson] in
theorem encoded_eq {tag : UInt8} {payload : List UInt8} (fits : payload.length ≤ maxPayload) :
    encoded tag payload fits = frame (tag, payload) := by
  obtain ⟨calls, written, bytes⟩ := @writeMsg_ok (tag, payload) fits
  unfold encoded
  split
  · rename_i written'
    rw [← bytes, Except.ok.inj (written'.symm.trans written)]
  · rename_i failed
    nomatch failed.symm.trans written

theorem serverHelloFrame_eq : serverHelloFrame = frame (sVersion, ControlJson.serverHello serverHello) :=
  encoded_eq (ControlJson.serverHello_fits _ (by decide))

theorem encodeIncompat_eq (notice : IncompatNotice) (short : notice.Short) :
    encodeIncompat notice short = frame (sIncompat, ControlJson.incompat notice) :=
  encoded_eq (ControlJson.incompat_fits notice short)

/-! ## Client -/

inductive HandshakeOutcome where
  | ok (server : ServerHello)
  | incompat (notice : IncompatNotice)

def malformed (frame e : String) : StreamError := { kind := .invalidData, message := "malformed " ++ frame ++ " payload: " ++ e }

/-- A decoded payload, or the error of the decoder. -/
def decoded {β : Type} (frame : String) (parsed : Except String β) : Exchange UInt8 β :=
  match parsed with
  | .error e => throw (malformed frame e)
  | .ok b => return b

/-- `write_msg` on a connection. -/
def writeFrame (tag : UInt8) (payload : List UInt8) : Exchange UInt8 Unit :=
  match writeMsg tag payload with
  | .error e => throw e
  | .ok calls => calls.forM fun call => Exchange.send call.bytes

def unexpectedFirst (tag : UInt8) : StreamError where
  kind := .invalidData
  message := "expected S_VERSION (0x10) or S_INCOMPAT (0x12) as first frame, got 0x" ++
    String.ofList [(tag.toNat / 16).digitChar, (tag.toNat % 16).digitChar]

def localMismatch (server : ServerHello) : IncompatNotice where
  serverProto := protoText server.protoMajor server.protoMinor
  clientProto := protoText protoMajor protoMinor
  message := "client v" ++ protoText protoMajor protoMinor ++ " cannot attach to server v" ++
    protoText server.protoMajor server.protoMinor ++ " — reinstall the matching ezpn binary or restart the daemon."

def clientHandshake (window : Nat → Nat) : Exchange UInt8 HandshakeOutcome := do
  let (tag, payload) ← Exchange.receive (readMsg window)
  if tag = sVersion then
    let server ← decoded "S_VERSION" (ControlJson.parseServerHello payload)
    if server.protoMajor ≠ protoMajor then return .incompat (localMismatch server)
    else
      let hello : ClientHello := { protoMajor, protoMinor, clientBuild := buildString, supportedFeatures := clientFeatures }
      writeFrame cHello (ControlJson.clientHello hello)
      return .ok server
  else if tag = sIncompat then
    let notice ← decoded "S_INCOMPAT" (ControlJson.parseIncompat payload)
    return .incompat notice
  else throw (unexpectedFirst tag)

/-- `perform_handshake`; the notice becomes the error with which the client ends. -/
def performHandshake (window : Nat → Nat) : Exchange UInt8 (Except IncompatNotice ServerHello) := do
  match ← clientHandshake window with
  | .ok hello => return .ok hello
  | .incompat notice => return .error notice

omit [ControlJson] in
theorem decoded_eq_ok {β : Type} {frame : String} {parsed : Except String β} {s t : Peer UInt8} {b : β} :
    decoded frame parsed s = .ok b t ↔ parsed = .ok b ∧ t = s := by
  unfold decoded
  cases parsed with
  | error e => exact iff_of_false nofun nofun
  | ok b' =>
      constructor
      · intro same
        cases same
        exact ⟨rfl, rfl⟩
      · rintro ⟨same, rfl⟩
        cases same
        rfl

/-- The client goes on only after the hello of a server with its own major version. -/
theorem performHandshake_ok {window : Nat → Nat} {s t : Peer UInt8} {server : ServerHello}
    (proceeds : performHandshake window s = .ok (.ok server) t) :
    ∃ payload rest, Starts maxPayload s.source.stream (sVersion, payload) rest ∧
      ControlJson.parseServerHello payload = .ok server ∧ server.protoMajor = protoMajor := by
  obtain ⟨outcome, r, handshake, proceeds⟩ := Exchange.bind_eq_ok.mp proceeds
  cases outcome with
  | incompat notice => nomatch proceeds
  | ok server' =>
      obtain rfl : server' = server := by
        cases proceeds
        rfl
      obtain ⟨⟨tag, payload⟩, r', received, handshake⟩ := Exchange.bind_eq_ok.mp handshake
      obtain ⟨read, -, -⟩ := Exchange.receive_eq_ok.mp received
      rcases readMsgLimited_starts window maxPayload s.source with ⟨message, u, read', starts⟩ | ⟨⟨e, u, failed⟩, -⟩
      · cases read.symm.trans read'
        dsimp only at handshake
        split at handshake
        · rename_i version
          subst version
          obtain ⟨hello, r'', decode, checked⟩ := Exchange.bind_eq_ok.mp handshake
          obtain ⟨parsed, rfl⟩ := decoded_eq_ok.mp decode
          split at checked
          · nomatch checked
          · rename_i same
            obtain ⟨⟨⟩, r₃, -, done⟩ := Exchange.bind_eq_ok.mp checked
            cases done
            exact ⟨payload, _, starts, parsed, not_not.mp same⟩
        · split at handshake
          · obtain ⟨notice, r'', -, done⟩ := Exchange.bind_eq_ok.mp handshake
            nomatch done
          · nomatch handshake
      · nomatch read.symm.trans failed

end Json

end Protocol

end Ezpn
