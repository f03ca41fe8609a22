import Ezpn.Pane
import Ezpn.Settings
import Mathlib.Data.List.Destutter

/-!
# Workspace snapshots

The snapshot document of `workspace.rs`, its history blobs and its validation.
The compressor and the JSON encoding are parameters.
-/

set_option autoImplicit false

namespace Ezpn

inductive RestartPolicy where
  | never
  | onFailure
  | always
  deriving DecidableEq, Repr, Inhabited

/-! ## Documents -/

def snapshotVersion : Nat := 3

def minSupportedVersion : Nat := 1

/-- 64 MiB. -/
def snapshotMaxBytes : Nat := 64 * 1024 * 1024

/-- 128 MiB. -/
def scrollbackDecodeMaxBytes : Nat := 128 * 1024 * 1024

def scrollbackMaxRows : Nat := 200000

def snapshotMaxTabs : Nat := 100

def snapshotMaxPanes : Nat := 1000

inductive ScrollbackEncoding where
  | bincodeGz
  | unknown
  deriving DecidableEq, Repr

structure ScrollbackBlob where
  encoding : ScrollbackEncoding
  rows : Nat
  bytesUncompressed : Nat
  payload : Bytes
  deriving DecidableEq, Repr

structure RowSnapshot where
  text : String
  attrs : Bytes
  deriving DecidableEq, Repr

structure PaneSnapshot where
  id : Nat
  launch : PaneLaunch
  name : Option String
  cwd : Option String
  env : EnvMap
  restart : RestartPolicy
  shell : Option String
  scrollback : Option ScrollbackBlob
  cursorPos : Option (Nat × Nat)

structure TabSnapshot (R : Type) where
  name : String
  layout : Layout R
  activePane : Nat
  zoomedPane : Option Nat
  broadcast : Bool
  panes : List PaneSnapshot

structure WorkspaceSnapshot (R : Type) where
  version : Nat
  shell : String
  borderStyle : BorderStyle
  showStatusBar : Bool
  showTabBar : Bool
  scrollback : Nat
  activeTab : Nat
  tabs : List (TabSnapshot R)

/-- The crates behind a snapshot file: `flate2` and `serde_json`, and the file system. -/
structure SnapshotFormat (R : Type) where
  gzip : Bytes → Bytes
  /-- at most that many bytes of the decompressed stream -/
  gunzip : Nat → Bytes → Except String Bytes
  /-- length of `to_string_pretty` -/
  prettyLength : WorkspaceSnapshot R → Nat
  /-- the document at a path, migrated to the current schema -/
  read : String → Except String (WorkspaceSnapshot R)

/-! ## History blobs -/

/-- Little-endian bytes of a `u64`. -/
def u64Bytes (n : Nat) : Bytes := (List.range 8).map fun i => UInt8.ofNat (n / 256 ^ i)

def u64Value (bytes : Bytes) : Nat := bytes.foldr (fun b value => b.toNat + 256 * value) 0

def utf8 (s : String) : Bytes := s.toUTF8.data.toList

def RowSnapshot.serialize (row : RowSnapshot) : Bytes :=
  let text := utf8 row.text
  u64Bytes text.length ++ text ++ u64Bytes row.attrs.length ++ row.attrs

/-- `bincode::serialize` with fixed-width lengths. -/
def bincodeRows (rows : List RowSnapshot) : Bytes :=
  u64Bytes rows.length ++ rows.flatMap RowSnapshot.serialize

/-- A length-prefixed run of bytes. -/
def takeBlock (bytes : Bytes) : Except String (Bytes × Bytes) :=
  let rest := bytes.drop 8
  let size := u64Value (bytes.take 8)
  if bytes.length < 8 || rest.length < size then .error "unexpected end of file"
  else .ok (rest.take size, rest.drop size)

def parseRow (bytes : Bytes) : Except String (RowSnapshot × Bytes) :=
  match takeBlock bytes with
  | .error message => .error message
  | .ok (text, rest) =>
      match Text.fromUtf8 text with
      | none => .error "string is not valid utf8"
      | some text =>
          match takeBlock rest with
          | .error message => .error message
          | .ok (attrs, rest) => .ok ({ text, attrs }, rest)

def parseBincodeRows : (count : Nat) → Bytes → Except String (List RowSnapshot)
  | 0, [] => .ok []
  | 0, _ :: _ => .error "Slice had bytes remaining after deserialization"
  | count + 1, bytes =>
      match parseRow bytes with
      | .error message => .error message
      | .ok (row, rest) =>
          match parseBincodeRows count rest with
          | .error message => .error message
          | .ok rows => .ok (row :: rows)

namespace ScrollbackBlob
variable {R : Type}

def encodeBincodeGz (format : SnapshotFormat R) (rows : List RowSnapshot) : Except String ScrollbackBlob :=
  let raw := bincodeRows rows
  let payload := format.gzip raw
  if rows.length > scrollbackMaxRows then .error "too many scrollback rows"
  else if raw.length > scrollbackDecodeMaxBytes then .error "scrollback exceeds decoded byte limit"
  else if payload.length > snapshotMaxBytes then .error "compressed scrollback exceeds byte limit"
  else .ok { encoding := .bincodeGz, rows := rows.length, bytesUncompressed := raw.length, payload }

def validateBounds (blob : ScrollbackBlob) : Except String Unit :=
  if blob.bytesUncompressed > scrollbackDecodeMaxBytes then .error "scrollback exceeds decoded byte limit"
  else if blob.payload.length > snapshotMaxBytes then .error "compressed scrollback exceeds byte limit"
  else if blob.rows > scrollbackMaxRows then .error "too many scrollback rows"
  else .ok ()

/-- `ok none` for an encoding of a later release. -/
def decode (format : SnapshotFormat R) (blob : ScrollbackBlob) : Except String (Option (List RowSnapshot)) :=
  match blob.encoding with
  | .unknown => .ok none
  | .bincodeGz =>
      match blob.validateBounds with
      | .error message => .error message
      | .ok () =>
          match format.gunzip (blob.bytesUncompressed + 1) blob.payload with
          | .error message => .error s!"gzip decode scrollback: {message}"
          | .ok buf =>
              if buf.length ≠ blob.bytesUncompressed then
                .error "scrollback decoded size does not match metadata"
              else if buf.length < 8 || u64Value (buf.take 8) ≠ blob.rows then
                .error "scrollback row count does not match metadata"
              else match parseBincodeRows blob.rows (buf.drop 8) with
                | .error message => .error s!"bincode decode scrollback: {message}"
                | .ok rows => .ok (some rows)

end ScrollbackBlob

/-! ## Validation -/

def isSupportedVersion (version : Nat) : Bool :=
  minSupportedVersion ≤ version && version ≤ snapshotVersion

/-- `sort_unstable`. -/
def sortIds (ids : List Nat) : List Nat := ids.mergeSort (· ≤ ·)

/-- `dedup`: drop each repetition of the element before it. -/
def dedupIds (ids : List Nat) : List Nat := ids.destutter (· ≠ ·)

/-- The validator's walk over a layout in preorder, collecting leaf ids. -/
def LayoutNode.walk {R : Type} [RatioOps R] (index nextId : Nat) :
    LayoutNode R → (depth : Nat) → (ids : List Nat) → Except String (List Nat)
  | leaf id, depth, ids =>
      if depth > 100 then .error s!"snapshot layout too deep in tab {index}"
      else if ids.length + 1 > 100 then .error s!"too many panes in snapshot tab {index}"
      else if !(id < nextId && nextId < usizeMax) then
        .error s!"invalid next pane ID in snapshot tab {index}"
      else .ok (ids ++ [id])
  | split _ ratio first second, depth, ids =>
      if depth > 100 then .error s!"snapshot layout too deep in tab {index}"
      else if !RatioOps.isProper ratio then .error s!"invalid layout ratio in snapshot tab {index}"
      else match first.walk index nextId (depth + 1) ids with
        | .error message => .error message
        | .ok ids => second.walk index nextId (depth + 1) ids

/-- Check the history blobs of a tab against the session's decoded total so far. -/
def validateBlobs : List PaneSnapshot → (totalDecoded : Nat) → Except String Nat
  | [], totalDecoded => .ok totalDecoded
  | pane :: panes, totalDecoded =>
      match pane.scrollback with
      | none => validateBlobs panes totalDecoded
      | some blob =>
          match blob.validateBounds with
          | .error message => .error message
          | .ok () =>
              if totalDecoded + blob.bytesUncompressed > scrollbackDecodeMaxBytes then
                .error "snapshot exceeds total decoded scrollback byte limit"
              else validateBlobs panes (totalDecoded + blob.bytesUncompressed)

section Validate
variable {R : Type} [RatioOps R]

/-- The checks of one tab, with the running totals of panes and decoded bytes. -/
def TabSnapshot.validate (index totalPanes totalDecoded : Nat) (tab : TabSnapshot R) :
    Except String (Nat × Nat) :=
  let totalPanes := totalPanes + tab.panes.length
  let snapshotIds := dedupIds (sortIds (tab.panes.map (·.id)))
  if totalPanes > snapshotMaxPanes then .error "too many snapshot panes"
  else if snapshotIds.length ≠ tab.panes.length then
    .error s!"duplicate snapshot pane IDs in tab {index}"
  else match tab.layout.root.walk index tab.layout.nextId 0 [] with
    | .error message => .error message
    | .ok layoutIds =>
        let layoutIds := sortIds layoutIds
        if snapshotIds ≠ layoutIds then .error s!"snapshot panes do not match layout leaves in tab {index}"
        else if !layoutIds.contains tab.activePane then
          .error s!"snapshot active pane does not exist in layout in tab {index}"
        else if tab.zoomedPane.any fun zoomed => !layoutIds.contains zoomed then
          .error s!"snapshot zoomed pane does not exist in tab {index}"
        else match validateBlobs tab.panes totalDecoded with
          | .error message => .error message
          | .ok totalDecoded => .ok (totalPanes, totalDecoded)

def validateTabs : (index totalPanes totalDecoded : Nat) → List (TabSnapshot R) → Except String Unit
  | _, _, _, [] => .ok ()
  | index, totalPanes, totalDecoded, tab :: tabs =>
      match tab.validate index totalPanes totalDecoded with
      | .error message => .error message
      | .ok (totalPanes, totalDecoded) => validateTabs (index + 1) totalPanes totalDecoded tabs

def WorkspaceSnapshot.validate (snapshot : WorkspaceSnapshot R) : Except String Unit :=
  if !isSupportedVersion snapshot.version then
    .error s!"unsupported snapshot version: {snapshot.version} (current = {snapshotVersion}, minimum supported = {minSupportedVersion}). Run `ezpn upgrade-snapshot <path>` on older files."
  else if snapshot.tabs.isEmpty then .error "snapshot has no tabs"
  else if snapshot.tabs.length > snapshotMaxTabs then .error "too many snapshot tabs"
  else if snapshot.scrollback > 100000 then .error "snapshot scrollback exceeds 100000 lines"
  else match validateTabs 0 0 0 snapshot.tabs with
    | .error message => .error message
    | .ok () =>
        if snapshot.activeTab ≥ snapshot.tabs.length then .error "snapshot active_tab index out of range"
        else .ok ()

/-- Every history blob must decode before a caller can start the snapshot's commands. -/
def decodeAll (format : SnapshotFormat R) : List PaneSnapshot → Except String Unit
  | [] => .ok ()
  | pane :: panes =>
      match pane.scrollback with
      | none => decodeAll format panes
      | some blob =>
          match blob.decode format with
          | .error message => .error message
          | .ok _ => decodeAll format panes

def loadSnapshot (format : SnapshotFormat R) (path : String) : Except String (WorkspaceSnapshot R) :=
  match format.read path with
  | .error message => .error message
  | .ok snapshot =>
      match snapshot.validate with
      | .error message => .error message
      | .ok () =>
          match decodeAll format (snapshot.tabs.flatMap (·.panes)) with
          | .error message => .error message
          | .ok () => .ok snapshot

end Validate

/-! ## Saving -/

/-- `save_snapshot_raw` up to the file system: what it writes, or why it does not. -/
def saveSnapshotRaw {R : Type} [RatioOps R] (format : SnapshotFormat R) (snapshot : WorkspaceSnapshot R) :
    Except String Unit :=
  match snapshot.validate with
  | .error message => .error message
  | .ok () =>
      if format.prettyLength snapshot > snapshotMaxBytes then .error "snapshot exceeds 64 MiB byte limit"
      else .ok ()

def validSessionComponent (name : String) : Bool :=
  name ≠ "" && name ≠ "." && name ≠ ".." &&
    !name.toList.any fun c => c == '/' || c == '\\' || Text.isControl c

def autoSave {R : Type} [RatioOps R] (format : SnapshotFormat R) (sessionName : String)
    (snapshot : WorkspaceSnapshot R) : Except String Unit :=
  if !validSessionComponent sessionName then .error "invalid auto-save session name"
  else saveSnapshotRaw format snapshot

/-- `char::is_alphanumeric`; `letter` is the Unicode table from U+00A0 on. -/
def isAlphanumeric (letter : Char → Bool) (c : Char) : Bool :=
  if c.toNat < 0x80 then c.isAlphanum else 0xA0 ≤ c.toNat && letter c

/-- `session::validate_name`. -/
def validateName (letter : Char → Bool) (name : String) : Except String Unit :=
  if name ≠ "" && name.utf8ByteSize ≤ 64 &&
      name.toList.all (fun c => isAlphanumeric letter c || c == '-' || c == '_' || c == '.') then .ok ()
  else .error "session name must be 1-64 bytes containing only letters, numbers, '-', '_' or '.'"

end Ezpn
