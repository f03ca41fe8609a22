import Ezpn.Workspace
import Ezpn.Lib.Json.Codec

/-!
# The snapshot document's derived codecs

What the `Serialize` and `Deserialize` derives of the snapshot types do, with the
attributes of each field. Split ratios keep a codec of their own.
-/

set_option autoImplicit false

namespace Ezpn

open JsonCodec

def jsonUsize : JsonCodec Nat := unsigned 64

def jsonU32 : JsonCodec Nat := unsigned 32

def jsonU16 : JsonCodec Nat := unsigned 16

def jsonU8 : JsonCodec UInt8 where
  encode byte := .nat byte.toNat
  decode value := (unsigned 8).decode value >>= fun n => .ok (UInt8.ofNat n)
  stable {_ byte} _ := by
    rw [bind_ok]
    exact ⟨byte.toNat, unsigned_fits byte.toNat_lt, by rw [UInt8.ofNat_toNat]⟩

def jsonOptionString : JsonCodec (Option String) := string.option (fun _ => nofun)

def jsonOptionUsize : JsonCodec (Option Nat) := jsonUsize.option (fun _ => nofun)

/-! ## Enumerations -/

/-- `snake_case` -/
def BorderStyle.json : JsonCodec BorderStyle :=
  enumeration
    (fun
      | .single => "single"
      | .rounded => "rounded"
      | .heavy => "heavy"
      | .double => "double"
      | .none => "none")
    (fun name =>
      if name = "single" then some .single
      else if name = "rounded" then some .rounded
      else if name = "heavy" then some .heavy
      else if name = "double" then some .double
      else if name = "none" then some .none
      else Option.none)
    (by intro style; cases style <;> decide)

/-- `snake_case` -/
def RestartPolicy.json : JsonCodec RestartPolicy :=
  enumeration
    (fun
      | .never => "never"
      | .onFailure => "on_failure"
      | .always => "always")
    (fun name =>
      if name = "never" then some .never
      else if name = "on_failure" then some .onFailure
      else if name = "always" then some .always
      else none)
    (by intro policy; cases policy <;> decide)

/-- `kebab-case`, with any other name `Unknown`. -/
def ScrollbackEncoding.json : JsonCodec ScrollbackEncoding :=
  enumeration
    (fun
      | .bincodeGz => "bincode-gz"
      | .unknown => "unknown")
    (fun name => if name = "bincode-gz" then some .bincodeGz else some .unknown)
    (by intro encoding; cases encoding <;> decide)

/-- `snake_case` -/
def Direction.json : JsonCodec Direction :=
  enumeration
    (fun
      | .horizontal => "horizontal"
      | .vertical => "vertical")
    (fun name =>
      if name = "horizontal" then some .horizontal
      else if name = "vertical" then some .vertical
      else none)
    (by intro direction; cases direction <;> decide)

namespace PaneLaunch

def encode : PaneLaunch → Json
  | shell => .string "shell"
  | command text => .object [("command", .string text)]

def decode (value : Json) : Except String PaneLaunch :=
  match variant value with
  | .ok ("shell", none) | .ok ("shell", some .null) => .ok shell
  | .ok ("command", some content) => string.decode content >>= fun text => .ok (command text)
  | .ok (name, _) => .error s!"unknown variant `{name}`"
  | .error message => .error message

theorem decode_encode (launch : PaneLaunch) : decode launch.encode = .ok launch := by
  cases launch <;> rfl

/-- `snake_case` -/
def json : JsonCodec PaneLaunch := ⟨encode, decode, fun _ => decode_encode _⟩

end PaneLaunch

/-! ## Layouts -/

section Layout
variable {R : Type}

def LayoutNode.encode (ratios : JsonCodec R) : LayoutNode R → Json
  | leaf id => .object [("Leaf", .object [("id", jsonUsize.encode id)])]
  | split direction ratio first second =>
      .object [("Split", .object
        [("direction", Direction.json.encode direction), ("ratio", ratios.encode ratio),
          ("first", first.encode ratios), ("second", second.encode ratios)])]

/-- The content of a variant with named fields. -/
def variantFields (name : String) (value : Json) : Option Json :=
  match value with
  | .object [(tag, .object fields)] => if tag = name then some (.object fields) else none
  | _ => none

theorem sizeOf_variantFields {name : String} {value fields : Json} (found : variantFields name value = some fields) :
    sizeOf fields < sizeOf value := by
  unfold variantFields at found
  split at found
  · split at found
    · cases found
      simp only [Json.object.sizeOf_spec, List.cons.sizeOf_spec, Prod.mk.sizeOf_spec]
      omega
    · cases found
  · cases found

def LayoutNode.decode (ratios : JsonCodec R) (value : Json) : Except String (LayoutNode R) :=
  match variantFields "Leaf" value with
  | some fields => jsonUsize.required "id" fields >>= fun id => .ok (leaf id)
  | none =>
      match _split : variantFields "Split" value with
      | none => .error "unknown variant"
      | some fields =>
          match _one : fields.get? "first", _other : fields.get? "second" with
          | some first, some second => do
              let direction ← Direction.json.required "direction" fields
              let ratio ← ratios.required "ratio" fields
              let first ← decode ratios first
              let second ← decode ratios second
              .ok (.split direction ratio first second)
          | _, _ => .error "missing field"
termination_by sizeOf value
decreasing_by
  · exact (Json.sizeOf_get? _one).trans (sizeOf_variantFields _split)
  · exact (Json.sizeOf_get? _other).trans (sizeOf_variantFields _split)

theorem LayoutNode.decode_leaf {ratios : JsonCodec R} {id : Nat} (fits : jsonUsize.Fits id) :
    decode ratios (encode ratios (leaf id)) = .ok (leaf id) := by
  rw [decode]
  simp only [encode, variantFields, if_true]
  rw [required_encoded (a := id) rfl fits]
  rfl

theorem LayoutNode.decode_of_split {ratios : JsonCodec R} {value fields first second : Json}
    (notLeaf : variantFields "Leaf" value = none) (splitFields : variantFields "Split" value = some fields)
    (firstAt : fields.get? "first" = some first) (secondAt : fields.get? "second" = some second) :
    decode ratios value = (do
      let direction ← Direction.json.required "direction" fields
      let ratio ← ratios.required "ratio" fields
      let first ← decode ratios first
      let second ← decode ratios second
      .ok (.split direction ratio first second)) := by
  rw [decode, notLeaf]
  dsimp only
  split
  · next absent => exact nomatch splitFields.symm.trans absent
  · next other present =>
      cases splitFields.symm.trans present
      split
      · next one two oneAt twoAt =>
          cases firstAt.symm.trans oneAt
          cases secondAt.symm.trans twoAt
          rfl
      · next missing => exact (missing _ _ firstAt secondAt).elim

theorem LayoutNode.decode_split {ratios : JsonCodec R} {direction : Direction} {ratio : R}
    {first second : LayoutNode R} (ratioFits : ratios.Fits ratio)
    (firstFits : decode ratios (first.encode ratios) = .ok first)
    (secondFits : decode ratios (second.encode ratios) = .ok second) :
    decode ratios (encode ratios (split direction ratio first second)) =
      .ok (split direction ratio first second) := by
  have directionFits : Direction.json.Fits direction := enumeration_fits _ direction
  rw [encode, decode_of_split rfl rfl rfl rfl, required_encoded (a := direction) rfl directionFits,
    required_encoded (a := ratio) rfl ratioFits, firstFits, secondFits]
  rfl

/-- What was decoded once is decoded again. -/
theorem LayoutNode.decode_stable {ratios : JsonCodec R} {value : Json} {node : LayoutNode R}
    (found : decode ratios value = .ok node) : decode ratios (node.encode ratios) = .ok node := by
  induction value using decode.induct generalizing node with
  | case1 value fields leafFields =>
      rw [decode, leafFields] at found
      obtain ⟨id, read, same⟩ := bind_ok.1 found
      cases same
      exact decode_leaf (required_fits read)
  | case2 value notLeaf notSplit =>
      rw [decode, notLeaf] at found
      dsimp only at found
      split at found
      · cases found
      · next fields present => exact nomatch notSplit.symm.trans present
  | case3 value notLeaf fields splitFields first second firstAt secondAt firstIH secondIH =>
      rw [decode_of_split notLeaf splitFields firstAt secondAt] at found
      obtain ⟨direction, _, found⟩ := bind_ok.1 found
      obtain ⟨ratio, ratioRead, found⟩ := bind_ok.1 found
      obtain ⟨firstNode, firstRead, found⟩ := bind_ok.1 found
      obtain ⟨secondNode, secondRead, same⟩ := bind_ok.1 found
      cases same
      exact decode_split (required_fits ratioRead) (firstIH firstRead) (secondIH secondRead)
  | case4 value notLeaf fields splitFields missing =>
      rw [decode, notLeaf] at found
      dsimp only at found
      split at found
      · cases found
      · next other present =>
          cases splitFields.symm.trans present
          split at found
          · next first second firstAt secondAt => exact (missing _ _ firstAt secondAt).elim
          · cases found

def LayoutNode.json (ratios : JsonCodec R) : JsonCodec (LayoutNode R) :=
  ⟨encode ratios, decode ratios, decode_stable⟩

namespace Layout

def encode (ratios : JsonCodec R) (layout : Layout R) : Json :=
  .object [("root", (LayoutNode.json ratios).encode layout.root), ("next_id", jsonUsize.encode layout.nextId)]

def decode (ratios : JsonCodec R) (value : Json) : Except String (Layout R) := do
  let fields ← entries ["root", "next_id"] value
  let root ← (LayoutNode.json ratios).required "root" fields
  let nextId ← jsonUsize.required "next_id" fields
  .ok { root, nextId }

theorem decode_stable {ratios : JsonCodec R} {value : Json} {layout : Layout R}
    (found : decode ratios value = .ok layout) : decode ratios (layout.encode ratios) = .ok layout := by
  obtain ⟨fields, _, found⟩ := bind_ok.1 found
  obtain ⟨root, rootRead, found⟩ := bind_ok.1 found
  obtain ⟨nextId, nextRead, same⟩ := bind_ok.1 found
  cases same
  simp only [encode, decode, entries, bind, Except.bind]
  rw [required_encoded (a := root) rfl (required_fits rootRead),
    required_encoded (a := nextId) rfl (required_fits nextRead)]

def json (ratios : JsonCodec R) : JsonCodec (Layout R) := ⟨encode ratios, decode ratios, decode_stable⟩

end Layout

end Layout

/-! ## Panes -/

def pairJson : JsonCodec (Nat × Nat) where
  encode pair := .array [jsonU16.encode pair.1, jsonU16.encode pair.2]
  decode
    | .array [row, col] => do
        let row ← jsonU16.decode row
        let col ← jsonU16.decode col
        .ok (row, col)
    | _ => .error "invalid type: expected a tuple of size 2"
  stable {value pair} found := by
    split at found
    · obtain ⟨row, rowRead, found⟩ := bind_ok.1 found
      obtain ⟨col, colRead, same⟩ := bind_ok.1 found
      cases same
      have rowFits : jsonU16.decode (jsonU16.encode row) = .ok row := jsonU16.stable rowRead
      have colFits : jsonU16.decode (jsonU16.encode col) = .ok col := jsonU16.stable colRead
      simp only [rowFits, colFits, bind, Except.bind]
    · cases found

namespace EnvMap

def decodeFields : List (String × Json) → Except String (List (String × String))
  | [] => .ok []
  | (key, value) :: fields => do
      let value ← string.decode value
      let rest ← decodeFields fields
      .ok ((key, value) :: rest)

theorem decodeFields_encode (entries : List (String × String)) :
    decodeFields (entries.map fun entry => (entry.1, string.encode entry.2)) = .ok entries := by
  induction entries with
  | nil => rfl
  | cons entry entries ih =>
      simp only [List.map_cons, decodeFields, ih]
      rfl

theorem ofList_toList (env : EnvMap) : Std.ExtTreeMap.ofList env.toList compare = env := by
  apply Std.ExtTreeMap.ext_getElem?
  intro key
  cases found : env[key]? with
  | none =>
      apply Std.ExtTreeMap.getElem?_ofList_of_contains_eq_false
      rw [Std.ExtTreeMap.map_fst_toList_eq_keys, Std.ExtTreeMap.contains_keys,
        Std.ExtTreeMap.contains_eq_isSome_getElem?, found]
      rfl
  | some value =>
      exact Std.ExtTreeMap.getElem?_ofList_of_mem Std.ReflCmp.compare_self Std.ExtTreeMap.distinct_keys_toList
        (Std.ExtTreeMap.mem_toList_iff_getElem?_eq_some.2 found)

/-- Entries of the map in some order. -/
def json : JsonCodec EnvMap where
  encode env := .object (env.toList.map fun entry => (entry.1, string.encode entry.2))
  decode
    | .object fields => decodeFields fields >>= fun entries => .ok (.ofList entries compare)
    | _ => .error "invalid type: expected a map"
  stable {_ env} _ := by
    rw [bind_ok]
    exact ⟨env.toList, decodeFields_encode env.toList, by rw [ofList_toList]⟩

theorem json_fits (env : EnvMap) : json.Fits env :=
  bind_ok.2 ⟨env.toList, decodeFields_encode env.toList, by rw [ofList_toList]⟩

end EnvMap

namespace ScrollbackBlob

def serialize (blob : ScrollbackBlob) : Json :=
  .object
    [("encoding", ScrollbackEncoding.json.encode blob.encoding), ("rows", jsonU32.encode blob.rows),
      ("bytes_uncompressed", jsonU32.encode blob.bytesUncompressed), ("payload", jsonU8.list.encode blob.payload)]

def deserialize (value : Json) : Except String ScrollbackBlob := do
  let fields ← entries ["encoding", "rows", "bytes_uncompressed", "payload"] value
  let encoding ← ScrollbackEncoding.json.required "encoding" fields
  let rows ← jsonU32.required "rows" fields
  let bytesUncompressed ← jsonU32.required "bytes_uncompressed" fields
  let payload ← jsonU8.list.required "payload" fields
  .ok { encoding, rows, bytesUncompressed, payload }

theorem deserialize_stable {value : Json} {blob : ScrollbackBlob} (found : deserialize value = .ok blob) :
    deserialize blob.serialize = .ok blob := by
  obtain ⟨fields, _, found⟩ := bind_ok.1 found
  obtain ⟨encoding, encodingRead, found⟩ := bind_ok.1 found
  obtain ⟨rows, rowsRead, found⟩ := bind_ok.1 found
  obtain ⟨size, sizeRead, found⟩ := bind_ok.1 found
  obtain ⟨payload, payloadRead, same⟩ := bind_ok.1 found
  cases same
  simp only [serialize, deserialize, entries, bind, Except.bind]
  rw [required_encoded (a := encoding) rfl (required_fits encodingRead),
    required_encoded (a := rows) rfl (required_fits rowsRead),
    required_encoded (a := size) rfl (required_fits sizeRead),
    required_encoded (a := payload) rfl (required_fits payloadRead)]

def json : JsonCodec ScrollbackBlob := ⟨serialize, deserialize, deserialize_stable⟩

end ScrollbackBlob

namespace PaneSnapshot

def jsonScrollback : JsonCodec (Option ScrollbackBlob) := ScrollbackBlob.json.option fun _ => nofun

def jsonCursor : JsonCodec (Option (Nat × Nat)) := pairJson.option fun _ => nofun

/-- `skip_serializing_if = "Option::is_none"` -/
def skipNone {α : Type} (codec : JsonCodec (Option α)) (key : String) : Option α → List (String × Json)
  | none => []
  | some a => [(key, codec.encode (some a))]

def encode (pane : PaneSnapshot) : Json :=
  .object
    ([("id", jsonUsize.encode pane.id), ("launch", PaneLaunch.json.encode pane.launch),
      ("name", jsonOptionString.encode pane.name), ("cwd", jsonOptionString.encode pane.cwd),
      ("env", EnvMap.json.encode pane.env), ("restart", RestartPolicy.json.encode pane.restart),
      ("shell", jsonOptionString.encode pane.shell)] ++
      skipNone jsonScrollback "scrollback" pane.scrollback ++ skipNone jsonCursor "cursor_pos" pane.cursorPos)

def decode (value : Json) : Except String PaneSnapshot := do
  let fields ← entries ["id", "launch", "name", "cwd", "env", "restart", "shell", "scrollback", "cursor_pos"] value
  let id ← jsonUsize.required "id" fields
  let launch ← PaneLaunch.json.required "launch" fields
  let name ← jsonOptionString.defaulted none "name" fields
  let cwd ← jsonOptionString.defaulted none "cwd" fields
  let env ← EnvMap.json.defaulted ∅ "env" fields
  let restart ← RestartPolicy.json.defaulted .never "restart" fields
  let shell ← jsonOptionString.defaulted none "shell" fields
  let scrollback ← jsonScrollback.defaulted none "scrollback" fields
  let cursorPos ← jsonCursor.defaulted none "cursor_pos" fields
  .ok { id, launch, name, cwd, env, restart, shell, scrollback, cursorPos }

/-- The values a pane's fields can be read back from. -/
structure Storable (pane : PaneSnapshot) : Prop where
  id : jsonUsize.Fits pane.id
  name : jsonOptionString.Fits pane.name
  cwd : jsonOptionString.Fits pane.cwd
  shell : jsonOptionString.Fits pane.shell
  scrollback : jsonScrollback.Fits pane.scrollback
  cursorPos : jsonCursor.Fits pane.cursorPos

theorem decode_encode {pane : PaneSnapshot} (storable : pane.Storable) : decode pane.encode = .ok pane := by
  obtain ⟨id, launch, name, cwd, env, restart, shell, scrollback, cursorPos⟩ := pane
  have blobAt : jsonScrollback.defaulted none "scrollback" (encode ⟨id, launch, name, cwd, env, restart, shell, scrollback, cursorPos⟩) =
      .ok scrollback := by
    cases scrollback with
    | none => cases cursorPos <;> exact defaulted_skipped rfl
    | some blob => exact defaulted_encoded rfl storable.scrollback
  have cursorAt : jsonCursor.defaulted none "cursor_pos" (encode ⟨id, launch, name, cwd, env, restart, shell, scrollback, cursorPos⟩) =
      .ok cursorPos := by
    cases cursorPos with
    | none => cases scrollback <;> exact defaulted_skipped rfl
    | some cursor => cases scrollback <;> exact defaulted_encoded rfl storable.cursorPos
  have launchFits : PaneLaunch.json.Fits launch := PaneLaunch.decode_encode launch
  have restartFits : RestartPolicy.json.Fits restart := enumeration_fits _ restart
  unfold decode
  simp only [encode, entries, bind, Except.bind] at blobAt cursorAt ⊢
  rw [required_encoded (a := id) rfl storable.id, required_encoded (a := launch) rfl launchFits]
  simp only []
  rw [defaulted_encoded (a := name) rfl storable.name, defaulted_encoded (a := cwd) rfl storable.cwd,
    defaulted_encoded (a := env) rfl (EnvMap.json_fits env), defaulted_encoded (a := restart) rfl restartFits,
    defaulted_encoded (a := shell) rfl storable.shell, blobAt, cursorAt]

theorem storable_of_decode {value : Json} {pane : PaneSnapshot} (found : decode value = .ok pane) :
    pane.Storable := by
  obtain ⟨fields, _, found⟩ := bind_ok.1 found
  obtain ⟨id, idRead, found⟩ := bind_ok.1 found
  obtain ⟨launch, _, found⟩ := bind_ok.1 found
  obtain ⟨name, nameRead, found⟩ := bind_ok.1 found
  obtain ⟨cwd, cwdRead, found⟩ := bind_ok.1 found
  obtain ⟨env, _, found⟩ := bind_ok.1 found
  obtain ⟨restart, _, found⟩ := bind_ok.1 found
  obtain ⟨shell, shellRead, found⟩ := bind_ok.1 found
  obtain ⟨scrollback, blobRead, found⟩ := bind_ok.1 found
  obtain ⟨cursorPos, cursorRead, same⟩ := bind_ok.1 found
  cases same
  exact ⟨required_fits idRead, defaulted_fits (option_none_fits _ _) nameRead,
    defaulted_fits (option_none_fits _ _) cwdRead, defaulted_fits (option_none_fits _ _) shellRead,
    defaulted_fits (option_none_fits _ _) blobRead, defaulted_fits (option_none_fits _ _) cursorRead⟩

def json : JsonCodec PaneSnapshot :=
  ⟨encode, decode, fun found => decode_encode (storable_of_decode found)⟩

end PaneSnapshot

/-! ## Tabs and workspaces -/

section Document
variable {R : Type}

namespace TabSnapshot

def encode (ratios : JsonCodec R) (tab : TabSnapshot R) : Json :=
  .object
    [("name", string.encode tab.name), ("layout", (Layout.json ratios).encode tab.layout),
      ("active_pane", jsonUsize.encode tab.activePane), ("zoomed_pane", jsonOptionUsize.encode tab.zoomedPane),
      ("broadcast", bool.encode tab.broadcast), ("panes", PaneSnapshot.json.list.encode tab.panes)]

def decode (ratios : JsonCodec R) (value : Json) : Except String (TabSnapshot R) := do
  let fields ← entries ["name", "layout", "active_pane", "zoomed_pane", "broadcast", "panes"] value
  let name ← string.required "name" fields
  let layout ← (Layout.json ratios).required "layout" fields
  let activePane ← jsonUsize.required "active_pane" fields
  let zoomedPane ← jsonOptionUsize.defaulted none "zoomed_pane" fields
  let broadcast ← bool.defaulted false "broadcast" fields
  let panes ← PaneSnapshot.json.list.required "panes" fields
  .ok { name, layout, activePane, zoomedPane, broadcast, panes }

structure Storable (ratios : JsonCodec R) (tab : TabSnapshot R) : Prop where
  layout : (Layout.json ratios).Fits tab.layout
  activePane : jsonUsize.Fits tab.activePane
  zoomedPane : jsonOptionUsize.Fits tab.zoomedPane
  panes : PaneSnapshot.json.list.Fits tab.panes

variable {ratios : JsonCodec R}

theorem decode_encode {tab : TabSnapshot R} (storable : tab.Storable ratios) :
    decode ratios (tab.encode ratios) = .ok tab := by
  simp only [encode, decode, entries, bind, Except.bind]
  rw [required_encoded (a := tab.name) rfl (string_fits _), required_encoded (a := tab.layout) rfl storable.layout,
    required_encoded (a := tab.activePane) rfl storable.activePane,
    defaulted_encoded (a := tab.zoomedPane) rfl storable.zoomedPane,
    defaulted_encoded (a := tab.broadcast) rfl (bool_fits _), required_encoded (a := tab.panes) rfl storable.panes]

theorem storable_of_decode {value : Json} {tab : TabSnapshot R} (found : decode ratios value = .ok tab) :
    tab.Storable ratios := by
  obtain ⟨fields, _, found⟩ := bind_ok.1 found
  obtain ⟨name, _, found⟩ := bind_ok.1 found
  obtain ⟨layout, layoutRead, found⟩ := bind_ok.1 found
  obtain ⟨activePane, activeRead, found⟩ := bind_ok.1 found
  obtain ⟨zoomedPane, zoomedRead, found⟩ := bind_ok.1 found
  obtain ⟨broadcast, _, found⟩ := bind_ok.1 found
  obtain ⟨panes, panesRead, same⟩ := bind_ok.1 found
  cases same
  exact ⟨required_fits layoutRead, required_fits activeRead, defaulted_fits (option_none_fits _ _) zoomedRead,
    required_fits panesRead⟩

def json (ratios : JsonCodec R) : JsonCodec (TabSnapshot R) :=
  ⟨encode ratios, decode ratios, fun found => decode_encode (storable_of_decode found)⟩

end TabSnapshot

namespace WorkspaceSnapshot

def encode (ratios : JsonCodec R) (snapshot : WorkspaceSnapshot R) : Json :=
  .object
    [("version", jsonU32.encode snapshot.version), ("shell", string.encode snapshot.shell),
      ("border_style", BorderStyle.json.encode snapshot.borderStyle),
      ("show_status_bar", bool.encode snapshot.showStatusBar), ("show_tab_bar", bool.encode snapshot.showTabBar),
      ("scrollback", jsonUsize.encode snapshot.scrollback), ("active_tab", jsonUsize.encode snapshot.activeTab),
      ("tabs", (TabSnapshot.json ratios).list.encode snapshot.tabs)]

def decode (ratios : JsonCodec R) (value : Json) : Except String (WorkspaceSnapshot R) := do
  let fields ← entries
    ["version", "shell", "border_style", "show_status_bar", "show_tab_bar", "scrollback", "active_tab", "tabs"] value
  let version ← jsonU32.required "version" fields
  let shell ← string.required "shell" fields
  let borderStyle ← BorderStyle.json.required "border_style" fields
  let showStatusBar ← bool.required "show_status_bar" fields
  let showTabBar ← bool.defaulted true "show_tab_bar" fields
  let scrollback ← jsonUsize.defaulted 10000 "scrollback" fields
  let activeTab ← jsonUsize.required "active_tab" fields
  let tabs ← (TabSnapshot.json ratios).list.required "tabs" fields
  .ok { version, shell, borderStyle, showStatusBar, showTabBar, scrollback, activeTab, tabs }

structure Storable (ratios : JsonCodec R) (snapshot : WorkspaceSnapshot R) : Prop where
  version : jsonU32.Fits snapshot.version
  scrollback : jsonUsize.Fits snapshot.scrollback
  activeTab : jsonUsize.Fits snapshot.activeTab
  tabs : (TabSnapshot.json ratios).list.Fits snapshot.tabs

variable {ratios : JsonCodec R}

theorem decode_encode {snapshot : WorkspaceSnapshot R} (storable : snapshot.Storable ratios) :
    decode ratios (snapshot.encode ratios) = .ok snapshot := by
  have styleFits : BorderStyle.json.Fits snapshot.borderStyle := enumeration_fits _ _
  simp only [encode, decode, entries, bind, Except.bind]
  rw [required_encoded (a := snapshot.version) rfl storable.version,
    required_encoded (a := snapshot.shell) rfl (string_fits _),
    required_encoded (a := snapshot.borderStyle) rfl styleFits,
    required_encoded (a := snapshot.showStatusBar) rfl (bool_fits _),
    defaulted_encoded (a := snapshot.showTabBar) rfl (bool_fits _),
    defaulted_encoded (a := snapshot.scrollback) rfl storable.scrollback,
    required_encoded (a := snapshot.activeTab) rfl storable.activeTab,
    required_encoded (a := snapshot.tabs) rfl storable.tabs]

/-- A decoded snapshot can be stored, and carries the version of its document. -/
theorem decode_inv {value : Json} {snapshot : WorkspaceSnapshot R} (found : decode ratios value = .ok snapshot) :
    snapshot.Storable ratios ∧ ∃ fields, entries
      ["version", "shell", "border_style", "show_status_bar", "show_tab_bar", "scrollback", "active_tab", "tabs"]
      value = .ok fields ∧ jsonU32.required "version" fields = .ok snapshot.version := by
  obtain ⟨fields, fieldsEq, found⟩ := bind_ok.1 found
  obtain ⟨version, versionRead, found⟩ := bind_ok.1 found
  obtain ⟨shell, _, found⟩ := bind_ok.1 found
  obtain ⟨borderStyle, _, found⟩ := bind_ok.1 found
  obtain ⟨showStatusBar, _, found⟩ := bind_ok.1 found
  obtain ⟨showTabBar, _, found⟩ := bind_ok.1 found
  obtain ⟨scrollback, scrollbackRead, found⟩ := bind_ok.1 found
  obtain ⟨activeTab, activeRead, found⟩ := bind_ok.1 found
  obtain ⟨tabs, tabsRead, same⟩ := bind_ok.1 found
  cases same
  have standing : jsonUsize.Fits 10000 := unsigned_fits (by decide)
  exact ⟨⟨required_fits versionRead, defaulted_fits standing scrollbackRead, required_fits activeRead,
    required_fits tabsRead⟩, fields, fieldsEq, versionRead⟩

end WorkspaceSnapshot

end Document

end Ezpn
