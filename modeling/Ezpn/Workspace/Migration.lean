import Ezpn.Workspace.Codec

/-!
# Reading snapshots of every version

`parse_snapshot_str` and the two migrations: the hand-written reader of v1 with a
fallback for each field, the restamping of v2, and the derived reader of v3. Every
version ends in one schema, and what was read reads back unchanged as v3 unless
its text outgrows the byte limit.
-/

set_option autoImplicit false

namespace Ezpn

open JsonCodec

/-- The text layer of `serde_json`. -/
structure SerdeJson where
  fromStr : String → Except String Json
  toStringPretty : Json → String

/-- The text written for a value reads as that value. -/
def SerdeJson.Inverts (serde : SerdeJson) (value : Json) : Prop :=
  serde.fromStr (serde.toStringPretty value) = .ok value

section Parse
variable {R : Type} (ratios : JsonCodec R) (serde : SerdeJson)

/-- One pane entry of a v1 document. -/
def migrateV1Pane (entry : Json) : PaneSnapshot where
  id := (entry.index "id").asU64.getD 0
  launch := (PaneLaunch.json.decode (entry.index "launch")).toOption.getD .shell
  name := none
  cwd := none
  env := ∅
  restart := .never
  shell := none
  scrollback := none
  cursorPos := none

/-- Flat v1 fields: shell, active_pane, border_style, show_status_bar, layout, panes. -/
def migrateV1 (v1Json : Json) : Except String (WorkspaceSnapshot R) :=
  let shell := (v1Json.index "shell").asStr.getD "/bin/sh"
  let activePane := (v1Json.index "active_pane").asU64.getD 0
  let borderStyle := (BorderStyle.json.decode (v1Json.index "border_style")).toOption.getD .rounded
  let showStatusBar := (v1Json.index "show_status_bar").asBool.getD true
  match (Layout.json ratios).decode (v1Json.index "layout") with
  | .error message => .error message
  | .ok layout =>
      let v1Panes := (v1Json.index "panes").asArray.getD []
      let tab : TabSnapshot R :=
        { name := "1", layout, activePane, zoomedPane := none, broadcast := false,
          panes := v1Panes.map migrateV1Pane }
      .ok
        { version := snapshotVersion, shell, borderStyle, showStatusBar, showTabBar := true,
          scrollback := 10000, activeTab := 0, tabs := [tab] }

/-- v3 only adds fields, so the payload is kept and the version stamped. -/
def migrateV2 (raw : Json) : Except String (WorkspaceSnapshot R) :=
  WorkspaceSnapshot.decode ratios (raw.insert "version" (.nat snapshotVersion))

/-- `0` for a version that is missing or does not fit `u32`. -/
def versionOf (raw : Json) : Nat :=
  match (raw.index "version").asU64 with
  | some version => if version < 2 ^ 32 then version else 0
  | none => 0

def parseSnapshotStr (content : String) : Except String (WorkspaceSnapshot R × Nat) :=
  if content.utf8ByteSize > snapshotMaxBytes then .error "snapshot exceeds 64 MiB byte limit"
  else match serde.fromStr content with
    | .error message => .error message
    | .ok raw =>
        let version := versionOf raw
        if !isSupportedVersion version then
          .error s!"unsupported snapshot version: {version} (current = {snapshotVersion}, minimum supported = {minSupportedVersion}). Run `ezpn upgrade-snapshot <path>` on older files."
        else
          let snapshot :=
            match version with
            | 1 => migrateV1 ratios raw
            | 2 => migrateV2 ratios raw
            | _ => WorkspaceSnapshot.decode ratios raw
          match snapshot with
          | .error message => .error message
          | .ok snapshot => .ok (snapshot, version)

end Parse

/-! ## Versions -/

theorem Json.index_get? {raw field : Json} {key : String} (at_ : raw.index key = field) (present : field ≠ .null) :
    raw.get? key = some field := by
  unfold Json.index at at_
  cases found : raw.get? key with
  | none => rw [found] at at_; exact absurd at_.symm present
  | some other => rw [found] at at_; rw [Option.getD_some] at at_; rw [at_]

theorem Json.asU64_eq {value : Json} {n : Nat} (found : value.asU64 = some n) : value = .nat n ∧ n < 2 ^ 64 := by
  cases value with
  | nat value =>
      simp only [Json.asU64] at found
      split at found
      · cases found
        exact ⟨rfl, by assumption⟩
      · cases found
  | _ => cases found

/-- A document with a readable version is an object that carries it. -/
theorem versionOf_eq {raw : Json} {version : Nat} (read : versionOf raw = version) (nonzero : version ≠ 0) :
    ∃ fields, raw = .object fields ∧ raw.get? "version" = some (.nat version) ∧ version < 2 ^ 32 := by
  unfold versionOf at read
  split at read
  · next n found =>
      obtain ⟨field, _⟩ := Json.asU64_eq found
      split at read
      · next fits =>
          subst read
          have present := Json.index_get? field nofun
          cases raw with
          | object fields => exact ⟨fields, rfl, present, fits⟩
          | _ => cases present
      · exact absurd read.symm nonzero
  · exact absurd read.symm nonzero

theorem versionOf_of_get? {raw : Json} {version : Nat} (written : raw.get? "version" = some (.nat version))
    (fits : version < 2 ^ 32) : versionOf raw = version := by
  have wide : version < 2 ^ 64 := by omega
  simp only [versionOf, Json.index, written, Option.getD_some, Json.asU64, wide, fits, if_true]

section Results
variable {R : Type} {ratios : JsonCodec R} {serde : SerdeJson}

theorem asU64_getD_fits (value : Json) : jsonUsize.Fits (value.asU64.getD 0) := by
  apply unsigned_fits
  cases read : value.asU64 with
  | none => decide
  | some n => exact (Json.asU64_eq read).2

theorem migrateV1Pane_storable (entry : Json) : (migrateV1Pane entry).Storable where
  id := asU64_getD_fits _
  name := option_none_fits _ _
  cwd := option_none_fits _ _
  shell := option_none_fits _ _
  scrollback := option_none_fits _ _
  cursorPos := option_none_fits _ _

theorem migrateV1_inv {raw : Json} {snapshot : WorkspaceSnapshot R} (found : migrateV1 ratios raw = .ok snapshot) :
    snapshot.version = 3 ∧ snapshot.Storable ratios := by
  unfold migrateV1 at found
  dsimp only at found
  split at found
  · cases found
  · next layout layoutRead =>
      cases found
      have panesFit : PaneSnapshot.json.list.Fits
          (((raw.index "panes").asArray.getD []).map migrateV1Pane) := by
        apply list_fits
        intro pane member
        obtain ⟨entry, _, rfl⟩ := List.mem_map.1 member
        exact PaneSnapshot.decode_encode (migrateV1Pane_storable entry)
      have current : jsonU32.Fits 3 := unsigned_fits (by decide)
      have rows : jsonUsize.Fits 10000 := unsigned_fits (by decide)
      have first : jsonUsize.Fits 0 := unsigned_fits (by decide)
      refine ⟨rfl, current, rows, first, ?_⟩
      apply list_fits
      intro tab member
      cases List.mem_singleton.1 member
      exact TabSnapshot.decode_encode
        { layout := (Layout.json ratios).stable layoutRead, activePane := asU64_getD_fits _,
          zoomedPane := option_none_fits _ _, panes := panesFit }

theorem decode_version {raw : Json} {version : Nat} {snapshot : WorkspaceSnapshot R}
    (written : raw.get? "version" = some (.nat version))
    (found : WorkspaceSnapshot.decode ratios raw = .ok snapshot) :
    snapshot.version = version ∧ snapshot.Storable ratios := by
  obtain ⟨storable, fields, entriesEq, read⟩ := WorkspaceSnapshot.decode_inv found
  refine ⟨?_, storable⟩
  cases raw with
  | object fields =>
      cases entriesEq
      simp only [required, written] at read
      have decoded : unsignedDecode 32 (.nat version) = .ok snapshot.version := read
      exact (Json.nat.inj (unsignedDecode_ok.1 decoded).1).symm
  | _ => cases written

/-- What a successful parse went through. -/
theorem parseSnapshotStr_inv {content : String} {snapshot : WorkspaceSnapshot R} {version : Nat}
    (found : parseSnapshotStr ratios serde content = .ok (snapshot, version)) :
    ∃ raw, serde.fromStr content = .ok raw ∧ versionOf raw = version ∧
      (version = 1 ∧ migrateV1 ratios raw = .ok snapshot ∨
        version = 2 ∧ migrateV2 ratios raw = .ok snapshot ∨
        version = 3 ∧ WorkspaceSnapshot.decode ratios raw = .ok snapshot) := by
  unfold parseSnapshotStr at found
  split at found
  · cases found
  split at found
  · cases found
  next raw read =>
    dsimp only at found
    split at found
    · cases found
    next supported =>
      have bounds : 1 ≤ versionOf raw ∧ versionOf raw ≤ 3 := by
        have both : isSupportedVersion (versionOf raw) = true := by simpa using supported
        obtain ⟨least, most⟩ := Bool.and_eq_true_iff.1 both
        exact ⟨of_decide_eq_true least, of_decide_eq_true most⟩
      split at found
      · cases found
      next decoded decodedEq =>
        cases found
        refine ⟨raw, read, rfl, ?_⟩
        split at decodedEq
        · next first => exact .inl ⟨first, decodedEq⟩
        · next second => exact .inr (.inl ⟨second, decodedEq⟩)
        · next notFirst notSecond =>
            have third : versionOf raw = 3 := by
              have differs : versionOf raw ≠ 1 := notFirst
              have differs' : versionOf raw ≠ 2 := notSecond
              omega
            exact .inr (.inr ⟨third, decodedEq⟩)

theorem parseSnapshotStr_storable {content : String} {snapshot : WorkspaceSnapshot R} {version : Nat}
    (found : parseSnapshotStr ratios serde content = .ok (snapshot, version)) :
    snapshot.version = 3 ∧ snapshot.Storable ratios := by
  obtain ⟨raw, _, versionEq, ⟨_, decoded⟩ | ⟨second, decoded⟩ | ⟨third, decoded⟩⟩ := parseSnapshotStr_inv found
  · exact migrateV1_inv decoded
  · obtain ⟨fields, rfl, _, _⟩ := versionOf_eq versionEq (by omega)
    exact decode_version (Json.get?_insert_same "version" _ fields) decoded
  · obtain ⟨fields, rfl, present, _⟩ := versionOf_eq versionEq (by omega)
    rw [third] at present
    exact decode_version present decoded

/-- A v3 document within the byte limit is read by the derived decoder. -/
theorem parseSnapshotStr_v3 {content : String} {raw : Json} {snapshot : WorkspaceSnapshot R}
    (small : content.utf8ByteSize ≤ snapshotMaxBytes) (read : serde.fromStr content = .ok raw)
    (version : versionOf raw = 3) (decoded : WorkspaceSnapshot.decode ratios raw = .ok snapshot) :
    parseSnapshotStr ratios serde content = .ok (snapshot, 3) := by
  have within : ¬ content.utf8ByteSize > snapshotMaxBytes := by omega
  simp only [parseSnapshotStr, within, if_false, read, version, decoded]
  rfl

/-! ## The reader as a whole -/

/-- A pane read from a v1 entry: its id and launch, or the fallback of what is missing or ill typed. -/
structure ReadsPane (entry : Json) (pane : PaneSnapshot) : Prop where
  id : ∀ id, jsonUsize.decode (entry.index "id") = .ok id → pane.id = id
  noId : ∀ message, jsonUsize.decode (entry.index "id") = .error message → pane.id = 0
  launch : ∀ launch, PaneLaunch.json.decode (entry.index "launch") = .ok launch → pane.launch = launch
  noLaunch : ∀ message, PaneLaunch.json.decode (entry.index "launch") = .error message → pane.launch = .shell

theorem usizeDecode_asU64 (value : Json) :
    (∀ n, jsonUsize.decode value = .ok n → value.asU64.getD 0 = n) ∧
      ∀ message, jsonUsize.decode value = .error message → value.asU64.getD 0 = 0 := by
  constructor
  · intro n read
    have decoded : unsignedDecode 64 value = .ok n := read
    obtain ⟨rfl, fits⟩ := unsignedDecode_ok.1 decoded
    simp only [Json.asU64, fits, if_true, Option.getD_some]
  · intro message refused
    cases read : value.asU64 with
    | none => rfl
    | some n =>
        obtain ⟨rfl, fits⟩ := Json.asU64_eq read
        have accepted : jsonUsize.decode (.nat n) = .ok n := unsigned_fits fits
        exact nomatch accepted.symm.trans refused

theorem migrateV1Pane_reads (entry : Json) : ReadsPane entry (migrateV1Pane entry) where
  id := (usizeDecode_asU64 _).1
  noId := (usizeDecode_asU64 _).2
  launch := by
    intro launch read
    simp only [migrateV1Pane, read, Except.toOption, Option.getD_some]
  noLaunch := by
    intro message refused
    simp only [migrateV1Pane, refused, Except.toOption, Option.getD_none]

theorem migrateV1_tab {raw : Json} {snapshot : WorkspaceSnapshot R} (found : migrateV1 ratios raw = .ok snapshot) :
    ∃ tab, snapshot.tabs = [tab] ∧ snapshot.activeTab = 0 ∧
      (Layout.json ratios).decode (raw.index "layout") = .ok tab.layout ∧
      (∀ id, jsonUsize.decode (raw.index "active_pane") = .ok id → tab.activePane = id) ∧
      List.Forall₂ ReadsPane ((raw.index "panes").asArray.getD []) tab.panes := by
  unfold migrateV1 at found
  dsimp only at found
  split at found
  · cases found
  · next layout layoutRead =>
      cases found
      refine ⟨_, rfl, rfl, layoutRead, (usizeDecode_asU64 _).1, ?_⟩
      rw [List.forall₂_map_right_iff, List.forall₂_same]
      exact fun entry _ => migrateV1Pane_reads entry

/-- A v2 document and its restamped twin are decoded alike. -/
theorem parseSnapshotStr_restamped {content stamped : String} {raw : Json}
    (small : content.utf8ByteSize ≤ snapshotMaxBytes) (stampedSmall : stamped.utf8ByteSize ≤ snapshotMaxBytes)
    (read : serde.fromStr content = .ok raw) (version : versionOf raw = 2)
    (stampedRead : serde.fromStr stamped = .ok (raw.insert "version" (.nat 3))) :
    parseSnapshotStr ratios serde stamped =
      (parseSnapshotStr ratios serde content).map fun parsed => (parsed.1, 3) := by
  obtain ⟨fields, rfl, _, _⟩ := versionOf_eq version (by omega)
  have third : versionOf (.insert (.object fields) "version" (.nat 3)) = 3 :=
    versionOf_of_get? (Json.get?_insert_same ..) (by decide)
  have within : ¬ content.utf8ByteSize > snapshotMaxBytes := by omega
  have stampedWithin : ¬ stamped.utf8ByteSize > snapshotMaxBytes := by omega
  simp only [parseSnapshotStr, within, stampedWithin, if_false, read, stampedRead, version, third, migrateV2,
    snapshotVersion]
  cases WorkspaceSnapshot.decode ratios (.insert (.object fields) "version" (.nat 3)) with
  | error message => rfl
  | ok snapshot => rfl

theorem parseSnapshotStr_again {content : String} {snapshot : WorkspaceSnapshot R} {version : Nat}
    (found : parseSnapshotStr ratios serde content = .ok (snapshot, version))
    (inverts : serde.Inverts (snapshot.encode ratios))
    (small : (serde.toStringPretty (snapshot.encode ratios)).utf8ByteSize ≤ snapshotMaxBytes) :
    parseSnapshotStr ratios serde (serde.toStringPretty (snapshot.encode ratios)) = .ok (snapshot, 3) := by
  obtain ⟨current, storable⟩ := parseSnapshotStr_storable found
  have third : versionOf (snapshot.encode ratios) = 3 := by
    apply versionOf_of_get? _ (by decide)
    rw [← current]
    rfl
  exact parseSnapshotStr_v3 small inverts third (WorkspaceSnapshot.decode_encode storable)

/-- Only versions 1 to 3 are read; a text within the byte limit reads back as v3; a v2
document is its restamped twin; a v1 document is one tab, pane by pane. -/
theorem snapshot_decoding (ratios : JsonCodec R) (serde : SerdeJson) :
    (∀ content snapshot version, parseSnapshotStr ratios serde content = .ok (snapshot, version) →
      (version = 1 ∨ version = 2 ∨ version = 3) ∧
      (serde.Inverts (snapshot.encode ratios) →
        (serde.toStringPretty (snapshot.encode ratios)).utf8ByteSize ≤ snapshotMaxBytes →
        parseSnapshotStr ratios serde (serde.toStringPretty (snapshot.encode ratios)) = .ok (snapshot, 3))) ∧
    (∀ content stamped raw, content.utf8ByteSize ≤ snapshotMaxBytes → stamped.utf8ByteSize ≤ snapshotMaxBytes →
      serde.fromStr content = .ok raw → versionOf raw = 2 →
      serde.fromStr stamped = .ok (raw.insert "version" (.nat 3)) →
      parseSnapshotStr ratios serde stamped =
        (parseSnapshotStr ratios serde content).map fun parsed => (parsed.1, 3)) ∧
    (∀ content raw snapshot, serde.fromStr content = .ok raw →
      parseSnapshotStr ratios serde content = .ok (snapshot, 1) →
      ∃ tab, snapshot.tabs = [tab] ∧ snapshot.activeTab = 0 ∧
        (Layout.json ratios).decode (raw.index "layout") = .ok tab.layout ∧
        (∀ id, jsonUsize.decode (raw.index "active_pane") = .ok id → tab.activePane = id) ∧
        List.Forall₂ ReadsPane ((raw.index "panes").asArray.getD []) tab.panes) := by
  refine ⟨?_, ?_, ?_⟩
  · intro content snapshot version found
    refine ⟨?_, parseSnapshotStr_again found⟩
    obtain ⟨_, _, _, ⟨first, _⟩ | ⟨second, _⟩ | ⟨third, _⟩⟩ := parseSnapshotStr_inv found
    · exact .inl first
    · exact .inr (.inl second)
    · exact .inr (.inr third)
  · intro content stamped raw small stampedSmall read version stampedRead
    exact parseSnapshotStr_restamped small stampedSmall read version stampedRead
  · intro content raw snapshot read found
    obtain ⟨other, otherRead, _, ⟨_, decoded⟩ | ⟨second, _⟩ | ⟨third, _⟩⟩ := parseSnapshotStr_inv found
    · cases read.symm.trans otherRead
      exact migrateV1_tab decoded
    · exact nomatch second
    · exact nomatch third

end Results

/-! ## A text past the byte limit -/

/-- Ratios in decimal digits. -/
def decimals : JsonCodec (Int × Int) where
  encode ratio := .float ratio.1 ratio.2
  decode
    | .nat value => .ok (value, 0)
    | .negative value => .ok (-(value + 1), 0)
    | .float mantissa exponent => .ok (mantissa, exponent)
    | _ => .error "invalid type: expected f32"
  stable _ := rfl

/-- `serde_json` on two documents. -/
def SerdeJson.onTexts (one other : Json) : SerdeJson where
  fromStr text :=
    if text = one.prettyText then .ok one
    else if text = other.prettyText then .ok other
    else .error "expected value"
  toStringPretty := Json.prettyText

def oneLeaf : Layout (Int × Int) := { root := .leaf 0, nextId := 1 }

/-- A v1 document of `n + 1` pane entries that say nothing. -/
def bareV1 (n : Nat) : Json :=
  .object
    [("version", .nat 1), ("layout", oneLeaf.encode decimals), ("panes", .array (List.replicate (n + 1) (.object [])))]

def bareTab (n : Nat) : TabSnapshot (Int × Int) where
  name := "1"
  layout := oneLeaf
  activePane := 0
  zoomedPane := none
  broadcast := false
  panes := List.replicate (n + 1) (migrateV1Pane (.object []))

/-- What it migrates to. -/
def barePanes (n : Nat) : WorkspaceSnapshot (Int × Int) where
  version := 3
  shell := "/bin/sh"
  borderStyle := .rounded
  showStatusBar := true
  showTabBar := true
  scrollback := 10000
  activeTab := 0
  tabs := [bareTab n]

theorem oneLeaf_fits : (Layout.json decimals).Fits oneLeaf := by
  have rootFits : (LayoutNode.json decimals).Fits (.leaf 0) := LayoutNode.decode_leaf (unsigned_fits (by decide))
  have nextFits : jsonUsize.Fits 1 := unsigned_fits (by decide)
  have decoded : Layout.decode decimals (oneLeaf.encode decimals) = .ok oneLeaf := by
    simp only [Layout.encode, Layout.decode, entries, oneLeaf, bind, Except.bind]
    rw [required_encoded (a := LayoutNode.leaf 0) rfl rootFits, required_encoded (a := 1) rfl nextFits]
  exact decoded

theorem migrateV1_bare (n : Nat) : migrateV1 decimals (bareV1 n) = .ok (barePanes n) := by
  have layoutRead : (Layout.json decimals).decode ((bareV1 n).index "layout") = .ok oneLeaf := oneLeaf_fits
  have panes : ((bareV1 n).index "panes").asArray.getD [] = List.replicate (n + 1) (.object []) := rfl
  simp only [migrateV1, layoutRead, panes, List.map_replicate]
  rfl

theorem length_bareV1 (n : Nat) : (bareV1 n).prettyText.utf8ByteSize ≤ 32 * n + 1000 := by
  have bound := (Json.utf8ByteSize_ofList_bounds ((bareV1 n).pretty 0)).2
  have length : ((bareV1 n).pretty 0).length ≤ 8 * n + 250 := by
    have items := Json.length_prettyItems_replicate 1 n (.object [])
    have version : (Json.quote "version").length = 9 := by decide +kernel
    have layout : (Json.quote "layout").length = 8 := by decide +kernel
    have panes : (Json.quote "panes").length = 7 := by decide +kernel
    have one : (Nat.toDigits 10 1).length = 1 := by decide +kernel
    have leaf : ((oneLeaf.encode decimals).pretty 1).length ≤ 100 := by decide +kernel
    simp only [bareV1, Json.pretty, Json.prettyFields, List.replicate_succ, List.length_append, List.length_cons,
      List.length_nil, Json.length_newline, items, version, layout, panes, one]
    simp only [Nat.zero_add] at leaf ⊢
    omega
  simp only [Json.prettyText]
  omega

theorem length_barePanes (n : Nat) : 64 * n < ((barePanes n).encode decimals).prettyText.utf8ByteSize := by
  have bound := (Json.utf8ByteSize_ofList_bounds (((barePanes n).encode decimals).pretty 0)).1
  let entry := (migrateV1Pane (.object [])).encode
  have entryLong : 64 ≤ (entry.pretty 4).length := by decide +kernel
  have items := Json.length_prettyItems_replicate 3 n entry
  have each : n * 64 ≤ n * (2 * 3 + (entry.pretty 4).length + 4) := Nat.mul_le_mul_left n (by omega)
  have panes := Json.length_prettyItems_le 3 entry (List.replicate n entry)
  have written : PaneSnapshot.json.list.encode (bareTab n).panes = .array (entry :: List.replicate n entry) := by
    simp only [JsonCodec.list, bareTab, List.map_replicate]
    rfl
  have inTab : ((PaneSnapshot.json.list.encode (bareTab n).panes).pretty 3).length ≤
      (((bareTab n).encode decimals).pretty 2).length :=
    Json.length_pretty_field_le (.tail _ (.tail _ (.tail _ (.tail _ (.tail _ (.head _))))))
  have inTabs := Json.length_prettyItems_le 1 ((bareTab n).encode decimals) []
  have inSnapshot : (((TabSnapshot.json decimals).list.encode (barePanes n).tabs).pretty 1).length ≤
      (((barePanes n).encode decimals).pretty 0).length :=
    Json.length_pretty_field_le
      (.tail _ (.tail _ (.tail _ (.tail _ (.tail _ (.tail _ (.tail _ (.head _))))))))
  have tabs : (TabSnapshot.json decimals).list.encode (barePanes n).tabs = .array [(bareTab n).encode decimals] := rfl
  rw [tabs] at inSnapshot
  rw [written] at inTab
  simp only [Nat.reduceAdd, Nat.reduceMul] at items panes inTabs each
  simp only [Json.prettyText]
  omega

theorem parse_bare {n : Nat} (small : (bareV1 n).prettyText.utf8ByteSize ≤ snapshotMaxBytes)
    (large : snapshotMaxBytes < ((barePanes n).encode decimals).prettyText.utf8ByteSize) :
    ∃ (serde : SerdeJson) (content : String) (snapshot : WorkspaceSnapshot (Int × Int)),
      parseSnapshotStr decimals serde content = .ok (snapshot, 1) ∧
      serde.Inverts (snapshot.encode decimals) ∧
      parseSnapshotStr decimals serde (serde.toStringPretty (snapshot.encode decimals)) =
        .error "snapshot exceeds 64 MiB byte limit" := by
  have differs : ((barePanes n).encode decimals).prettyText ≠ (bareV1 n).prettyText := by
    intro same
    rw [same] at large
    omega
  refine ⟨.onTexts (bareV1 n) ((barePanes n).encode decimals), (bareV1 n).prettyText, barePanes n, ?_, ?_, ?_⟩
  · have within : ¬ (bareV1 n).prettyText.utf8ByteSize > snapshotMaxBytes := by omega
    have first : versionOf (bareV1 n) = 1 := versionOf_of_get? rfl (by decide)
    simp only [parseSnapshotStr, within, if_false, SerdeJson.onTexts, if_true, first, migrateV1_bare]
    rfl
  · simp only [SerdeJson.Inverts, SerdeJson.onTexts, differs, if_false, if_true]
  · have beyond : ((barePanes n).encode decimals).prettyText.utf8ByteSize > snapshotMaxBytes := large
    simp only [parseSnapshotStr, SerdeJson.onTexts, beyond, if_true]

/-- A v1 file of a million bare entries is read, but what it becomes is too long to read again. -/
theorem snapshot_outgrows : ∃ (serde : SerdeJson) (content : String) (snapshot : WorkspaceSnapshot (Int × Int)),
    parseSnapshotStr decimals serde content = .ok (snapshot, 1) ∧
      serde.Inverts (snapshot.encode decimals) ∧
      parseSnapshotStr decimals serde (serde.toStringPretty (snapshot.encode decimals)) =
        .error "snapshot exceeds 64 MiB byte limit" := by
  apply @parse_bare 1048576
  · have short := length_bareV1 1048576
    have limit : snapshotMaxBytes = 67108864 := rfl
    omega
  · have long := length_barePanes 1048576
    have limit : snapshotMaxBytes = 67108864 := rfl
    omega

end Ezpn
