import Ezpn.Layout.Invariant
import Mathlib.Tactic.FieldSimp

/-!
# What a spec says

The texts that are specs, the weights that they give, and the arrangement that a
layout with such weights is: its rows, its columns, and their shares of the area.
-/

set_option autoImplicit false

namespace Ezpn

/-! ## Weights -/

namespace Text

/-- The number that decimal digits stand for, after those of `acc`. -/
def value (acc : Nat) (digits : List Char) : Nat := digits.foldl (fun acc c => acc * 10 + (c.toNat - '0'.toNat)) acc

def IsDigit (c : Char) : Prop := '0' ≤ c ∧ c ≤ '9'

theorem value_ge (digits : List Char) (acc : Nat) : acc ≤ value acc digits := by
  induction digits generalizing acc with
  | nil => exact Nat.le_refl _
  | cons c digits ih =>
      refine le_trans ?_ (ih (acc * 10 + (c.toNat - '0'.toNat)))
      omega

/-- The digit loop accepts the numbers up to the maximum. -/
theorem digits?_iff {max acc : Nat} {digits : List Char} {n : Nat} (small : acc ≤ max) :
    digits? max acc digits = some n ↔ (∀ c ∈ digits, IsDigit c) ∧ value acc digits = n ∧ n ≤ max := by
  induction digits generalizing acc with
  | nil =>
      simp only [digits?, Option.some.injEq, List.not_mem_nil, false_implies, implies_true, true_and, value, List.foldl_nil]
      constructor
      · rintro rfl
        exact ⟨rfl, small⟩
      · exact And.left
  | cons c digits ih =>
      rw [digits?, digit?]
      by_cases decimal : IsDigit c
      · have shown : ('0' ≤ c && c ≤ '9') = true := by
          rw [Bool.and_eq_true, decide_eq_true_eq, decide_eq_true_eq]
          exact decimal
        simp only [shown, if_true]
        have grows := value_ge digits (acc * 10 + (c.toNat - '0'.toNat))
        by_cases fits : acc * 10 + (c.toNat - '0'.toNat) ≤ max
        · rw [if_pos fits, ih fits, List.forall_mem_cons]
          exact ⟨fun ⟨rest, exact⟩ => ⟨⟨decimal, rest⟩, exact⟩, fun ⟨⟨_, rest⟩, exact⟩ => ⟨rest, exact⟩⟩
        · rw [if_neg fits]
          refine iff_of_false nofun ?_
          rintro ⟨_, rfl, bounded⟩
          exact fits (le_trans grows bounded)
      · have shown : ('0' ≤ c && c ≤ '9') = false := by
          rw [Bool.and_eq_false_iff, decide_eq_false_iff_not, decide_eq_false_iff_not]
          exact not_and_or.mp decimal
        simp only [shown, Bool.false_eq_true, if_false]
        exact iff_of_false nofun fun ⟨all, _⟩ => decimal (all c List.mem_cons_self)

/-- The text is a decimal numeral, possibly after a plus sign. -/
def Numeral (text : List Char) (n : Nat) : Prop :=
  ∃ digits, digits ≠ [] ∧ (text = digits ∨ text = '+' :: digits) ∧ (∀ c ∈ digits, IsDigit c) ∧ value 0 digits = n

theorem parseUnsigned_iff {max n : Nat} {text : List Char} :
    parseUnsigned max text = some n ↔ Numeral text n ∧ n ≤ max := by
  have plus : ¬IsDigit '+' := by
    unfold IsDigit
    decide
  constructor
  · intro parsed
    unfold parseUnsigned at parsed
    split at parsed
    · cases parsed
    · cases parsed
    · rename_i digits nonempty
      obtain ⟨decimal, value, bounded⟩ := (digits?_iff (Nat.zero_le _)).mp parsed
      exact ⟨⟨digits, by rintro rfl; exact nonempty rfl, .inr rfl, decimal, value⟩, bounded⟩
    · rename_i nonempty _ _
      obtain ⟨decimal, value, bounded⟩ := (digits?_iff (Nat.zero_le _)).mp parsed
      exact ⟨⟨text, nonempty, .inl rfl, decimal, value⟩, bounded⟩
  · rintro ⟨⟨digits, nonempty, rfl | rfl, decimal, value⟩, bounded⟩
    · have parsed := (digits?_iff (Nat.zero_le max)).mpr ⟨decimal, value, bounded⟩
      unfold parseUnsigned
      split
      · exact absurd rfl nonempty
      · exact absurd (decimal '+' (by simp)) plus
      · exact absurd (decimal '+' (by simp)) plus
      · exact parsed
    · have parsed := (digits?_iff (Nat.zero_le max)).mpr ⟨decimal, value, bounded⟩
      unfold parseUnsigned
      split
      · rename_i impossible
        cases impossible
      · rename_i alone
        cases alone
        exact absurd rfl nonempty
      · rename_i same
        cases same
        exact parsed
      · rename_i other
        exact absurd rfl (other digits)

end Text

/-- A weight of a spec: a number from 1 to 9, spaces around it aside. -/
def Weight (text : List Char) (weight : Nat) : Prop := Text.Numeral (Text.trim text) weight ∧ 1 ≤ weight ∧ weight ≤ 9

namespace Layout

theorem parseWeight_iff {text : List Char} {weight : Nat} : parseWeight text = .ok weight ↔ Weight text weight := by
  unfold parseWeight Weight
  constructor
  · intro parsed
    split at parsed
    · cases parsed
    · rename_i n numeral
      split at parsed
      · rename_i range
        rw [Bool.and_eq_true, decide_eq_true_eq, decide_eq_true_eq] at range
        cases parsed
        exact ⟨(Text.parseUnsigned_iff.mp numeral).1, range⟩
      · cases parsed
  · rintro ⟨numeral, least, most⟩
    have small : weight ≤ u32Max := by
      unfold u32Max
      omega
    rw [Text.parseUnsigned_iff.mpr ⟨numeral, small⟩]
    simp only [least, most, decide_true, Bool.and_self, if_true]

theorem parseWeights_iff {texts : List (List Char)} {weights : List Nat} :
    parseWeights texts = .ok weights ↔ List.Forall₂ Weight texts weights := by
  induction texts generalizing weights with
  | nil =>
      rw [parseWeights, List.forall₂_nil_left_iff]
      exact ⟨fun same => by cases same; rfl, fun none => by rw [none]⟩
  | cons text texts ih =>
      rw [parseWeights, List.forall₂_cons_left_iff]
      constructor
      · intro parsed
        split at parsed
        · cases parsed
        · rename_i weight first
          split at parsed
          · cases parsed
          · rename_i rest later
            cases parsed
            exact ⟨weight, rest, parseWeight_iff.mp first, ih.mp later, rfl⟩
      · rintro ⟨weight, rest, first, later, rfl⟩
        rw [parseWeight_iff.mpr first, ih.mpr later]

/-! ## Specs -/

/-- The named specs, with the rows of weights that they stand for. -/
def presets : List (List Char × List (List Nat)) :=
  [("ide".toList, [[7, 3], [1, 1]]), ("dev".toList, [[7, 3]]), ("monitor".toList, [[1, 1, 1]]),
   ("quad".toList, [[1, 1], [1, 1]]), ("stack".toList, [[1], [1], [1]]), ("main".toList, [[6, 4], [1]]),
   ("trio".toList, [[1], [1, 1]])]

/-- The texts between the separators, row by row. -/
def sections (text : List Char) : List (List (List Char)) := (text.splitOn '/').map (·.splitOn ':')

/-- The text is a preset, or up to 100 weights separated by `:` within rows and by `/` between them. -/
def Describes (text : List Char) (rows : List (List Nat)) : Prop :=
  (text, rows) ∈ presets ∨ List.Forall₂ (List.Forall₂ Weight) (sections text) rows ∧ (rows.map List.length).sum ≤ 100

theorem length_splitOn (a : Char) (text : List Char) : (text.splitOn a).length = text.count a + 1 := by
  induction text with
  | nil => simp
  | cons c text ih =>
      rw [List.splitOn_cons_eq_if_modifyHead, List.count_cons]
      split
      · rw [List.length_cons, ih]
      · rw [List.length_modifyHead, ih]

/-- There is one text more than separators. -/
theorem sections_length (text : List Char) :
    ((sections text).map List.length).sum = (text.filter fun c => c == '/' || c == ':').length + 1 := by
  simp only [sections, List.map_map, Function.comp_def, length_splitOn]
  induction text with
  | nil => rfl
  | cons c text ih =>
      rw [List.splitOn_cons_eq_if_modifyHead, List.filter_cons]
      cases parts : text.splitOn '/' with
      | nil => exact absurd parts (List.splitOn_ne_nil _ _)
      | cons part parts' =>
          rw [parts] at ih
          simp only [List.map_cons, List.sum_cons] at ih
          by_cases slash : c == '/'
          · simp only [slash, if_true, Bool.true_or, List.map_cons, List.sum_cons, List.length_cons, List.count_nil]
            omega
          · simp only [slash, Bool.false_eq_true, if_false, Bool.false_or, List.modifyHead_cons, List.map_cons,
              List.sum_cons, List.count_cons]
            split
            · rw [List.length_cons]
              omega
            · omega

variable {R : Type} [RatioOps R]

/-- The trees of the rows, with one id counter. -/
def buildRows : (rows : List (List Nat)) → (next : Nat) → List (LayoutNode R × Nat) × Nat
  | [], next => ([], next)
  | row :: rows, next =>
      let built := buildWeightedRow (R := R) row row.sum next
      let (rest, final) := buildRows rows built.2
      ((built.1, row.length) :: rest, final)

theorem weights_positive {texts : List (List Char)} {weights : List Nat} (read : List.Forall₂ Weight texts weights) :
    ∀ weight ∈ weights, 1 ≤ weight := by
  induction read with
  | nil => exact nofun
  | cons first _ ih =>
      intro weight member
      rcases List.mem_cons.mp member with rfl | later
      · exact first.2.1
      · exact ih weight later

/-- Rows are accepted exactly when all their texts are weights. -/
theorem parseRows_iff {texts : List (List Char)} {next : Nat} {result : List (LayoutNode R × Nat) × Nat} :
    parseRows texts next = .ok result ↔
      ∃ rows, List.Forall₂ (List.Forall₂ Weight) (texts.map (·.splitOn ':')) rows ∧ result = buildRows rows next := by
  induction texts generalizing next result with
  | nil =>
      simp only [parseRows, List.map_nil, List.forall₂_nil_left_iff, exists_eq_left, Except.ok.injEq, buildRows]
      exact eq_comm
  | cons text texts ih =>
      constructor
      · intro parsed
        obtain ⟨nodes, final⟩ := result
        obtain ⟨w, ws, tail, weights, rest, rfl⟩ := parseRows_cons parsed
        obtain ⟨rows, read, built⟩ := ih.mp rest
        refine ⟨(w :: ws) :: rows, .cons (parseWeights_iff.mp weights) read, ?_⟩
        rw [buildRows, ← built]
        rfl
      · rintro ⟨rows, read, rfl⟩
        rw [List.map_cons, List.forall₂_cons_left_iff] at read
        obtain ⟨row, rows, first, later, rfl⟩ := read
        have positive := weights_positive first
        have rest : parseRows texts (buildWeightedRow (R := R) row row.sum next).2 =
            .ok (buildRows rows (buildWeightedRow (R := R) row row.sum next).2) := ih.mpr ⟨rows, later, rfl⟩
        cases row with
        | nil =>
            have none := List.forall₂_nil_right_iff.mp first
            exact absurd none (List.splitOn_ne_nil _ _)
        | cons w ws =>
            have total : ¬(w :: ws).sum = 0 := by
              have := positive w List.mem_cons_self
              rw [List.sum_cons]
              omega
            simp only [parseRows, parseWeights_iff.mpr first, if_neg total, rest, buildRows]

end Layout

/-! ## Shares -/

namespace LayoutNode

/-- The share of an area that each leaf has along an axis, in tree order. -/
def shares (axis : Direction) : LayoutNode ℚ → (share : ℚ) → List ℚ
  | leaf _, share => [share]
  | split direction ratio first second, share =>
      if direction = axis then first.shares axis (share * ratio) ++ second.shares axis (share * (1 - ratio))
      else first.shares axis share ++ second.shares axis share

/-- The parts that the splits along an axis make of a tree. -/
def strips {R : Type} (axis : Direction) : LayoutNode R → List (LayoutNode R)
  | leaf id => [leaf id]
  | split direction ratio first second =>
      if direction = axis then first.strips axis ++ second.strips axis else [split direction ratio first second]

end LayoutNode

namespace Layout
open LayoutNode

/-- A tree for one row of weights. -/
structure RowOf (row : List Nat) (node : LayoutNode ℚ) : Prop where
  widths : ∀ share, node.shares .horizontal share = row.map fun (w : Nat) => share * w / (row.sum : ℕ)
  heights : ∀ share, node.shares .vertical share = row.map fun (_ : Nat) => share
  whole : node.strips .vertical = [node]
  columns : ∃ ids : List Nat, ids.length = row.length ∧ node.strips .horizontal = ids.map LayoutNode.leaf

theorem buildWeightedRow_cons {w : Nat} {ws : List Nat} (nonempty : ws ≠ []) (total next : Nat) :
    (buildWeightedRow (R := ℚ) (w :: ws) total next).1 =
      .split .horizontal ((w : ℚ) / (total : ℚ)) (.leaf next) (buildWeightedRow ws (total - w) (next + 1)).1 := by
  cases ws with
  | nil => exact absurd rfl nonempty
  | cons v vs => rfl

theorem buildWeightedColumn_cons {node : LayoutNode ℚ} {nodes : List (LayoutNode ℚ)} (nonempty : nodes ≠ []) (count : Nat) :
    buildWeightedColumn (node :: nodes) count =
      .split .vertical (1 / (count : ℚ)) node (buildWeightedColumn nodes (count - 1)) := by
  cases nodes with
  | nil => exact absurd rfl nonempty
  | cons next nodes =>
      rw [buildWeightedColumn]
      change LayoutNode.split .vertical (((1 : ℕ) : ℚ) / _) _ _ = _
      rw [Nat.cast_one]

theorem sum_positive {row : List Nat} (nonempty : row ≠ []) (positive : ∀ w ∈ row, 1 ≤ w) : 1 ≤ row.sum := by
  cases row with
  | nil => exact absurd rfl nonempty
  | cons w ws =>
      have first := positive w List.mem_cons_self
      rw [List.sum_cons]
      omega

/-- The ratios along a row multiply to the shares of its weights. -/
theorem buildWeightedRow_rowOf {row : List Nat} (nonempty : row ≠ []) (positive : ∀ w ∈ row, 1 ≤ w) (next : Nat) :
    RowOf row (buildWeightedRow row row.sum next).1 := by
  induction row generalizing next with
  | nil => exact absurd rfl nonempty
  | cons w ws ih =>
      have first := positive w List.mem_cons_self
      by_cases last : ws = []
      · subst last
        have scaled (share : ℚ) : share = share * w / (w : ℕ) := by
          have : (w : ℚ) ≠ 0 := by positivity
          field_simp
        refine ⟨fun share => ?_, fun share => rfl, rfl, [next], rfl, rfl⟩
        rw [List.map_cons, List.map_nil, List.sum_singleton, ← scaled]
        rfl
      · have restPositive : ∀ w ∈ ws, 1 ≤ w := fun w member => positive w (List.mem_cons_of_mem _ member)
        obtain ⟨widths, heights, whole, ids, count, columns⟩ := ih last restPositive (next + 1)
        have sum := sum_positive last restPositive
        have rest : ((ws.sum : ℕ) : ℚ) ≠ 0 := by positivity
        have allPos : (w : ℚ) + (ws.sum : ℕ) ≠ 0 := by positivity
        rw [buildWeightedRow_cons last, List.sum_cons, Nat.add_sub_cancel_left]
        refine ⟨fun share => ?_, fun share => ?_, rfl, next :: ids, ?_, ?_⟩
        · rw [shares, if_pos rfl, shares, widths, List.singleton_append, List.map_cons, List.sum_cons, Nat.cast_add]
          congr 1
          · rw [mul_div_assoc]
          · refine List.map_congr_left fun u _ => ?_
            field_simp
            ring
        · rw [shares, if_neg (by decide), shares, heights, List.singleton_append, List.map_cons]
        · rw [List.length_cons, count, List.length_cons]
        · rw [strips, if_pos rfl, strips, columns, List.singleton_append, List.map_cons]

/-- Rows on top of each other have equal heights. -/
theorem buildWeightedColumn_shares {nodes : List (LayoutNode ℚ)} (nonempty : nodes ≠ []) (share : ℚ) :
    (buildWeightedColumn nodes nodes.length).shares .vertical share =
        nodes.flatMap (fun node => node.shares .vertical (share / nodes.length)) ∧
      (buildWeightedColumn nodes nodes.length).shares .horizontal share = nodes.flatMap (fun node => node.shares .horizontal share) := by
  induction nodes generalizing share with
  | nil => exact absurd rfl nonempty
  | cons node nodes ih =>
      by_cases last : nodes = []
      · subst last
        simp [buildWeightedColumn]
      · have below := (ih last (share * (1 - 1 / ((nodes.length + 1 : ℕ) : ℚ)))).1
        have beside := (ih last share).2
        have positive := List.length_pos_of_ne_nil last
        have equal : share * (1 - 1 / ((nodes.length + 1 : ℕ) : ℚ)) / (nodes.length : ℚ) = share / ((nodes.length + 1 : ℕ) : ℚ) := by
          have one : (nodes.length : ℚ) ≠ 0 := by positivity
          have two : (nodes.length : ℚ) + 1 ≠ 0 := by positivity
          push_cast
          field_simp
          ring
        rw [equal] at below
        rw [buildWeightedColumn_cons last, List.length_cons, Nat.add_sub_cancel]
        constructor
        · rw [shares, if_pos rfl, below, List.flatMap_cons, mul_one_div]
        · rw [shares, if_neg (by decide), beside, List.flatMap_cons]

/-- Rows on top of each other are the strips that the column is cut into. -/
theorem buildWeightedColumn_strips {nodes : List (LayoutNode ℚ)} (nonempty : nodes ≠ [])
    (whole : ∀ node ∈ nodes, node.strips .vertical = [node]) (count : Nat) :
    (buildWeightedColumn nodes count).strips .vertical = nodes := by
  induction nodes generalizing count with
  | nil => exact absurd rfl nonempty
  | cons node nodes ih =>
      have here := whole node List.mem_cons_self
      by_cases last : nodes = []
      · subst last
        exact here
      · rw [buildWeightedColumn_cons last, strips, if_pos rfl, here,
          ih last fun node member => whole node (List.mem_cons_of_mem _ member)]
        rfl

/-! ## Acceptance -/

variable {R : Type} [RatioOps R]

/-- The layout that rows of weights ask for. -/
def fromRows (R : Type) [RatioOps R] (rows : List (List Nat)) : Layout R :=
  let built := buildRows rows 0
  { root := buildWeightedColumn (built.1.map (·.1)) built.1.length, nextId := built.2 }

/-- Presets are words of their own: none of them is read as weights. -/
theorem presets_spec : ∀ preset ∈ presets, Layout.fromSpec (R := ℚ) preset.1 = .ok (fromRows ℚ preset.2) ∧
    Text.trim preset.1 = preset.1 ∧ (parseRows (R := ℚ) (preset.1.splitOn '/') 0).isOk = false ∧
    ∀ other ∈ presets, preset.1 = other.1 → preset = other := by
  decide +kernel

theorem buildRows_lengths (rows : List (List Nat)) (next : Nat) :
    (buildRows (R := R) rows next).1.map (·.2) = rows.map List.length := by
  induction rows generalizing next with
  | nil => rfl
  | cons row rows ih =>
      simp only [buildRows, List.map_cons, ih]

/-- A text that is not a preset is read as it is. -/
theorem resolvePreset_other {spec : List Char} (other : ∀ preset ∈ presets, Text.trim spec ≠ preset.1) :
    resolvePreset spec = some (Text.trim spec) := by
  have unnamed : ∀ name ∈ presets.map (·.1), Text.trim spec ≠ name := by
    intro name member
    obtain ⟨preset, listed, rfl⟩ := List.mem_map.mp member
    exact other preset listed
  have text {name : String} (same : String.ofList (Text.trim spec) = name) : Text.trim spec = name.toList := by
    rw [← same, String.toList_ofList]
  unfold resolvePreset
  split
  · rename_i same
    exact absurd (text same) (unnamed _ (by decide))
  · rename_i same
    exact absurd (text same) (unnamed _ (by decide))
  · rename_i same
    exact absurd (text same) (unnamed _ (by decide))
  · rename_i same
    exact absurd (text same) (unnamed _ (by decide))
  · rename_i same
    exact absurd (text same) (unnamed _ (by decide))
  · rename_i same
    exact absurd (text same) (unnamed _ (by decide))
  · rename_i same
    exact absurd (text same) (unnamed _ (by decide))
  · rfl

/-- A text that is not a preset is accepted exactly for 1 to 100 weights. -/
theorem fromSpec_other {spec : List Char} (other : ∀ preset ∈ presets, Text.trim spec ≠ preset.1) {layout : Layout R} :
    fromSpec spec = .ok layout ↔
      ∃ rows, List.Forall₂ (List.Forall₂ Weight) (sections (Text.trim spec)) rows ∧
        (rows.map List.length).sum ≤ 100 ∧ layout = fromRows R rows := by
  have separators := sections_length (Text.trim spec)
  have width {rows : List (List Nat)} (read : List.Forall₂ (List.Forall₂ Weight) (sections (Text.trim spec)) rows) :
      ((sections (Text.trim spec)).map List.length).sum = (rows.map List.length).sum := by
    clear separators
    generalize sections (Text.trim spec) = texts at read
    induction read with
    | nil => rfl
    | cons first _ ih => simp only [List.map_cons, List.sum_cons, ih, first.length_eq]
  unfold fromSpec
  rw [resolvePreset_other other]
  constructor
  · intro accepted
    split at accepted
    · rename_i none
      cases none
    · rename_i same
      cases same
      dsimp only at accepted
      split at accepted
      · cases accepted
      · split at accepted
        · cases accepted
        · rename_i nodes final parsed
          obtain ⟨rows, read, built⟩ := parseRows_iff.mp parsed
          split at accepted
          · cases accepted
          · rename_i small
            cases accepted
            obtain rfl : nodes = (buildRows (R := R) rows 0).1 := congrArg Prod.fst built
            obtain rfl : final = (buildRows (R := R) rows 0).2 := congrArg Prod.snd built
            rw [buildRows_lengths] at small
            exact ⟨rows, read, Nat.le_of_not_lt small, rfl⟩
  · rintro ⟨rows, read, small, rfl⟩
    have parsed : parseRows ((Text.trim spec).splitOn '/') 0 = .ok (buildRows (R := R) rows 0) :=
      parseRows_iff.mpr ⟨rows, read, rfl⟩
    have few := width read
    split
    · rename_i impossible
      cases impossible
    · rename_i same
      cases same
      dsimp only
      rw [if_neg (by omega), parsed]
      dsimp only
      rw [buildRows_lengths, if_neg (Nat.not_lt.mpr small)]
      rfl

theorem fromSpec_congr {a b : List Char} (same : Text.trim a = Text.trim b) : fromSpec (R := R) a = fromSpec b := by
  unfold fromSpec resolvePreset
  rw [same]

/-- A spec is accepted for the rows that it describes. -/
theorem fromSpec_iff {spec : List Char} {layout : Layout ℚ} :
    fromSpec spec = .ok layout ↔ ∃ rows, Describes (Text.trim spec) rows ∧ layout = fromRows ℚ rows := by
  by_cases named : ∃ preset ∈ presets, Text.trim spec = preset.1
  · obtain ⟨preset, listed, same⟩ := named
    obtain ⟨rows, trimmed, unread, distinct⟩ := presets_spec preset listed
    have alike : Text.trim spec = Text.trim preset.1 := by rw [trimmed, same]
    rw [fromSpec_congr alike, rows, Except.ok.injEq, same]
    constructor
    · rintro rfl
      exact ⟨preset.2, .inl listed, rfl⟩
    · rintro ⟨rows, described | ⟨read, _⟩, rfl⟩
      · rw [distinct _ described rfl]
      · have parsed : parseRows (preset.1.splitOn '/') 0 = .ok (buildRows (R := ℚ) rows 0) := parseRows_iff.mpr ⟨rows, read, rfl⟩
        rw [parsed] at unread
        cases unread
  · have other : ∀ preset ∈ presets, Text.trim spec ≠ preset.1 := fun preset listed same => named ⟨preset, listed, same⟩
    rw [fromSpec_other other]
    constructor
    · rintro ⟨rows, read, small, rfl⟩
      exact ⟨rows, .inr ⟨read, small⟩, rfl⟩
    · rintro ⟨rows, described | ⟨read, small⟩, rfl⟩
      · exact absurd rfl (other _ described)
      · exact ⟨rows, read, small, rfl⟩

/-! ## The arrangement -/

/-- What the layout of some rows looks like: ids in tree order, and for each pane its share of the height and width. -/
structure Arranged (layout : Layout ℚ) (rows : List (List Nat)) : Prop where
  ids : layout.paneIds = List.range layout.nextId
  count : layout.nextId = (rows.map List.length).sum
  each : List.Forall₂ RowOf rows (layout.root.strips .vertical)
  heights : layout.root.shares .vertical 1 = rows.flatMap fun row => row.map fun (_ : Nat) => 1 / (rows.length : ℚ)
  widths : layout.root.shares .horizontal 1 = rows.flatMap fun row => row.map fun (w : Nat) => (w : ℚ) / (row.sum : ℕ)

theorem buildWeightedRow_next {row : List Nat} (nonempty : row ≠ []) (total next : Nat) :
    (buildWeightedRow (R := R) row total next).2 = next + row.length := by
  induction row generalizing total next with
  | nil => exact absurd rfl nonempty
  | cons w ws ih =>
      cases ws with
      | nil => rfl
      | cons v vs =>
          change (buildWeightedRow (R := R) (v :: vs) (total - w) (next + 1)).2 = _
          rw [ih (by simp), List.length_cons (a := w)]
          omega

theorem buildRows_next {rows : List (List Nat)} (nonempty : ∀ row ∈ rows, row ≠ []) (next : Nat) :
    (buildRows (R := R) rows next).2 = next + (rows.map List.length).sum := by
  induction rows generalizing next with
  | nil => rfl
  | cons row rows ih =>
      change (buildRows (R := R) rows (buildWeightedRow (R := R) row row.sum next).2).2 = _
      rw [ih (fun row member => nonempty row (List.mem_cons_of_mem _ member)), buildWeightedRow_next (nonempty row List.mem_cons_self),
        List.map_cons, List.sum_cons]
      omega

theorem buildRows_rowOf {rows : List (List Nat)} (nonempty : ∀ row ∈ rows, row ≠ [])
    (positive : ∀ row ∈ rows, ∀ w ∈ row, 1 ≤ w) (next : Nat) :
    List.Forall₂ RowOf rows ((buildRows (R := ℚ) rows next).1.map (·.1)) := by
  induction rows generalizing next with
  | nil => exact .nil
  | cons row rows ih =>
      refine .cons (buildWeightedRow_rowOf (nonempty row List.mem_cons_self) (positive row List.mem_cons_self) next) ?_
      exact ih (fun row member => nonempty row (List.mem_cons_of_mem _ member))
        (fun row member => positive row (List.mem_cons_of_mem _ member)) _

/-- Rows have columns, and their weights are positive. -/
theorem Describes.rows {text : List Char} {rows : List (List Nat)} (described : Describes text rows) :
    rows ≠ [] ∧ (∀ row ∈ rows, row ≠ []) ∧ ∀ row ∈ rows, ∀ w ∈ row, 1 ≤ w := by
  rcases described with listed | described
  · have all : ∀ preset ∈ presets, preset.2 ≠ [] ∧ (∀ row ∈ preset.2, row ≠ []) ∧ ∀ row ∈ preset.2, ∀ w ∈ row, 1 ≤ w := by
      decide
    exact all _ listed
  · have read := described.1
    clear described
    refine ⟨?_, ?_⟩
    · rintro rfl
      have none := List.forall₂_nil_right_iff.mp read
      rw [sections, List.map_eq_nil_iff] at none
      exact List.splitOn_ne_nil _ _ none
    · have columns : ∀ texts ∈ sections text, texts ≠ [] := by
        intro texts member
        obtain ⟨row, _, rfl⟩ := List.mem_map.mp member
        exact List.splitOn_ne_nil _ _
      revert columns
      generalize sections text = all at read
      induction read with
      | nil => exact fun _ => ⟨nofun, nofun⟩
      | cons first _ ih =>
          intro columns
          obtain ⟨nonempty, positive⟩ := ih fun texts member => columns texts (List.mem_cons_of_mem _ member)
          refine ⟨List.forall_mem_cons.mpr ⟨?_, nonempty⟩, List.forall_mem_cons.mpr ⟨weights_positive first, positive⟩⟩
          rintro rfl
          exact columns _ List.mem_cons_self (List.forall₂_nil_right_iff.mp first)

theorem rowOf_whole {rows : List (List Nat)} {nodes : List (LayoutNode ℚ)} (built : List.Forall₂ RowOf rows nodes) :
    ∀ node ∈ nodes, node.strips .vertical = [node] := by
  induction built with
  | nil => exact nofun
  | cons first _ ih => exact List.forall_mem_cons.mpr ⟨first.whole, ih⟩

/-- The shares of rows' panes, from those within each row. -/
theorem flatMap_shares {axis : Direction} {share : ℚ} {rows : List (List Nat)} {nodes : List (LayoutNode ℚ)}
    {amounts : List Nat → List ℚ} (built : List.Forall₂ RowOf rows nodes)
    (each : ∀ row node, RowOf row node → node.shares axis share = amounts row) :
    nodes.flatMap (fun node => node.shares axis share) = rows.flatMap amounts := by
  induction built with
  | nil => rfl
  | cons first _ ih => rw [List.flatMap_cons, List.flatMap_cons, ih, each _ _ first]

/-- Every accepted spec is laid out as it says. -/
theorem fromSpec_arranged {spec : List Char} {layout : Layout ℚ} {rows : List (List Nat)}
    (accepted : fromSpec spec = .ok layout) (described : Describes (Text.trim spec) rows) : Arranged layout rows := by
  have laid : layout = fromRows ℚ rows := by
    have read := fromSpec_iff.mpr ⟨rows, described, rfl⟩
    rw [accepted] at read
    exact Except.ok.inj read
  obtain ⟨_, ids, _⟩ := fromSpec_cases accepted
  obtain ⟨some, nonempty, positive⟩ := described.rows
  have built := buildRows_rowOf nonempty positive 0
  have length : (buildRows (R := ℚ) rows 0).1.length = rows.length := by
    rw [← List.length_map, ← built.length_eq]
  have root : layout.root = buildWeightedColumn ((buildRows (R := ℚ) rows 0).1.map (·.1))
      ((buildRows (R := ℚ) rows 0).1.map (·.1)).length := by
    rw [laid, List.length_map]
    rfl
  have nodes : (buildRows (R := ℚ) rows 0).1.map (·.1) ≠ [] := by
    intro none
    rw [none] at built
    exact some (List.forall₂_nil_right_iff.mp built)
  obtain ⟨heights, widths⟩ := buildWeightedColumn_shares nodes 1
  refine ⟨?_, ?_, ?_, ?_, ?_⟩
  · rw [ids, List.range_eq_range']
  · rw [laid]
    change (buildRows (R := ℚ) rows 0).2 = _
    rw [buildRows_next nonempty, Nat.zero_add]
  · rw [root, buildWeightedColumn_strips nodes (rowOf_whole built)]
    exact built
  · rw [root, heights, List.length_map, length]
    exact flatMap_shares built fun row node here => here.heights _
  · rw [root, widths]
    refine flatMap_shares built fun row node here => ?_
    rw [here.widths]
    simp only [one_mul]

end Layout

end Ezpn
