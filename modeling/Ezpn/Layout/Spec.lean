import Ezpn.Layout.Tree
import Ezpn.Text

/-!
# Layout specs

`Layout::from_spec`: named presets and weight specs such as `7:3/5:5`, where `/`
separates rows and `:` separates columns within a row.
-/

set_option autoImplicit false

namespace Ezpn

/-- `u32::MAX`. -/
def u32Max : Nat := 2 ^ 32 - 1

namespace Layout
variable {R : Type} [RatioOps R]

/-- One column weight; the error texts quote the untrimmed text. -/
def parseWeight (s : List Char) : Except String Nat :=
  match Text.parseUnsigned u32Max (Text.trim s) with
  | none => .error s!"invalid weight: '{String.ofList s}'"
  | some weight =>
      if 1 ≤ weight && weight ≤ 9 then .ok weight
      else .error s!"weight must be 1-9: '{String.ofList s}'"

def parseWeights : List (List Char) → Except String (List Nat)
  | [] => .ok []
  | s :: rest =>
      match parseWeight s with
      | .error message => .error message
      | .ok weight =>
          match parseWeights rest with
          | .error message => .error message
          | .ok weights => .ok (weight :: weights)

/-- Build the rows left to right with one id counter, stopping at the first error. -/
def parseRows : (rows : List (List Char)) → (next : Nat) →
    Except String (List (LayoutNode R × Nat) × Nat)
  | [], next => .ok ([], next)
  | row :: rest, next =>
      match parseWeights (row.splitOn ':') with
      | .error message => .error message
      | .ok [] => .error "empty row in layout spec"
      | .ok cols =>
          let total := cols.sum
          if total = 0 then .error "row weights sum to 0"
          else
            let (node, after) := buildWeightedRow cols total next
            match parseRows rest after with
            | .error message => .error message
            | .ok (nodes, final) => .ok ((node, cols.length) :: nodes, final)

/-- The weight spec a preset name stands for; `none` for `quad`, a plain 2x2 grid. -/
def resolvePreset (spec : List Char) : Option (List Char) :=
  match String.ofList (Text.trim spec) with
  | "ide" => some "7:3/1:1".toList
  | "dev" => some "7:3".toList
  | "monitor" => some "1:1:1".toList
  | "quad" => none
  | "stack" => some "1/1/1".toList
  | "main" => some "6:4/1".toList
  | "trio" => some "1/1:1".toList
  | _ => some (Text.trim spec)

def fromSpec (spec : List Char) : Except String (Layout R) :=
  match resolvePreset spec with
  | none => .ok (fromGrid 2 2)
  | some resolved =>
      -- reject over-limit input before building any tree
      let separators := (resolved.filter fun c => c == '/' || c == ':').length
      if separators + 1 > 100 then .error s!"too many panes: {separators + 1}"
      else match parseRows (resolved.splitOn '/') 0 with
        | .error message => .error message
        | .ok (rowNodes, nextId) =>
            let totalPanes := (rowNodes.map (·.2)).sum
            if totalPanes > 100 then .error s!"too many panes: {totalPanes}"
            else .ok { root := buildWeightedColumn (rowNodes.map (·.1)) rowNodes.length, nextId }

end Layout

end Ezpn
