import Ezpn.Ipc
import Ezpn.Pane.Dump

/-!
# Dump requests

The request of the control socket that captures a pane's text, with its two filters
and its size limit.
-/

set_option autoImplicit false

namespace Ezpn

structure DumpRequest where
  pane : Nat
  since : Option Nat
  last : Option Nat
  includeScrollback : Bool

structure DumpPayload where
  pane : Nat
  lines : List String
  total : Nat
  deriving DecidableEq

inductive DumpResponse where
  | error (message : String)
  | dump (payload : DumpPayload)
  deriving DecidableEq

namespace DumpRequest
variable {G : Type} [Vt100 G]

/-- Pane 0 stands for the active pane if there is no pane 0. -/
def target (request : DumpRequest) (panes : IdMap (Pane G)) (activePane : Nat) : Option Nat :=
  if panes.contains request.pane then some request.pane
  else if request.pane = 0 && panes.contains activePane then some activePane
  else none

def dropSince (since : Option Nat) (lines : List String) : List String :=
  match since with
  | none => lines
  | some since => lines.drop (min (since - 1) lines.length)

def keepLast (last : Option Nat) (lines : List String) : List String :=
  match last with
  | none => lines
  | some last => if lines.length > last then lines.drop (lines.length - last) else lines

/-- One line break for each line. -/
def payloadBytes (lines : List String) : Nat := (lines.map fun line => line.utf8ByteSize + 1).sum

/-- `handle_dump_mut`. -/
def handle (request : DumpRequest) (panes : IdMap (Pane G)) (activePane : Nat) : IdMap (Pane G) × DumpResponse :=
  match request.target panes activePane with
  | none => (panes, .error ("pane " ++ toString request.pane ++ " not found"))
  | some target =>
      match panes[target]? with
      | none => (panes, .error ("pane " ++ toString request.pane ++ " not found"))
      | some pane =>
          let (pane, all) := pane.dumpText request.includeScrollback
          let lines := keepLast request.last (dropSince request.since all)
          (panes.insert target pane,
            if payloadBytes lines > dumpMaxBytes then .error "dump too large; use --last N"
            else .dump { pane := target, lines, total := all.length })

/-! ## The rows asked for -/

/-- Rows at one-based positions from `since` on. -/
def fromPosition (since : Nat) (lines : List String) : List String :=
  ((lines.zipIdx 1).filter fun entry => since ≤ entry.2).map (·.1)

/-- The final rows. -/
def final (last : Nat) (lines : List String) : List String := (lines.reverse.take last).reverse

/-- What a request asks for, of all rows. -/
def rowsAsked (request : DumpRequest) (lines : List String) : List String :=
  let lines := match request.since with
    | none => lines
    | some since => fromPosition since lines
  match request.last with
  | none => lines
  | some last => final last lines

theorem filter_zipIdx (since k : Nat) (lines : List String) :
    ((lines.zipIdx k).filter fun entry => since ≤ entry.2).map (·.1) = lines.drop (since - k) := by
  induction lines generalizing k with
  | nil => simp
  | cons line lines ih =>
      rw [List.zipIdx_cons]
      by_cases reached : since ≤ k
      · rw [List.filter_cons_of_pos (by simpa using reached), List.map_cons, ih, Nat.sub_eq_zero_of_le reached,
          Nat.sub_eq_zero_of_le (by omega), List.drop_zero, List.drop_zero]
      · have later : since - k = since - (k + 1) + 1 := by omega
        rw [List.filter_cons_of_neg (by simpa using reached), ih, later, List.drop_succ_cons]

theorem dropSince_eq (since : Nat) (lines : List String) : dropSince (some since) lines = fromPosition since lines := by
  rw [fromPosition, filter_zipIdx, dropSince]
  by_cases short : lines.length ≤ since - 1
  · rw [Nat.min_eq_right short, List.drop_length, List.drop_eq_nil_of_le short]
  · rw [Nat.min_eq_left (by omega)]

theorem keepLast_eq (last : Nat) (lines : List String) : keepLast (some last) lines = final last lines := by
  rw [final, List.take_reverse, List.reverse_reverse, keepLast]
  split
  · rfl
  · rename_i few
    rw [Nat.sub_eq_zero_of_le (by omega), List.drop_zero]

theorem keepLast_dropSince (request : DumpRequest) (lines : List String) :
    keepLast request.last (dropSince request.since lines) = request.rowsAsked lines := by
  obtain ⟨pane, since, last, includeScrollback⟩ := request
  cases since with
  | none =>
      cases last with
      | none => rfl
      | some last => exact keepLast_eq last lines
  | some since =>
      cases last with
      | none => exact dropSince_eq since lines
      | some last =>
          simp only [rowsAsked, dropSince_eq]
          exact keepLast_eq last _

variable [ScreenVt100 G]

open ScreenVt100 (grid)

/-- Both dumps of a pane are exact and leave its view, and a request is answered
with the rows asked for unless they are too many bytes. -/
theorem dump_exact {request : DumpRequest} {panes : IdMap (Pane G)} {activePane target : Nat} {pane : Pane G}
    (targeted : request.target panes activePane = some target) (found : panes[target]? = some pane) :
    let screen := grid pane.parser
    let text (rows : List Row) : List String := rows.map (Pane.rowText screen)
    let lines := request.rowsAsked (text (Pane.dumpRows request.includeScrollback screen))
    (pane.dumpText true).2 = text (screen.scrollback ++ screen.rows) ∧
      (pane.dumpText false).2 = text screen.rows ∧
      (∀ includeScrollback : Bool, grid (pane.dumpText includeScrollback).1.parser = screen ∧
        Vt100.scrollback (pane.dumpText includeScrollback).1.parser = Vt100.scrollback pane.parser ∧
        (pane.dumpText includeScrollback).1.scrollOffset = pane.scrollOffset) ∧
      request.handle panes activePane =
        (panes.insert target (pane.dumpText request.includeScrollback).1,
          if payloadBytes lines ≤ dumpMaxBytes then
            .dump { pane := target, lines, total := (Pane.dumpRows request.includeScrollback screen).length }
          else .error "dump too large; use --last N") := by
  refine ⟨pane.dumpText_lines true, pane.dumpText_lines false, fun includeScrollback => ⟨?_, ?_, rfl⟩, ?_⟩
  · exact pane.dumpText_grid includeScrollback
  · rw [ScreenVt100.scrollback_eq, ScreenVt100.scrollback_eq, pane.dumpText_grid includeScrollback]
  · simp only [handle, targeted, found, keepLast_dropSince, pane.dumpText_lines, List.length_map]
    congr 1
    split <;> split
    · omega
    · rfl
    · rfl
    · omega

/-- Rows of a single letter each. -/
def letterRow (c : Char) : Row := { cells := [{ contents := [c] }] }

/-- Two rows of history above two live rows. -/
def fourLetters : Grid :=
  .narrow 1 [letterRow 'c', letterRow 'd'] [letterRow 'a', letterRow 'b'] (by decide) (by decide) (by decide) (by decide)

def still (screen : Grid) : IdMap (Pane StillDisplay) :=
  (∅ : IdMap (Pane StillDisplay)).insert 0 (StillDisplay.pane ⟨screen⟩)

theorem still_pane (screen : Grid) : (still screen)[0]? = some (StillDisplay.pane ⟨screen⟩) := by
  rw [still, IdMap.getElem?_insert, if_pos rfl]

theorem still_target (request : DumpRequest) (screen : Grid) (first : request.pane = 0) :
    request.target (still screen) 0 = some 0 := by
  have shown : (still screen).contains 0 = true := Std.ExtTreeMap.mem_iff_contains.mp (IdMap.mem_insert_iff.mpr (.inl rfl))
  rw [target, first, if_pos shown]

theorem fourLetters_dumped :
    (handle { pane := 0, since := some 2, last := some 2, includeScrollback := true } (still fourLetters) 0).2 =
      .dump { pane := 0, lines := ["c", "d"], total := 4 } := by
  let request : DumpRequest := { pane := 0, since := some 2, last := some 2, includeScrollback := true }
  have exactly := dump_exact (still_target request fourLetters rfl) (still_pane fourLetters)
  rw [exactly.2.2.2]
  decide +kernel

def wideRow : Row := { cells := List.replicate 168 { contents := ['a'] } }

theorem wideRow_narrow (cell : Cell) (member : cell ∈ wideRow.cells) : cell.Narrow := by
  obtain rfl := List.eq_of_mem_replicate member
  decide

/-- A history of rows of 168 letters. -/
def longHistory (n : Nat) (bounded : n ≤ usizeMax / 2) : Grid :=
  .narrow 168 [wideRow] (List.replicate n wideRow) (by decide) (by decide)
    (by rwa [List.length_replicate])
    (fun row member => by
      rw [← List.replicate_one, List.replicate_append_replicate] at member
      obtain rfl := List.eq_of_mem_replicate member
      exact wideRow_narrow)

theorem payloadBytes_replicate (n : Nat) (line : String) :
    payloadBytes (List.replicate n line) = n * (line.utf8ByteSize + 1) := by
  rw [payloadBytes, List.map_replicate, List.sum_replicate_nat]

theorem longHistory_lines (n : Nat) (bounded : n ≤ usizeMax / 2) :
    (Pane.dumpRows true (longHistory n bounded)).map (Pane.rowText (longHistory n bounded)) =
      List.replicate (n + 1) (String.ofList (List.replicate 168 'a')) := by
  have rows : Pane.dumpRows true (longHistory n bounded) = List.replicate (n + 1) wideRow := by
    rw [← List.replicate_append_replicate]
    rfl
  have text : Pane.rowText (longHistory n bounded) wideRow = String.ofList (List.replicate 168 'a') :=
    Row.writeContents_replicate 'a' 168
  rw [rows, List.map_replicate, text]

theorem long_refused (n : Nat) (bounded : n ≤ usizeMax / 2) (many : dumpMaxBytes < (n + 1) * 169) :
    (handle { pane := 0, since := none, last := none, includeScrollback := true } (still (longHistory n bounded)) 0).2 =
      .error "dump too large; use --last N" := by
  let request : DumpRequest := { pane := 0, since := none, last := none, includeScrollback := true }
  have exactly := dump_exact (still_target request (longHistory n bounded) rfl) (still_pane (longHistory n bounded))
  have size : (String.ofList (List.replicate 168 'a')).utf8ByteSize = 168 := by decide +kernel
  rw [exactly.2.2.2]
  refine if_neg (Nat.not_le_of_lt ?_)
  have bytes := payloadBytes_replicate (n + 1) (String.ofList (List.replicate 168 'a'))
  rw [size, ← longHistory_lines n bounded] at bytes
  exact Nat.lt_of_lt_of_eq many bytes.symm

/-- A full history of 100 000 rows is more than a dump carries. -/
theorem fullHistory_refused :
    (handle { pane := 0, since := none, last := none, includeScrollback := true }
      (still (longHistory 100000 (by decide))) 0).2 = .error "dump too large; use --last N" :=
  long_refused 100000 (by decide) (by decide)

end DumpRequest

end Ezpn
