import Ezpn.Procfile
import Ezpn.Toml.Documents

/-!
# The statements of a generated file

The lines that are read again, one after another. As long as the entries are plain
each pane is a group of its own; what the first other entry becomes is not that entry.
-/

set_option autoImplicit false

namespace Ezpn

namespace Procfile

open Toml.Reader

/-! ## Lines -/

section Lines
variable (rest : List Char)

theorem expression_nil : expression [] = some (none, []) := rfl

theorem expression_empty : expression ('\n' :: rest) = some (none, rest) := rfl

theorem expression_workspace : expression (workspaceHeader ++ rest) = some (some (.header (.table "workspace")), rest) := rfl

theorem expression_pane : expression (paneHeader ++ rest) = some (some (.header (.item "pane")), rest) := rfl

end Lines

/-- A pair whose value has been read. -/
def pairLine (key : String) (read : Option (List Char × List Char)) : Option (Option Statement × List Char) :=
  match read with
  | none => none
  | some (value, cs) => (trailing cs).map fun rest => (some (.pair key (String.ofList value)), rest)

section Pairs
variable (cs : List Char)

theorem expression_layout : expression (layoutKey ++ cs) = pairLine "layout" (value cs) := rfl

theorem expression_name : expression (nameKey ++ cs) = pairLine "name" (value cs) := rfl

theorem expression_command : expression (commandKey ++ cs) = pairLine "command" (value cs) := rfl

end Pairs

theorem pairLine_some {key : String} {read : Option (List Char × List Char)} {statement : Option Statement} {rest : List Char}
    (said : pairLine key read = some (statement, rest)) :
    ∃ value after, read = some (value, after) ∧ trailing after = some rest ∧ statement = some (.pair key (String.ofList value)) := by
  cases read with
  | none => nomatch said
  | some found =>
      obtain ⟨value, after⟩ := found
      obtain ⟨rest', line, same⟩ := Option.map_eq_some_iff.mp said
      cases same
      exact ⟨value, after, rfl, line, rfl⟩

theorem expression_comment {comment : List Char} (shown : ∀ c ∈ comment, forbidden c = false) (rest : List Char) :
    expression ('#' :: (comment ++ '\n' :: rest)) = some (none, rest) := by
  have oneLine : ∀ c ∈ comment, decide (c ≠ '\n') = true := fun c member => by
    refine decide_eq_true ?_
    rintro rfl
    nomatch shown '\n' member
  have line : (comment ++ '\n' :: rest).takeWhile (fun c => decide (c ≠ '\n')) = comment := by
    rw [List.takeWhile_append_of_pos oneLine]
    exact List.append_nil comment
  have after : (comment ++ '\n' :: rest).dropWhile (fun c => decide (c ≠ '\n')) = '\n' :: rest :=
    List.dropWhile_append_of_pos oneLine
  have allowed : comment.any forbidden = false := List.any_eq_false.mpr fun c member => by
    rw [shown c member]
    exact Bool.false_ne_true
  change (if ((comment ++ '\n' :: rest).takeWhile fun c => decide (c ≠ '\n')).any forbidden = true then none
    else some ((comment ++ '\n' :: rest).dropWhile fun c => decide (c ≠ '\n')).tail).map (fun rest => (none, rest)) = _
  rw [line, after, allowed]
  rfl

/-! ## Texts and statements -/

/-- What a text says. -/
def Says (cs : List Char) (said : List Statement) : Prop := ∃ fuel, statements fuel cs = some said

theorem statements_more {fuel more : Nat} {cs : List Char} {said : List Statement} (read : statements fuel cs = some said)
    (le : fuel ≤ more) : statements more cs = some said := by
  induction fuel generalizing more cs said with
  | zero => nomatch read
  | succ fuel ih =>
      cases more with
      | zero => nomatch le
      | succ more =>
          unfold statements at read ⊢
          split
          · rename_i done
            rw [if_pos done] at read
            exact read
          · rename_i some
            rw [if_neg some] at read
            cases line : expression cs with
            | none =>
                rw [line] at read
                nomatch read
            | some found =>
                obtain ⟨statement, rest⟩ := found
                rw [line] at read
                obtain ⟨later, known, same⟩ := Option.map_eq_some_iff.mp read
                dsimp only
                rw [ih known (Nat.le_of_succ_le_succ le)]
                rw [← same]
                rfl

/-- A line that is read comes first. -/
theorem statements_line {fuel : Nat} {cs rest : List Char} {statement : Option Statement} {said : List Statement}
    (line : expression cs = some (statement, rest)) (later : statements fuel rest = some said) :
    statements (fuel + 1) cs = some (statement.toList ++ said) := by
  rw [statements]
  split
  · rename_i done
    rw [done, expression_nil] at line
    cases line
    cases fuel with
    | zero => nomatch later
    | succ fuel => exact later
  · rw [line]
    dsimp only
    rw [later]
    rfl

theorem Says.line {cs : List Char} {said : List Statement} (told : Says cs said) :
    ∃ statement rest later, expression cs = some (statement, rest) ∧ said = statement.toList ++ later ∧ Says rest later := by
  obtain ⟨fuel, read⟩ := told
  cases fuel with
  | zero => nomatch read
  | succ fuel =>
      rw [statements] at read
      split at read
      · rename_i done
        cases read
        exact ⟨none, [], [], done ▸ expression_nil, rfl, 1, rfl⟩
      · cases line : expression cs with
        | none =>
            rw [line] at read
            nomatch read
        | some found =>
            obtain ⟨statement, rest⟩ := found
            rw [line] at read
            obtain ⟨later, known, same⟩ := Option.map_eq_some_iff.mp read
            exact ⟨statement, rest, later, rfl, same.symm, fuel, known⟩

theorem Says.known {cs rest : List Char} {statement : Option Statement} {said : List Statement} (told : Says cs said)
    (line : expression cs = some (statement, rest)) : ∃ later, said = statement.toList ++ later ∧ Says rest later := by
  obtain ⟨statement', rest', later, found, same, told⟩ := told.line
  rw [line] at found
  cases found
  exact ⟨later, same, told⟩

/-- A line without a statement. -/
theorem Says.skip {cs rest : List Char} {said : List Statement} (told : Says cs said) (line : expression cs = some (none, rest)) :
    Says rest said := by
  obtain ⟨later, same, after⟩ := told.known line
  exact same ▸ after

/-! ## Panes -/

/-- The pane of an entry. -/
def paneGroup (entry : String × String) : Group := { header := .item "pane", pairs := [("name", entry.1), ("command", entry.2)] }

def layoutGroup (count : Nat) : Group := { header := .table "workspace", pairs := [("layout", layoutSpec count)] }

/-- Pairs that belong to another pane than that of the entry. -/
def Wrong (entry : String × String) (pairs : List (String × String)) : Prop :=
  ∃ read : List Char, (("name", String.ofList read) ∈ pairs ∧ Unlike read entry.1.toList) ∨
    (("command", String.ofList read) ∈ pairs ∧ Unlike read entry.2.toList)

/-- A name that is read back. -/
theorem expression_plainName {entry : String × String} (kept : Entry entry)
    (plain : ∀ c ∈ entry.1.toList, c ≠ '"' ∧ c ≠ '\\' ∧ forbidden c = false) (rest : List Char) :
    expression (nameKey ++ '"' :: (entry.1.toList ++ '"' :: '\n' :: rest)) = some (some (.pair "name" entry.1), rest) := by
  have read := value_escaped kept.name (fun c member => (plain c member).2) ('\n' :: rest)
  rw [escaped_self fun member => (plain _ member).1 rfl] at read
  rw [expression_name, read, pairLine, String.ofList_toList]
  rfl

/-- A command that is read back. -/
theorem expression_keptCommand {entry : String × String} (kept : Entry entry) (same : Kept entry.2.toList) (rest : List Char) :
    expression (commandKey ++ '"' :: (escaped entry.2.toList ++ '"' :: '\n' :: rest)) =
      some (some (.pair "command" entry.2), rest) := by
  rw [expression_command, value_escaped kept.command same, pairLine, String.ofList_toList]
  rfl

theorem paneText_statements {entry : String × String} (kept : Entry entry) (plain : Plain entry) {fuel : Nat} {more : List Char}
    {said : List Statement} (later : statements fuel more = some said) :
    statements (fuel + 4) (paneText entry ++ more) = some ((paneGroup entry).statements ++ said) := by
  rw [paneText_append]
  refine statements_line (expression_pane _) ?_
  refine statements_line (expression_plainName kept plain.name _) ?_
  refine statements_line (expression_keptCommand kept plain.command _) ?_
  exact statements_line (expression_empty more) later

/-- What a pane is read as: the pane of the entry, or one that is not. -/
theorem Says.pane {entry : String × String} {more : List Char} {said : List Statement} (kept : Entry entry)
    (told : Says (paneText entry ++ more) said) :
    (Plain entry ∧ ∃ later, said = (paneGroup entry).statements ++ later ∧ Says more later) ∨
      ∃ pairs later, Wrong entry pairs ∧
        said = .header (.item "pane") :: (pairs.map (fun (key, value) => .pair key value) ++ later) := by
  rw [paneText_append] at told
  obtain ⟨pairs, rfl, fields⟩ := told.known (expression_pane _)
  by_cases plain : ∀ c ∈ entry.1.toList, c ≠ '"' ∧ c ≠ '\\' ∧ forbidden c = false
  · obtain ⟨others, rfl, command⟩ := fields.known (expression_plainName kept plain _)
    by_cases same : Kept entry.2.toList
    · obtain ⟨ending, rfl, ended⟩ := command.known (expression_keptCommand kept same _)
      exact .inl ⟨⟨plain, same⟩, ending, rfl, ended.skip (expression_empty more)⟩
    · obtain ⟨statement, rest, later, line, rfl, -⟩ := command.line
      rw [expression_command] at line
      obtain ⟨read, after, found, -, rfl⟩ := pairLine_some line
      refine .inr ⟨[("name", entry.1), ("command", String.ofList read)], later, ⟨read, .inr ⟨?_, ?_⟩⟩, rfl⟩
      · exact List.mem_cons_of_mem _ List.mem_cons_self
      · exact command_unlike kept found same
  · obtain ⟨statement, rest, later, line, rfl, -⟩ := fields.line
    rw [expression_name] at line
    obtain ⟨read, after, found, -, rfl⟩ := pairLine_some line
    exact .inr ⟨[("name", String.ofList read)], later, ⟨read, .inl ⟨List.mem_cons_self, name_unlike kept found plain⟩⟩, rfl⟩

theorem panes_statements {entries : List (String × String)} (kept : ∀ entry ∈ entries, Entry entry)
    (plain : ∀ entry ∈ entries, Plain entry) :
    statements (4 * entries.length + 1) (entries.flatMap paneText) = some ((entries.map paneGroup).flatMap Group.statements) := by
  induction entries with
  | nil => rfl
  | cons entry entries ih =>
      have later := ih (fun e member => kept e (List.mem_cons_of_mem _ member)) fun e member =>
        plain e (List.mem_cons_of_mem _ member)
      exact paneText_statements (kept entry List.mem_cons_self) (plain entry List.mem_cons_self) later

/-- The panes up to the first entry that is not plain. -/
theorem Says.panes {entries : List (String × String)} {said : List Statement} (kept : ∀ entry ∈ entries, Entry entry)
    (told : Says (entries.flatMap paneText) said) :
    (∀ entry ∈ entries, Plain entry) ∨
      ∃ front entry back pairs later, entries = front ++ entry :: back ∧ Wrong entry pairs ∧
        said = (front.map paneGroup).flatMap Group.statements ++
          .header (.item "pane") :: (pairs.map (fun (key, value) => .pair key value) ++ later) := by
  induction entries generalizing said with
  | nil => exact .inl nofun
  | cons entry entries ih =>
      obtain ⟨first, others⟩ := List.forall_mem_cons.mp kept
      rw [List.flatMap_cons] at told
      rcases told.pane first with ⟨plain, rest, rfl, panes⟩ | ⟨pairs, later, wrong, rfl⟩
      · rcases ih others panes with all | ⟨front, odd, back, pairs, after, rfl, wrong, rfl⟩
        · exact .inl (List.forall_mem_cons.mpr ⟨plain, all⟩)
        · refine .inr ⟨entry :: front, odd, back, pairs, after, rfl, wrong, ?_⟩
          rw [List.map_cons, List.flatMap_cons, List.append_assoc]
      · exact .inr ⟨[], entry, entries, pairs, later, rfl, wrong, rfl⟩

theorem Says.starts {entries : List (String × String)} {said : List Statement} (nonempty : entries ≠ [])
    (told : Says (entries.flatMap paneText) said) : ∃ later, said = .header (.item "pane") :: later := by
  cases entries with
  | nil => exact absurd rfl nonempty
  | cons entry entries =>
      rw [List.flatMap_cons, paneText_append] at told
      obtain ⟨later, rfl, -⟩ := told.known (expression_pane _)
      exact ⟨later, rfl⟩

/-! ## The whole file -/

theorem projectText_lines (source : Source) (entries : List (String × String)) :
    projectText source entries = '#' :: ((" Generated from ".toList ++ source.path) ++ '\n' :: '\n' ::
      (workspaceHeader ++ (layoutKey ++ '"' :: ((layoutSpec entries.length).toList ++ '"' :: '\n' :: '\n' ::
        entries.flatMap paneText)))) := by
  have comment : sourceComment = '#' :: " Generated from ".toList := by decide
  rw [projectText, comment]
  generalize " Generated from ".toList = start
  simp only [List.append_assoc, List.cons_append, List.nil_append]

theorem source_comment (source : Source) : ∀ c ∈ " Generated from ".toList ++ source.path, forbidden c = false :=
  List.forall_mem_append.mpr ⟨forall_of_all (by decide), source.shown⟩

theorem value_layout (count : Nat) (rest : List Char) :
    value ('"' :: ((layoutSpec count).toList ++ '"' :: rest)) = some ((layoutSpec count).toList, rest) := by
  have plain : (layoutSpec count).toList ≠ [] ∧ Kept (layoutSpec count).toList ∧ '"' ∉ (layoutSpec count).toList := by
    unfold layoutSpec
    split <;> exact ⟨by decide, forall_of_all (by decide), by decide⟩
  have read := value_escaped plain.1 plain.2.1 rest
  rw [escaped_self plain.2.2] at read
  exact read

theorem expression_layoutSpec (count : Nat) (rest : List Char) :
    expression (layoutKey ++ '"' :: ((layoutSpec count).toList ++ '"' :: '\n' :: rest)) =
      some (some (.pair "layout" (layoutSpec count)), rest) := by
  rw [expression_layout, value_layout, pairLine, String.ofList_toList]
  rfl

theorem Says.project {source : Source} {entries : List (String × String)} {said : List Statement}
    (told : Says (projectText source entries) said) :
    ∃ later, said = (layoutGroup entries.length).statements ++ later ∧ Says (entries.flatMap paneText) later := by
  rw [projectText_lines] at told
  have start := (told.skip (expression_comment (source_comment source) _)).skip (expression_empty _)
  obtain ⟨fields, rfl, header⟩ := start.known (expression_workspace _)
  obtain ⟨later, rfl, layout⟩ := header.known (expression_layoutSpec _ _)
  exact ⟨later, rfl, layout.skip (expression_empty _)⟩

theorem length_paneTexts (entries : List (String × String)) : 4 * entries.length ≤ (entries.flatMap paneText).length := by
  induction entries with
  | nil => exact Nat.le_refl 0
  | cons entry entries ih =>
      have header : paneHeader.length = 9 := by decide
      rw [List.flatMap_cons, List.length_append, List.length_cons, paneText, List.length_append, List.length_append, header]
      omega

theorem project_statements (source : Source) {entries : List (String × String)} (kept : ∀ entry ∈ entries, Entry entry)
    (plain : ∀ entry ∈ entries, Plain entry) :
    statements ((projectText source entries).length + 1) (projectText source entries) =
      some ((layoutGroup entries.length :: entries.map paneGroup).flatMap Group.statements) := by
  have panes := panes_statements kept plain
  have enough : 4 * entries.length + 1 + 5 ≤ (projectText source entries).length + 1 := by
    have long := length_paneTexts entries
    have header : workspaceHeader.length = 12 := by decide
    rw [projectText, List.length_append, List.length_append, List.length_append, header]
    omega
  refine statements_more ?_ enough
  rw [projectText_lines]
  refine statements_line (expression_comment (source_comment source) _) ?_
  refine statements_line (expression_empty _) ?_
  refine statements_line (expression_workspace _) ?_
  refine statements_line (expression_layoutSpec _ _) ?_
  exact statements_line (expression_empty _) panes

end Procfile

end Ezpn
