import Ezpn.Bootstrap
import Ezpn.EnvInterp.Unset
import Ezpn.Toml.Strings

/-!
# Project files from Procfiles

The project file that `from` writes for the entries of a Procfile, and how its lines
are read again. Where a name or a command is not read back as it is, the string
that is read says less, or goes on past the end of its line.
-/

set_option autoImplicit false

namespace Ezpn

namespace Procfile

open Toml.Reader

/-- The path of a Procfile, without control characters. -/
structure Source where
  path : List Char
  shown : ∀ c ∈ path, forbidden c = false

def layoutSpec : (count : Nat) → String
  | 1 => "1"
  | 2 => "1:1"
  | 3 => "1:1:1"
  | 4 => "1:1/1:1"
  | _ => "1:1:1/1:1:1"

/-! The fixed pieces of the text. -/

def sourceComment : List Char := "# Generated from ".toList

def workspaceHeader : List Char := "[workspace]\n".toList

def layoutKey : List Char := "layout = ".toList

def paneHeader : List Char := "[[pane]]\n".toList

def nameKey : List Char := "name = ".toList

def commandKey : List Char := "command = ".toList

/-- A pane; the quotes of the command are escaped. -/
def paneText (entry : String × String) : List Char :=
  paneHeader ++ (nameKey ++ '"' :: (entry.1.toList ++ ['"', '\n'])) ++
    (commandKey ++ '"' :: (escaped entry.2.toList ++ ['"', '\n', '\n']))

def projectText (source : Source) (entries : List (String × String)) : List Char :=
  sourceComment ++ source.path ++ ['\n', '\n'] ++ workspaceHeader ++
    (layoutKey ++ '"' :: ((layoutSpec entries.length).toList ++ ['"', '\n', '\n'])) ++ entries.flatMap paneText

/-- `cmd_from` where there is no project file yet; without entries it writes none. -/
def cmdFrom (source : Source) (contents : String) : Option String :=
  let entries := parseProcfile contents.toList
  if entries.isEmpty then none else some (String.ofList (projectText source entries))

/-! ## Entries -/

/-- What `parse_procfile` keeps of a line. -/
structure Entry (entry : String × String) : Prop where
  name : entry.1.toList ≠ []
  command : entry.2.toList ≠ []
  nameLine : '\n' ∉ entry.1.toList
  commandLine : '\n' ∉ entry.2.toList

theorem mem_of_mem_trim {c : Char} {cs : List Char} (member : c ∈ Text.trim cs) : c ∈ cs := by
  have inner := List.mem_reverse.mp member
  have front := List.mem_reverse.mp ((List.dropWhile_suffix _).subset inner)
  exact (List.dropWhile_suffix _).subset front

theorem parseProcfile_entry {contents : List Char} {entry : String × String} (listed : entry ∈ parseProcfile contents) :
    Entry entry := by
  obtain ⟨line, piece, parsed⟩ := List.mem_filterMap.mp listed
  have oneLine : '\n' ∉ line := by
    obtain ⟨part, split, rfl⟩ := List.mem_map.mp piece
    have split : part ∈ contents.splitOn '\n' := by
      split at split
      · exact (List.dropLast_subset _) split
      · exact split
    intro member
    have inside : '\n' ∈ part := by
      split at member
      · exact (List.dropLast_subset _) member
      · exact member
    exact Text.ne_of_mem_splitOn split inside rfl
  unfold parseProcfileLine at parsed
  dsimp only at parsed
  split at parsed
  · nomatch parsed
  · rcases Text.splitOnce_cases (· == ':') (Text.trim line) with ⟨name, c, command, whole, -, -, found⟩ | ⟨-, found⟩
    · rw [found] at parsed
      dsimp only at parsed
      split at parsed
      · nomatch parsed
      · rename_i nonempty
        cases parsed
        rw [Bool.or_eq_true_iff, List.isEmpty_iff, List.isEmpty_iff, not_or] at nonempty
        have before {c : Char} (member : c ∈ name ∨ c ∈ command) : c ∈ line := by
          refine mem_of_mem_trim ?_
          rw [whole]
          exact member.elim (List.mem_append_left _) fun member => List.mem_append_right _ (List.mem_cons_of_mem _ member)
        refine ⟨?_, ?_, ?_, ?_⟩ <;> simp only [String.toList_ofList]
        · exact nonempty.1
        · exact nonempty.2
        · exact fun member => oneLine (before (.inl (mem_of_mem_trim member)))
        · exact fun member => oneLine (before (.inr (mem_of_mem_trim member)))
    · rw [found] at parsed
      nomatch parsed

/-! ## Lines -/

theorem paneText_append (entry : String × String) (rest : List Char) :
    paneText entry ++ rest =
      paneHeader ++ (nameKey ++ '"' :: (entry.1.toList ++ '"' :: '\n' ::
        (commandKey ++ '"' :: (escaped entry.2.toList ++ '"' :: '\n' :: '\n' :: rest)))) := by
  simp only [paneText, List.append_assoc, List.cons_append, List.nil_append]

/-- A line with a string. -/
def stringLine (key text : List Char) : List Char := key ++ [' ', '=', ' ', '"'] ++ text ++ ['"']

/-- The lines of a pane. -/
def paneLines (entry : String × String) : List (List Char) :=
  ['[' :: '[' :: ("pane".toList ++ [']', ']']), stringLine "name".toList entry.1.toList,
    stringLine "command".toList (escaped entry.2.toList), []]

theorem stringLine_append (key text rest : List Char) :
    stringLine key text ++ rest = (key ++ [' ', '=', ' ']) ++ '"' :: (text ++ '"' :: rest) := by
  simp only [stringLine, List.append_assoc, List.cons_append, List.nil_append]

theorem nameKey_eq : "name".toList ++ [' ', '=', ' '] = nameKey := by decide

theorem commandKey_eq : "command".toList ++ [' ', '=', ' '] = commandKey := by decide

theorem layoutKey_eq : "layout".toList ++ [' ', '=', ' '] = layoutKey := by decide

theorem paneLines_text (entry : String × String) : ((paneLines entry).flatMap fun line => line ++ ['\n']) = paneText entry := by
  have header : '[' :: '[' :: ("pane".toList ++ [']', ']']) ++ ['\n'] = paneHeader := by decide
  rw [paneLines, List.flatMap_cons, List.flatMap_cons, List.flatMap_cons, List.flatMap_cons, header, stringLine_append,
    stringLine_append, nameKey_eq, commandKey_eq]
  simp only [paneText, List.flatMap_nil, List.append_assoc, List.cons_append, List.nil_append, List.append_nil]

theorem escaped_oneLine {cs : List Char} (oneLine : '\n' ∉ cs) : '\n' ∉ escaped cs := by
  intro member
  obtain ⟨c, listed, member⟩ := List.mem_flatMap.mp member
  split at member
  · exact absurd member (by decide)
  · exact oneLine (List.mem_singleton.mp member ▸ listed)

theorem paneLines_lines {entry : String × String} (kept : Entry entry) : ∀ line ∈ paneLines entry, Line line := by
  have word {key : List Char} (plain : key.all bare = true) : ∀ c ∈ key, bare c = true := List.all_eq_true.mp plain
  intro line member
  simp only [paneLines, List.mem_cons, List.not_mem_nil, or_false] at member
  rcases member with rfl | rfl | rfl | rfl
  · exact .item (word (by decide))
  · exact .pair (word (by decide)) (by decide) kept.nameLine
  · exact .pair (word (by decide)) (by decide) (escaped_oneLine kept.commandLine)
  · exact .empty

theorem layoutSpec_oneLine (count : Nat) : '\n' ∉ (layoutSpec count).toList := by
  unfold layoutSpec
  split <;> decide

/-- The lines before the panes. -/
def topLines (count : Nat) : List (List Char) :=
  [[], '[' :: ("workspace".toList ++ [']']), stringLine "layout".toList (layoutSpec count).toList, []]

theorem topLines_lines (count : Nat) : ∀ line ∈ topLines count, Line line := by
  have word {key : List Char} (plain : key.all bare = true) : ∀ c ∈ key, bare c = true := List.all_eq_true.mp plain
  intro line member
  simp only [topLines, List.mem_cons, List.not_mem_nil, or_false] at member
  rcases member with rfl | rfl | rfl | rfl
  · exact .empty
  · exact .table (word (by decide))
  · exact .pair (word (by decide)) (by decide) (layoutSpec_oneLine _)
  · exact .empty

/-- The generated text is a comment and simple lines. -/
theorem projectText_covered (source : Source) {entries : List (String × String)} (kept : ∀ entry ∈ entries, Entry entry) :
    Covered (projectText source entries) := by
  refine ⟨" Generated from ".toList ++ source.path, topLines entries.length ++ entries.flatMap paneLines, ?_, ?_, ?_⟩
  · have comment : sourceComment = '#' :: " Generated from ".toList := by decide
    have header : '[' :: ("workspace".toList ++ [']']) ++ ['\n'] = workspaceHeader := by decide
    have panes : ((entries.flatMap paneLines).flatMap fun line => line ++ ['\n']) = entries.flatMap paneText := by
      rw [List.flatMap_assoc]
      congr 1
      funext entry
      exact paneLines_text entry
    rw [List.flatMap_append, panes, topLines, List.flatMap_cons, List.flatMap_cons, List.flatMap_cons, List.flatMap_cons,
      header, stringLine_append, layoutKey_eq, projectText, comment]
    generalize " Generated from ".toList = start
    simp only [List.flatMap_nil, List.append_assoc, List.cons_append, List.nil_append, List.append_nil]
  · exact List.forall_mem_append.mpr ⟨forall_of_all (by decide), source.shown⟩
  · refine List.forall_mem_append.mpr ⟨topLines_lines _, fun line member => ?_⟩
    obtain ⟨entry, listed, member⟩ := List.mem_flatMap.mp member
    exact paneLines_lines (kept entry listed) line member

/-! ## Reading a line again -/

/-- What a name and a command are read back as they are with. -/
structure Plain (entry : String × String) : Prop where
  name : ∀ c ∈ entry.1.toList, c ≠ '"' ∧ c ≠ '\\' ∧ forbidden c = false
  command : Kept entry.2.toList

/-- Where nothing is set, what is read does not stand for the text. -/
def Unlike (read text : List Char) : Prop :=
  ∀ (out : String) (flag : Bool), EnvContext.expandWithSensitivity (String.ofList read) {} = .ok (out, flag) → out.toList ≠ text

theorem escaped_self {cs : List Char} (unquoted : '"' ∉ cs) : escaped cs = cs := by
  induction cs with
  | nil => rfl
  | cons c cs ih =>
      obtain ⟨first, rest⟩ := not_or.mp (mt List.mem_cons.mpr unquoted)
      rw [escaped, List.flatMap_cons, if_neg (Ne.symm first)]
      exact congrArg (c :: ·) (ih rest)

theorem length_escaped (cs : List Char) : (escaped cs).length = cs.length + cs.count '"' := by
  induction cs with
  | nil => rfl
  | cons c cs ih =>
      have split : escaped (c :: cs) = (if c = '"' then ['\\', '"'] else [c]) ++ escaped cs := rfl
      rw [split, List.length_append, ih, List.length_cons, List.count_cons]
      by_cases quote : c = '"'
      · subst quote
        simp only [if_true, List.length_cons, List.length_nil, beq_self_eq_true]
        omega
      · rw [if_neg quote, if_neg (by simpa using quote)]
        simp only [List.length_singleton]
        omega

theorem mem_escaped {c : Char} {cs : List Char} (member : c ∈ cs) : c ∈ escaped cs := by
  refine List.mem_flatMap.mpr ⟨c, member, ?_⟩
  split
  · rename_i quote
    rw [quote]
    decide
  · exact List.mem_singleton_self c

/-- The text of a string does not start with a quote. -/
theorem escaped_unopened {cs rest : List Char} (nonempty : cs ≠ []) :
    Text.stripPrefix ['"', '"', '"'] ('"' :: (escaped cs ++ rest)) = none := by
  cases cs with
  | nil => exact absurd rfl nonempty
  | cons c cs =>
      have first : ((if c = '"' then ['\\', '"'] else [c]) ++ escaped cs ++ rest).head? ≠ some '"' := by
        split
        · exact nofun
        · rename_i other
          exact fun same => other (Option.some.inj same)
      change Text.stripPrefix ['"', '"', '"'] ('"' :: ((if c = '"' then ['\\', '"'] else [c]) ++ escaped cs ++ rest)) = none
      generalize (if c = '"' then ['\\', '"'] else [c]) ++ escaped cs ++ rest = text at first
      cases stripped : Text.stripPrefix ['"', '"', '"'] ('"' :: text) with
      | none => rfl
      | some after =>
          obtain ⟨-, same⟩ := List.cons.inj (Text.stripPrefix_some stripped)
          rw [same] at first
          exact absurd rfl first

/-- An escaped text is read back. -/
theorem value_escaped {cs : List Char} (nonempty : cs ≠ []) (kept : Kept cs) (rest : List Char) :
    value ('"' :: (escaped cs ++ '"' :: rest)) = some (cs, rest) := by
  rw [value, escaped_unopened nonempty]
  change basic ((escaped cs ++ '"' :: rest).length + 1) (escaped cs ++ '"' :: rest) = _
  refine basic_escaped kept rest ?_
  rw [List.length_append, length_escaped]
  omega

/-- What is read before the end of the line. -/
theorem length_of_oneLine {text body after rest : List Char} (same : text ++ '"' :: '\n' :: rest = body ++ after)
    (oneLine : '\n' ∉ body) : body.length ≤ text.length + 1 := by
  by_contra longer
  have whole : (text ++ ['"']) ++ '\n' :: rest = body ++ after := by rw [← same, List.append_assoc]; rfl
  have front : body = (text ++ ['"']) ++ ('\n' :: rest).take (body.length - (text ++ ['"']).length) := by
    have taken := congrArg (List.take body.length) whole
    rw [List.take_left, List.take_append, List.take_of_length_le (by rw [List.length_append, List.length_singleton]; omega)] at taken
    exact taken.symm
  rw [List.length_append, List.length_singleton] at front
  obtain ⟨n, count⟩ := Nat.exists_eq_succ_of_ne_zero (Nat.ne_of_gt (by omega : 0 < body.length - (text.length + 1)))
  rw [count] at front
  refine oneLine (front ▸ List.mem_append_right _ ?_)
  exact List.mem_cons_self

/-- A string on one line that is closed within the line. -/
theorem basic_within {text rest value after : List Char} {fuel : Nat}
    (read : basic fuel (text ++ '"' :: '\n' :: rest) = some (value, after)) :
    weight value ≤ text.length ∧ (text.length ≤ weight value → ∀ c ∈ text, forbidden c = false) := by
  obtain ⟨body, same, light, allowed⟩ := basic_spec read
  have oneLine : '\n' ∉ body := fun member => nomatch allowed '\n' member
  have bound := length_of_oneLine same oneLine
  have inside : body.length ≤ text.length := by
    by_contra longer
    have length : (text ++ ['"']).length = body.length := by
      rw [List.length_append, List.length_singleton]
      omega
    have whole : (text ++ ['"']) ++ '\n' :: rest = body ++ '"' :: after := by rw [← same, List.append_assoc]; rfl
    have tail := (List.append_inj whole length).2
    nomatch (List.cons.inj tail).1
  refine ⟨light.trans inside, fun heavy => ?_⟩
  have equal : text.length = body.length := Nat.le_antisymm (heavy.trans light) inside
  rw [(List.append_inj same equal).1]
  exact allowed

section Read
variable {entry : String × String} (kept : Entry entry)
include kept

/-- A name that is not plain is not read back. -/
theorem name_unlike {rest read after : List Char}
    (found : value ('"' :: (entry.1.toList ++ '"' :: '\n' :: (commandKey ++ rest))) = some (read, after))
    (odd : ¬∀ c ∈ entry.1.toList, c ≠ '"' ∧ c ≠ '\\' ∧ forbidden c = false) : Unlike read entry.1.toList := by
  intro out flag expands same
  have shortened := EnvContext.expand_unset expands
  rw [String.toList_ofList, same] at shortened
  have oneLine : '\n' ∉ read := fun member => kept.nameLine (shortened.lineEnds member)
  have heavier := weight_sublist shortened.sublist
  have longer := shortened.sublist.length_le
  unfold value at found
  split at found
  · rename_i after' opened
    have quotes : entry.1.toList ++ '"' :: '\n' :: (commandKey ++ rest) = '"' :: '"' :: after' :=
      (List.cons.inj (Text.stripPrefix_some opened)).2
    cases name : entry.1.toList with
    | nil => exact kept.name name
    | cons c cs =>
        rw [name] at quotes longer
        have tail : cs ++ '"' :: '\n' :: (commandKey ++ rest) = '"' :: after' := (List.cons.inj quotes).2
        obtain rfl : c = '"' := (List.cons.inj quotes).1
        cases cs with
        | nil =>
            obtain rfl : '\n' :: (commandKey ++ rest) = after' := (List.cons.inj tail).2
            -- The string begins on the next line, with the key of the command.
            have started : ∃ more, read = 'c' :: more := by
              change (multiLine _ (commandKey ++ rest)) = some (read, after) at found
              obtain ⟨⟨more, after''⟩, -, equal⟩ := Option.map_eq_some_iff.mp found
              cases equal
              exact ⟨more, rfl⟩
            obtain ⟨more, rfl⟩ := started
            have first := EnvContext.expand_first {} (String.toList_ofList (l := 'c' :: more)) (by decide) expands
            rw [same, name] at first
            nomatch first
        | cons d cs =>
            obtain rfl : cs ++ '"' :: '\n' :: (commandKey ++ rest) = after' := (List.cons.inj tail).2
            have inLine : (cs ++ '"' :: '\n' :: (commandKey ++ rest)).head? ≠ some '\n' := by
              cases cs with
              | nil => exact nofun
              | cons e cs =>
                  intro same
                  refine kept.nameLine ?_
                  rw [name, ← Option.some.inj same]
                  exact List.mem_cons_of_mem _ (List.mem_cons_of_mem _ List.mem_cons_self)
            rw [if_neg inLine] at found
            obtain ⟨body, whole, shorter, lineless⟩ := multiLine_spec found oneLine
            have bound := length_of_oneLine whole lineless
            simp only [List.length_cons] at longer
            omega
  · obtain ⟨light, allowed⟩ := basic_within found
    have full : weight entry.1.toList ≤ entry.1.toList.length := heavier.trans light
    have counts : entry.1.toList.count '"' = 0 ∧ entry.1.toList.count '\\' = 0 := by
      unfold weight at full
      omega
    refine odd fun c member => ⟨?_, ?_, allowed ?_ c member⟩
    · rintro rfl
      exact List.count_eq_zero.mp counts.1 member
    · rintro rfl
      exact List.count_eq_zero.mp counts.2 member
    · refine Nat.le_trans ?_ heavier
      unfold weight
      omega

/-- A command that is not plain is not read back. -/
theorem command_unlike {rest read after : List Char}
    (found : value ('"' :: (escaped entry.2.toList ++ '"' :: '\n' :: rest)) = some (read, after))
    (odd : ¬Kept entry.2.toList) : Unlike read entry.2.toList := by
  intro out flag expands same
  have shortened := EnvContext.expand_unset expands
  rw [String.toList_ofList, same] at shortened
  have heavier := weight_sublist shortened.sublist
  rw [value, escaped_unopened kept.command] at found
  obtain ⟨light, allowed⟩ := basic_within found
  have length := length_escaped entry.2.toList
  have counts : entry.2.toList.count '\\' = 0 ∧ (escaped entry.2.toList).length ≤ weight read := by
    unfold weight at heavier light ⊢
    omega
  refine odd fun c member => ⟨?_, allowed counts.2 c (mem_escaped member)⟩
  rintro rfl
  exact List.count_eq_zero.mp counts.1 member

end Read

end Procfile

end Ezpn
