import Ezpn.Terminal.Vt100

/-!
# Keyboard flags, one stack a screen

The reference for the Kitty keyboard protocol: a bounded stack of flags for each
of the two screens, and operations that act on the stack of the screen in use.
-/

set_option autoImplicit false

namespace Ezpn

/-- Flags of which nothing unsupported is set. -/
def KittyFlags : Type := { flags : UInt8 // flags &&& kittySupported = flags }

namespace KittyFlags

def none : KittyFlags := ⟨0, by decide⟩

def mask (flags : UInt8) : KittyFlags :=
  ⟨flags &&& kittySupported, by rw [UInt8.and_assoc, UInt8.and_self]⟩

theorem or_and (left right flags : UInt8) : (left ||| right) &&& flags = left &&& flags ||| right &&& flags := by
  apply UInt8.toBitVec_inj.1
  ext i
  simp only [UInt8.toBitVec_and, UInt8.toBitVec_or, BitVec.getElem_and, BitVec.getElem_or, Bool.and_or_distrib_right]

def union (left right : KittyFlags) : KittyFlags :=
  ⟨left.1 ||| right.1, by rw [or_and, left.2, right.2]⟩

def without (left right : KittyFlags) : KittyFlags :=
  ⟨left.1 &&& ~~~right.1, by rw [UInt8.and_assoc, UInt8.and_comm (~~~right.1), ← UInt8.and_assoc, left.2]⟩

/-- Every supported flag is a flag. -/
theorem and_all (flags : KittyFlags) : flags.1 &&& KittyKbdStack.all = flags.1 := by
  have within : kittySupported &&& KittyKbdStack.all = kittySupported := by decide
  rw [← flags.2, UInt8.and_assoc, within]

end KittyFlags

/-- Entries from the bottom up. -/
structure FlagStack where
  entries : List KittyFlags
  bounded : entries.length ≤ 32

namespace FlagStack

def empty : FlagStack := ⟨[], Nat.zero_le _⟩

def active (stack : FlagStack) : KittyFlags := stack.entries.getLast?.getD .none

/-- The newest 32 entries. -/
def newest (entries : List KittyFlags) : FlagStack :=
  ⟨entries.drop (entries.length - 32), by rw [List.length_drop]; omega⟩

def push (stack : FlagStack) (flags : KittyFlags) : FlagStack := newest (stack.entries ++ [flags])

def pop (stack : FlagStack) (n : Nat) : FlagStack :=
  ⟨stack.entries.take (stack.entries.length - n), (List.length_take_le' _ _).trans stack.bounded⟩

/-- Replace the top; an empty stack gains one. -/
def setTop (stack : FlagStack) (flags : KittyFlags) : FlagStack :=
  ⟨stack.entries.dropLast ++ [flags], by
    have bounded := stack.bounded
    rw [List.length_append, List.length_dropLast, List.length_singleton]
    omega⟩

end FlagStack

/-! ## Operations -/

inductive KeyOp where
  | push (flags : KittyFlags)
  | pop (n : Nat)
  | set (flags : KittyFlags)
  | add (flags : KittyFlags)
  | remove (flags : KittyFlags)
  | query

def FlagStack.apply (stack : FlagStack) : KeyOp → FlagStack
  | .push flags => stack.push flags
  | .pop n => stack.pop n
  | .set flags => stack.setTop flags
  | .add flags => stack.setTop (stack.active.union flags)
  | .remove flags => stack.setTop (stack.active.without flags)
  | .query => stack

/-- `CSI body u` -/
def readKeyOp : Bytes → Option KeyOp
  | [] => none
  | sigil :: rest =>
      if sigil = 0x3E then (parseDefault rest 0).map fun flags => .push (.mask (UInt8.ofNat flags))
      else if sigil = 0x3C then (parseDefault rest 1).map fun n => .pop (max n 1)
      else if sigil = 0x3D then
        let parts := rest.splitOn 0x3B
        match parseDefault (parts.headD []) 0, parseDefault (parts.getD 1 []) 1 with
        | some flags, some mode =>
            let flags := KittyFlags.mask (UInt8.ofNat flags)
            if parts.length > 2 then none
            else if mode = 1 then some (.set flags)
            else if mode = 2 then some (.add flags)
            else if mode = 3 then some (.remove flags)
            else none
        | _, _ => none
      else if sigil = 0x3F && rest.isEmpty then some .query
      else none

/-! ## Both screens -/

structure Keyboard where
  main : FlagStack := .empty
  alternate : FlagStack := .empty

namespace Keyboard

def stack (keyboard : Keyboard) (alternate : Bool) : FlagStack :=
  if alternate then keyboard.alternate else keyboard.main

def active (keyboard : Keyboard) (alternate : Bool) : UInt8 := (keyboard.stack alternate).active.1

def apply (keyboard : Keyboard) (alternate : Bool) (op : KeyOp) : Keyboard :=
  if alternate then { keyboard with alternate := keyboard.alternate.apply op }
  else { keyboard with main := keyboard.main.apply op }

theorem stack_apply_same (keyboard : Keyboard) (alternate : Bool) (op : KeyOp) :
    (keyboard.apply alternate op).stack alternate = (keyboard.stack alternate).apply op := by
  cases alternate <;> rfl

theorem stack_apply_other (keyboard : Keyboard) (alternate : Bool) (op : KeyOp) :
    (keyboard.apply alternate op).stack (!alternate) = keyboard.stack (!alternate) := by
  cases alternate <;> rfl

end Keyboard

/-! ## The interceptor's stack -/

/-- The interceptor keeps the same flags in the same order. -/
def KittyKbdStack.Shows (code : KittyKbdStack) (stack : FlagStack) : Prop := code.entries = stack.entries.map (·.1)

namespace KittyKbdStack.Shows
variable {code : KittyKbdStack} {stack : FlagStack}

theorem length (shows : code.Shows stack) : code.entries.length = stack.entries.length := by
  rw [shows, List.length_map]

theorem active (shows : code.Shows stack) : code.active = stack.active.1 := by
  rw [KittyKbdStack.active, shows, List.getLast?_map, FlagStack.active]
  cases stack.entries.getLast? <;> rfl

theorem push (shows : code.Shows stack) (flags : KittyFlags) : (code.push flags.1).Shows (stack.push flags) := by
  have bounded := stack.bounded
  have length := shows.length
  have room : KittyKbdStack.maxDepth = 32 := rfl
  unfold KittyKbdStack.Shows KittyKbdStack.push FlagStack.push FlagStack.newest
  dsimp only
  rw [List.length_append, List.length_singleton]
  split
  · next full =>
      have one : stack.entries.length + 1 - 32 = 1 := by omega
      rw [one, List.drop_append_of_le_length (by omega), List.map_append, List.map_drop, shows]
      rfl
  · next spare =>
      have none : stack.entries.length + 1 - 32 = 0 := by omega
      rw [none, List.drop_zero, List.map_append, shows]
      rfl

theorem pop (shows : code.Shows stack) (n : Nat) : (code.pop n).Shows (stack.pop (max n 1)) := by
  simp only [KittyKbdStack.Shows, KittyKbdStack.pop, FlagStack.pop, shows.length, List.map_take]
  rw [shows]

theorem setTop (shows : code.Shows stack) {flags : KittyFlags} {top : UInt8} (same : top = flags.1) :
    KittyKbdStack.Shows ⟨(if code.entries.isEmpty then [0] else code.entries).dropLast ++ [top]⟩
      (stack.setTop flags) := by
  simp only [KittyKbdStack.Shows, FlagStack.setTop, List.map_append, List.map_dropLast, List.map_singleton, same]
  rw [← shows]
  cases entries : code.entries with
  | nil => rfl
  | cons _ _ => rfl

/-- The top that `modify_top` starts from. -/
theorem top (shows : code.Shows stack) :
    (if code.entries.isEmpty then [0] else code.entries).getLast?.getD 0 = stack.active.1 := by
  rw [← shows.active, KittyKbdStack.active]
  cases code.entries with
  | nil => rfl
  | cons _ _ => rfl

theorem modifySet (shows : code.Shows stack) (flags : KittyFlags) :
    (code.modifyTop flags.1 1).Shows (stack.setTop flags) := shows.setTop rfl

theorem modifyAdd (shows : code.Shows stack) (flags : KittyFlags) :
    (code.modifyTop flags.1 2).Shows (stack.setTop (stack.active.union flags)) :=
  shows.setTop (by rw [shows.top]; rfl)

theorem modifyRemove (shows : code.Shows stack) (flags : KittyFlags) :
    (code.modifyTop flags.1 3).Shows (stack.setTop (stack.active.without flags)) :=
  shows.setTop (by rw [shows.top]; rfl)

end KittyKbdStack.Shows

/-- Other modes are ignored. -/
theorem KittyKbdStack.modifyTop_ignored {mode : Nat} (ignored : mode ≠ 1 ∧ mode ≠ 2 ∧ mode ≠ 3)
    (code : KittyKbdStack) (flags : UInt8) : code.modifyTop flags mode = code := by
  have outside : (mode < 1 || mode > 3) = true := by
    rw [Bool.or_eq_true, decide_eq_true_eq, decide_eq_true_eq]
    omega
  rw [modifyTop, if_pos outside]

end Ezpn
