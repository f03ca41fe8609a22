import Ezpn.Server.Panes

/-!
# Clipboard policies

A spawned pane has the default policy until the loop, meeting it as new in the
active tab, gives it the configured one. Reading, drawing and saving leave the
policies alone.
-/

set_option autoImplicit false

namespace Ezpn

def Pane.SamePolicy {G : Type} (pane later : Pane G) : Prop := later.clipboardPolicy = pane.clipboardPolicy

theorem Pane.SamePolicy.refl {G : Type} (pane : Pane G) : pane.SamePolicy pane := rfl

theorem Pane.SamePolicy.trans {G : Type} (a b c : Pane G) (first : a.SamePolicy b) (second : b.SamePolicy c) :
    a.SamePolicy c := Eq.trans second first

/-- The panes of the listed places may be spawned ones; every other keeps the policy it had. -/
def PaneMap.Respawned {G : Type} (fresh : List Nat) (before after : PaneMap G) : Prop :=
  ∀ (id : Nat) (pane : Pane G), after[id]? = some pane →
    (id ∈ fresh ∧ pane.clipboardPolicy = {}) ∨ ∃ old, before[id]? = some old ∧ old.SamePolicy pane

section Panes
variable {R G : Type} [RatioOps R] [Vt100 G] {panes before after : PaneMap G} {fresh : List Nat}

omit [RatioOps R] [Vt100 G] in
theorem PaneMap.Evolve.respawned (evolve : PaneMap.Evolve Pane.SamePolicy before after) :
    PaneMap.Respawned fresh before after := fun id pane found => .inr (evolve id pane found)

omit [RatioOps R] [Vt100 G] in
theorem PaneMap.Respawned.evolve (respawned : PaneMap.Respawned fresh panes before)
    (evolve : PaneMap.Evolve Pane.SamePolicy before after) : PaneMap.Respawned fresh panes after := by
  intro id pane found
  obtain ⟨between, there, same⟩ := evolve id pane found
  rcases respawned id between there with ⟨member, policy⟩ | ⟨old, had, earlier⟩
  · exact .inl ⟨member, Eq.trans same policy⟩
  · exact .inr ⟨old, had, .trans old between pane earlier same⟩

omit [RatioOps R] [Vt100 G] in
theorem PaneMap.Respawned.insert (respawned : PaneMap.Respawned fresh panes before) {id : Nat} {pane : Pane G}
    (policy : pane.clipboardPolicy = {}) (member : id ∈ fresh) :
    PaneMap.Respawned fresh panes (Std.ExtTreeMap.insert before id pane) := by
  intro other found here
  rw [IdMap.getElem?_insert] at here
  split at here
  · rename_i same
    cases here
    exact .inl ⟨same ▸ member, policy⟩
  · exact respawned other found here

omit [RatioOps R] [Vt100 G] in
theorem PaneMap.Respawned.mono {wider : List Nat} (respawned : PaneMap.Respawned fresh before after)
    (sub : ∀ id ∈ fresh, id ∈ wider) : PaneMap.Respawned wider before after :=
  fun id pane found => (respawned id pane found).imp_left fun new => ⟨sub id new.1, new.2⟩

end Panes

namespace Core
variable {R G : Type} [RatioOps R] [Vt100 G]

end Core

end Ezpn
