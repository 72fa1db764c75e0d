import Rollout.Entries

/-!
Layers of settings. Merging puts a tight layer over a loose one: a setting of the tight layer wins,
and a setting that it leaves open is taken from the loose one. Optional settings are taken as a
whole, maps are merged key by key, and records field by field.
-/

namespace Rollout

universe u

class Merge (α : Type u) where
  /-- The tight layer completed by the loose one. -/
  merge : α → α → α

/-- The tight layer completed by the loose one. -/
abbrev merge {α : Type u} [Merge α] (tight loose : α) : α := Merge.merge tight loose

namespace Merge

variable {α : Type u}

/-- A setting is open or set; what is set is one value, whatever it is made of. -/
instance : Merge (Option α) := ⟨fun tight loose => tight.or loose⟩

instance [Merge α] : Merge (KeyMap α) := ⟨KeyMap.mergeWith merge⟩

/-- What a list of layers, tightest first, comes to after each layer. -/
def scan [Merge α] (tightest : α) : List α → List α
  | [] => [tightest]
  | next :: rest => tightest :: scan (merge tightest next) rest

/-- What a list of layers, tightest first, comes to. -/
def all [Merge α] (tightest : α) (looser : List α) : α := looser.foldl merge tightest

end Merge

end Rollout
