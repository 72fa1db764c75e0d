import Mathlib.Data.List.Nodup
import Rollout.Merge

/-!
Maps of any kind, merged. A kind of map is known by how keys are looked up in it and how they are
bound. The loose map is taken entry by entry, in whatever order its kind lists them, and the tight
map, which grows on the way, is asked anew for each entry.
-/

namespace Rollout

universe u v w

/-- A kind of map, by what a key is bound to in it and how it is bound. -/
structure MapKind (κ : Type u) (α : Type v) (μ : Type w) where
  find? : κ → μ → Option α
  insert : κ → α → μ → μ

namespace MapKind

variable {κ : Type u} {α : Type v} {μ : Type w}

/-- Binds a key to a value joined with what it is bound to already. -/
def insertWith (kind : MapKind κ α μ) (join : α → α → α) (map : μ) (entry : κ × α) : μ :=
  match kind.find? entry.1 map with
  | some mine => kind.insert entry.1 (join mine entry.2) map
  | none => kind.insert entry.1 entry.2 map

/-- Adds the entries of a second map one after another, as they are listed. -/
def mergeListed (kind : MapKind κ α μ) (join : α → α → α) (map : μ) (listing : List (κ × α)) : μ :=
  listing.foldl (kind.insertWith join) map

/-- Maps that keep their keys in ascending order, as lists of entries. -/
def ordered [LT κ] [DecidableLT κ] [DecidableEq κ] : MapKind κ α (List (κ × α)) where
  find? := Entries.find?
  insert := Entries.insert

/-- Maps that keep their keys by hash and list them in no order to rely on. -/
def hashed [BEq κ] [Hashable κ] : MapKind κ α (Std.HashMap κ α) where
  find? key map := map[key]?
  insert key value map := map.insert key value

end MapKind

instance {κ : Type u} {α : Type v} [BEq κ] [Hashable κ] [Merge α] : Merge (Std.HashMap κ α) :=
  ⟨fun tight loose => MapKind.hashed.mergeListed merge tight loose.toList⟩

end Rollout
