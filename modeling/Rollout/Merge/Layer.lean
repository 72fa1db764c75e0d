import Rollout.Merge

/-!
Layers of any shape: settings that are open or set, records of layers by position, and maps of
layers, which may nest in themselves to any depth. This is the merge of every typed layer, seen
through the shape that its type has. The keys of maps and what settings are set to may be of any
type.
-/

namespace Rollout

/-- What an optional setting is set to. -/
inductive Setting where
  | bool (value : Bool)
  | integer (value : Int)
  | text (value : String)
  | texts (value : List (String × String))
deriving DecidableEq

inductive Layer (κ : Type := String) (σ : Type := Setting) where
  | setting (value : Option σ)
  | record (members : List (Layer κ σ))
  | map (entries : List (κ × Layer κ σ))

namespace Layer

variable {κ σ : Type}

instance : Inhabited (Layer κ σ) := ⟨.setting none⟩

/-- The layer that leaves a setting open. -/
def unset : Layer κ σ := .setting none

variable [LT κ] [DecidableLT κ] [DecidableEq κ]

mutual

/-- The tight layer completed by a loose one of the same shape. -/
def merge : Layer κ σ → Layer κ σ → Layer κ σ
  | .setting tight, .setting loose => .setting (tight.or loose)
  | .record tight, .record loose => .record (mergeMembers tight loose)
  | .map tight, .map loose => .map (mergeEntries tight loose)
  | tight, _ => tight

def mergeMembers : List (Layer κ σ) → List (Layer κ σ) → List (Layer κ σ)
  | tight :: tights, loose :: looses => merge tight loose :: mergeMembers tights looses
  | tights, _ => tights

/-- Adds the entries of a loose map one after another. -/
def mergeEntries (tight : List (κ × Layer κ σ)) : List (κ × Layer κ σ) → List (κ × Layer κ σ)
  | [] => tight
  | (key, loose) :: rest =>
    match Entries.find? key tight with
    | some mine => mergeEntries (Entries.insert key (merge mine loose) tight) rest
    | none => mergeEntries (Entries.insert key loose tight) rest

end

instance : Merge (Layer κ σ) := ⟨Layer.merge⟩

end Layer

end Rollout
