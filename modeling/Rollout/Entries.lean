/-!
Finite maps as lists of entries in ascending key order. The functions work on plain lists, so
that a type may contain maps of itself; `KeyMap` carries the order as a field and is what typed
records hold. Looking a key up after an insertion or a removal is stated beside each operation,
and no lookup law needs the order.
-/

namespace Rollout

universe u v

namespace Entries

variable {κ : Type u} {α : Type v}

/-- The value bound to `key` by the first entry that names it. -/
def find? [DecidableEq κ] (key : κ) : List (κ × α) → Option α
  | [] => none
  | (k, value) :: rest => if k = key then some value else find? key rest

/-- Binds `key` to `value`, in place when it is bound already and else before the first greater
key. -/
def insert [LT κ] [DecidableLT κ] [DecidableEq κ] (key : κ) (value : α) :
    List (κ × α) → List (κ × α)
  | [] => [(key, value)]
  | (k, old) :: rest =>
    if key = k then (key, value) :: rest
    else if key < k then (key, value) :: (k, old) :: rest
    else (k, old) :: insert key value rest

/-- Drops every entry of `key`. -/
def erase [DecidableEq κ] (key : κ) (entries : List (κ × α)) : List (κ × α) :=
  entries.filter (·.1 ≠ key)

/-- The map of a list in which later entries overrule earlier ones. -/
def ofList [LT κ] [DecidableLT κ] [DecidableEq κ] (entries : List (κ × α)) : List (κ × α) :=
  entries.foldl (fun map entry => insert entry.1 entry.2 map) []

/-- Binds `key` to `value` joined with what it is bound to already. -/
def insertWith [LT κ] [DecidableLT κ] [DecidableEq κ] (join : α → α → α)
    (map : List (κ × α)) (entry : κ × α) : List (κ × α) :=
  match find? entry.1 map with
  | some mine => insert entry.1 (join mine entry.2) map
  | none => insert entry.1 entry.2 map

/-- Adds the entries of a second map one after another; a key of both keeps the first value joined
with the second. -/
def mergeWith [LT κ] [DecidableLT κ] [DecidableEq κ] (join : α → α → α)
    (map others : List (κ × α)) : List (κ × α) :=
  others.foldl (insertWith join) map

@[simp] theorem find?_nil [DecidableEq κ] (key : κ) : find? key ([] : List (κ × α)) = none := rfl

@[simp] theorem find?_cons [DecidableEq κ] (key : κ) (entry : κ × α) (rest : List (κ × α)) :
    find? key (entry :: rest) = if entry.1 = key then some entry.2 else find? key rest := rfl

@[simp] theorem find?_insert_self [LT κ] [DecidableLT κ] [DecidableEq κ] (key : κ) (value : α)
    (map : List (κ × α)) : find? key (insert key value map) = some value := by
  induction map with
  | nil => simp [insert]
  | cons entry rest ih =>
      obtain ⟨k, old⟩ := entry
      simp only [insert]
      split
      · simp
      · next hne =>
          split
          · simp
          · simp [Ne.symm hne, ih]

theorem find?_insert_of_ne [LT κ] [DecidableLT κ] [DecidableEq κ] {key other : κ} (value : α)
    (map : List (κ × α)) (hne : key ≠ other) :
    find? other (insert key value map) = find? other map := by
  induction map with
  | nil => simp [insert, hne]
  | cons entry rest ih =>
      obtain ⟨k, old⟩ := entry
      simp only [insert]
      split
      · next heq =>
          subst heq
          simp [hne]
      · split
        · simp [hne]
        · simp [ih]

@[simp] theorem find?_erase_self [DecidableEq κ] (key : κ) (map : List (κ × α)) :
    find? key (erase key map) = none := by
  induction map with
  | nil => rfl
  | cons entry rest ih =>
      by_cases heq : entry.1 = key
      · simpa [erase, heq] using ih
      · simpa [erase, heq] using ih

theorem find?_erase_of_ne [DecidableEq κ] {key other : κ} (map : List (κ × α))
    (hne : key ≠ other) : find? other (erase key map) = find? other map := by
  induction map with
  | nil => rfl
  | cons entry rest ih =>
      by_cases heq : entry.1 = key
      · have hother : entry.1 ≠ other := fun h => hne (heq ▸ h)
        simpa [erase, heq, hother, hne] using ih
      · rw [erase, List.filter_cons_of_pos (by simpa using heq)]
        exact congrArg (fun later => if entry.1 = other then some entry.2 else later) ih

/-- Ascending order of the keys, which makes each key occur once. -/
def Ordered [LT κ] (entries : List (κ × α)) : Prop :=
  entries.Pairwise (fun first second => first.1 < second.1)

theorem mem_insert [LT κ] [DecidableLT κ] [DecidableEq κ] {key : κ} {value : α} {entry : κ × α}
    {map : List (κ × α)} (hmem : entry ∈ insert key value map) :
    entry = (key, value) ∨ entry ∈ map := by
  induction map with
  | nil => simpa [insert] using hmem
  | cons head rest ih =>
      obtain ⟨k, old⟩ := head
      simp only [insert] at hmem
      split at hmem
      · rcases List.mem_cons.mp hmem with hhere | hlater
        · exact .inl hhere
        · exact .inr (List.mem_cons_of_mem _ hlater)
      · split at hmem
        · rcases List.mem_cons.mp hmem with hhere | hlater
          · exact .inl hhere
          · exact .inr hlater
        · rcases List.mem_cons.mp hmem with hhere | hlater
          · exact .inr (hhere ▸ List.mem_cons_self)
          · exact (ih hlater).imp id (List.mem_cons_of_mem _)

theorem Ordered.erase [LT κ] [DecidableEq κ] {map : List (κ × α)} (hordered : Ordered map)
    (key : κ) : Ordered (erase key map) :=
  List.Pairwise.filter _ hordered

section Linear

variable [LE κ] [LT κ] [DecidableLT κ] [DecidableEq κ] [Std.IsLinearOrder κ] [Std.LawfulOrderLT κ]

theorem Ordered.insert {map : List (κ × α)} (hordered : Ordered map) (key : κ)
    (value : α) : Ordered (insert key value map) := by
  induction map with
  | nil => simp [Entries.insert, Ordered]
  | cons head rest ih =>
      obtain ⟨k, old⟩ := head
      have hbelow : ∀ entry ∈ rest, k < entry.1 := (List.pairwise_cons.mp hordered).1
      have hrest : Ordered rest := (List.pairwise_cons.mp hordered).2
      simp only [Entries.insert]
      split
      · next heq =>
          subst heq
          exact List.pairwise_cons.mpr ⟨hbelow, hrest⟩
      · next hne =>
          split
          · next hless =>
              refine List.pairwise_cons.mpr ⟨fun entry hmem => ?_, hordered⟩
              rcases List.mem_cons.mp hmem with hhere | hlater
              · exact hhere ▸ hless
              · exact Std.lt_trans hless (hbelow entry hlater)
          · next hnot =>
              refine List.pairwise_cons.mpr ⟨fun entry hmem => ?_, ih hrest⟩
              rcases mem_insert hmem with hhere | hlater
              · subst hhere
                have hle : k ≤ key := Std.not_lt.mp hnot
                apply Decidable.byContradiction
                intro hnotAbove
                exact hne (Std.le_antisymm (Std.not_lt.mp hnotAbove) hle)
              · exact hbelow entry hlater

theorem ordered_foldl_insert (entries : List (κ × α)) {map : List (κ × α)}
    (hordered : Ordered map) :
    Ordered (entries.foldl (fun map entry => Entries.insert entry.1 entry.2 map) map) := by
  induction entries generalizing map with
  | nil => exact hordered
  | cons entry rest ih => exact ih (hordered.insert entry.1 entry.2)

theorem ordered_ofList (entries : List (κ × α)) : Ordered (ofList entries) :=
  ordered_foldl_insert entries List.Pairwise.nil

theorem Ordered.insertWith (join : α → α → α) {map : List (κ × α)} (hordered : Ordered map)
    (entry : κ × α) : Ordered (insertWith join map entry) := by
  unfold Entries.insertWith
  split <;> exact hordered.insert _ _

theorem Ordered.mergeWith (join : α → α → α) {map : List (κ × α)} (hordered : Ordered map)
    (others : List (κ × α)) : Ordered (mergeWith join map others) := by
  induction others generalizing map with
  | nil => exact hordered
  | cons entry rest ih => exact ih (hordered.insertWith join entry)

end Linear

end Entries

/-- A map with text keys, its entries in ascending key order. -/
structure KeyMap (α : Type u) where
  entries : List (String × α)
  ordered : Entries.Ordered entries

namespace KeyMap

variable {α : Type u}

instance [DecidableEq α] : DecidableEq (KeyMap α) := fun a b =>
  decidable_of_iff (a.entries = b.entries)
    ⟨fun heq => by cases a; cases b; cases heq; rfl, fun heq => heq ▸ rfl⟩

theorem ext {a b : KeyMap α} (heq : a.entries = b.entries) : a = b := by
  cases a; cases b; cases heq; rfl

def empty : KeyMap α := ⟨[], List.Pairwise.nil⟩

instance : Inhabited (KeyMap α) := ⟨empty⟩

def isEmpty (map : KeyMap α) : Bool := map.entries.isEmpty

def find? (map : KeyMap α) (key : String) : Option α := Entries.find? key map.entries

def insert (map : KeyMap α) (key : String) (value : α) : KeyMap α :=
  ⟨Entries.insert key value map.entries, map.ordered.insert key value⟩

def erase (map : KeyMap α) (key : String) : KeyMap α :=
  ⟨Entries.erase key map.entries, map.ordered.erase key⟩

/-- The map of a list in which later entries overrule earlier ones. -/
def ofList (entries : List (String × α)) : KeyMap α :=
  ⟨Entries.ofList entries, Entries.ordered_ofList entries⟩

/-- The union of two maps; a key of both keeps the first value joined with the second. -/
def mergeWith (join : α → α → α) (map other : KeyMap α) : KeyMap α :=
  ⟨Entries.mergeWith join map.entries other.entries, map.ordered.mergeWith join _⟩

@[simp] theorem find?_insert_self (map : KeyMap α) (key : String) (value : α) :
    (map.insert key value).find? key = some value :=
  Entries.find?_insert_self key value map.entries

theorem find?_insert_of_ne (map : KeyMap α) {key other : String} (value : α)
    (hne : key ≠ other) : (map.insert key value).find? other = map.find? other :=
  Entries.find?_insert_of_ne value map.entries hne

end KeyMap

end Rollout
