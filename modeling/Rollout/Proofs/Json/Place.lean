import Rollout.Json
import Rollout.Proofs.Entries

/-!
Places in JSON values, inside arrays as well as inside objects, where a null is a value like any
other. Replacing the value at a path changes nothing at the places that are neither on the way to it
nor below it.
-/

namespace Rollout.Json

inductive Step where
  | key (name : String)
  | index (position : Nat)
deriving DecidableEq

/-- The items of an array. -/
def itemsOf : Json → List Json
  | .array items => items
  | _ => []

/-- The value at a place. -/
def at? : List Step → Json → Option Json
  | [], value => some value
  | .key name :: rest, value => (value.field? name).bind (at? rest)
  | .index position :: rest, value => (itemsOf value)[position]?.bind (at? rest)

/-- The place that a path of keys leads to. -/
def place (path : List String) : List Step := path.map .key

/-- Neither of two places lies on the way to the other or is the other. -/
def Apart (first second : List Step) : Prop := ¬ first <+: second ∧ ¬ second <+: first

instance (first second : List Step) : Decidable (Apart first second) :=
  inferInstanceAs (Decidable (_ ∧ _))

theorem Apart.of_cons {step : Step} {first second : List Step}
    (hapart : Apart (step :: first) (step :: second)) : Apart first second := by
  obtain ⟨hfirst, hsecond⟩ := hapart
  exact ⟨fun h => hfirst (List.cons_prefix_cons.mpr ⟨rfl, h⟩),
    fun h => hsecond (List.cons_prefix_cons.mpr ⟨rfl, h⟩)⟩

/-- Making the objects on the way to a path does not show at a place inside of them. -/
theorem at?_orObject {rest : List Step} (hne : rest ≠ []) (value : Option Json) :
    at? rest (orObject value) = value.bind (at? rest) := by
  cases rest with
  | nil => exact absurd rfl hne
  | cons step rest =>
      cases value with
      | none => cases step <;> rfl
      | some value => cases value <;> cases step <;> rfl

theorem field?_object (name : String) (entries : List (String × Json)) :
    (Json.object entries).field? name = Entries.find? name entries := rfl

theorem at?_key (name : String) (entries : List (String × Json)) :
    at? [.key name] (.object entries) = Entries.find? name entries := by
  cases hfind : Entries.find? name entries <;> simp [at?, field?_object, hfind]

theorem replace_last (value : Option Json) (key : String) (entries : List (String × Json)) :
    replace value [key] (.object entries) = .object (Entries.put key value entries) := by
  cases value <;> rfl

theorem replace_next (value : Option Json) (key next : String) (rest : List String)
    (entries : List (String × Json)) :
    replace value (key :: next :: rest) (.object entries) =
      .object (Entries.insert key
        (replace value (next :: rest) (orObject (Entries.find? key entries))) entries) := rfl

theorem at?_key_put {key name : String} (hne : key ≠ name) (value : Option Json)
    (rest : List Step) (entries : List (String × Json)) :
    at? (.key name :: rest) (.object (Entries.put key value entries)) =
      at? (.key name :: rest) (.object entries) := by
  simp only [at?, field?_object, Entries.find?_put_of_ne value entries hne]

/-- An object with its value under one key replaced, at that key or further below. -/
theorem replace_object (value : Option Json) (key : String) (rest : List String)
    (entries : List (String × Json)) : ∃ inner,
      replace value (key :: rest) (.object entries) = .object (Entries.put key inner entries) := by
  cases rest with
  | nil => exact ⟨value, replace_last value key entries⟩
  | cons next rest => exact ⟨some _, replace_next value key next rest entries⟩

theorem exists_entries_of_isObject {root : Json} (hroot : root.isObject = true) :
    ∃ entries, root = .object entries := by
  cases root with
  | object entries => exact ⟨entries, rfl⟩
  | _ => cases hroot

theorem isObject_replace {root : Json} (hroot : root.isObject = true) (value : Option Json)
    (path : List String) : (replace value path root).isObject = true := by
  obtain ⟨entries, rfl⟩ := exists_entries_of_isObject hroot
  cases path with
  | nil => rfl
  | cons key rest =>
      obtain ⟨inner, hinner⟩ := replace_object value key rest entries
      rw [hinner]
      rfl

theorem replace_of_not_object {root : Json} (hroot : root.isObject = false)
    (value : Option Json) (path : List String) : replace value path root = root := by
  cases root with
  | object entries => cases hroot
  | _ =>
      cases path with
      | nil => rfl
      | cons key rest => cases rest <;> rfl

theorem at?_replace {path : List String} {site : List Step} (hapart : Apart (place path) site)
    (value : Option Json) (root : Json) : at? site (replace value path root) = at? site root := by
  induction path generalizing site root with
  | nil => exact absurd List.nil_prefix hapart.1
  | cons key rest ih =>
      by_cases hroot : root.isObject
      case neg => rw [replace_of_not_object (by simpa using hroot)]
      obtain ⟨entries, rfl⟩ := exists_entries_of_isObject hroot
      obtain ⟨inner, hinner⟩ := replace_object value key rest entries
      cases site with
      | nil => exact absurd List.nil_prefix hapart.2
      | cons step site =>
          cases step with
          | index position =>
              rw [hinner]
              rfl
          | key name =>
              by_cases heq : key = name
              case neg => rw [hinner, at?_key_put heq]
              subst heq
              have hbelow : Apart (place rest) site := hapart.of_cons
              cases rest with
              | nil => exact absurd List.nil_prefix hbelow.1
              | cons next rest =>
                  have hne : site ≠ [] := fun hnil => hbelow.2 (hnil ▸ List.nil_prefix)
                  rw [replace_next]
                  simp only [at?, field?_object, Entries.find?_insert_self, Option.bind_some]
                  rw [ih hbelow, at?_orObject hne]

/-! ### Values that texts denote -/

theorem exists_entries_of_canonical? {depth : Nat} {text : Json} {entries : List (String × Json)}
    (hread : canonical? depth text = some (.object entries)) : ∃ inner raw read,
      canonicalEntries? inner raw = some read ∧ entries = Entries.ofList read := by
  cases text with
  | object raw =>
      unfold canonical? at hread
      split at hread
      · cases hread
      · obtain ⟨read, hentries, heq⟩ := Option.map_eq_some_iff.mp hread
        cases heq
        exact ⟨_, raw, read, hentries, rfl⟩
  | array items =>
      unfold canonical? at hread
      split at hread
      · cases hread
      · obtain ⟨_, -, heq⟩ := Option.map_eq_some_iff.mp hread
        cases heq
  | _ => simp [canonical?] at hread

/-- The objects of a text that has been read hold each key once, in order. -/
theorem ordered_of_canonical? {depth : Nat} {text : Json} {entries : List (String × Json)}
    (hread : canonical? depth text = some (.object entries)) : Entries.Ordered entries := by
  obtain ⟨_, _, read, -, rfl⟩ := exists_entries_of_canonical? hread
  exact Entries.ordered_ofList read

theorem exists_canonical?_of_mem {depth : Nat} {raw read : List (String × Json)}
    (hread : canonicalEntries? depth raw = some read) {entry : String × Json}
    (hmem : entry ∈ read) : ∃ text, canonical? depth text = some entry.2 := by
  induction raw generalizing read with
  | nil =>
      simp only [canonicalEntries?, Option.some.injEq] at hread
      rw [← hread] at hmem
      cases hmem
  | cons first rest ih =>
      obtain ⟨key, value⟩ := first
      simp only [canonicalEntries?, Option.bind_eq_bind, Option.bind_eq_some_iff,
        Option.pure_def, Option.some.injEq] at hread
      obtain ⟨head, hhead, others, hothers, rfl⟩ := hread
      rcases List.mem_cons.mp hmem with rfl | hlater
      · exact ⟨value, hhead⟩
      · exact ih hothers hlater

/-- What stands under a key of a text that has been read, has been read itself. -/
theorem exists_canonical?_of_find? {depth : Nat} {text value : Json} {key : String}
    {entries : List (String × Json)} (hread : canonical? depth text = some (.object entries))
    (hfind : Entries.find? key entries = some value) :
    ∃ depth text, canonical? depth text = some value := by
  obtain ⟨inner, _, read, hentries, rfl⟩ := exists_entries_of_canonical? hread
  rw [Entries.find?_ofList] at hfind
  have hmem := List.mem_reverse.mp (Entries.mem_of_find? hfind)
  exact ⟨inner, exists_canonical?_of_mem hentries hmem⟩

end Rollout.Json
