import Rollout.Proofs.Json.Place

/-!
Looking up and replacing at a path are the two halves of a lens. What was put at a path is found
there, at paths that do not meet it nothing changes, only the last of several replacements counts,
and putting back what was found changes nothing. Missing and null values on the way are made into
objects, which shows at no other path.
-/

namespace Rollout.Json

open Entries (Ordered find? put)

/-! ### Values with ordered keys -/

/-- Each object in a value, wherever it stands, holds its keys once and in order. -/
def HasOrderedKeys (root : Json) : Prop :=
  ∀ site entries, at? site root = some (.object entries) → Ordered entries

theorem hasOrderedKeys_object {entries : List (String × Json)} :
    HasOrderedKeys (.object entries) ↔ Ordered entries ∧
      ∀ key value, find? key entries = some value → value.HasOrderedKeys := by
  constructor
  · intro hordered
    refine ⟨hordered [] entries rfl, fun key value hfind site inner hinner => ?_⟩
    apply hordered (.key key :: site)
    simp [at?, field?_object, hfind, hinner]
  · rintro ⟨hhere, hbelow⟩ site inner hinner
    cases site with
    | nil =>
        cases hinner
        exact hhere
    | cons step rest =>
        cases step with
        | key name =>
            obtain ⟨value, hfind, hvalue⟩ := Option.bind_eq_some_iff.mp hinner
            exact hbelow name value hfind rest inner hvalue
        | index position => cases hinner

theorem hasOrderedKeys_emptyObject : HasOrderedKeys emptyObject :=
  hasOrderedKeys_object.mpr ⟨List.Pairwise.nil, fun _ _ hfind => by cases hfind⟩

theorem HasOrderedKeys.orObject_find? {entries : List (String × Json)}
    (hordered : HasOrderedKeys (.object entries)) (key : String) :
    HasOrderedKeys (orObject (find? key entries)) := by
  cases hfind : find? key entries with
  | none => exact hasOrderedKeys_emptyObject
  | some value =>
      cases value with
      | null => exact hasOrderedKeys_emptyObject
      | _ => exact (hasOrderedKeys_object.mp hordered).2 key _ hfind

theorem HasOrderedKeys.put {entries : List (String × Json)}
    (hordered : HasOrderedKeys (.object entries)) (key : String) {value : Option Json}
    (hvalue : ∀ v ∈ value, v.HasOrderedKeys) :
    HasOrderedKeys (.object (put key value entries)) := by
  obtain ⟨hhere, hbelow⟩ := hasOrderedKeys_object.mp hordered
  refine hasOrderedKeys_object.mpr ⟨hhere.put key value, fun other found hfind => ?_⟩
  by_cases heq : key = other
  · subst heq
    rw [Entries.find?_put_self] at hfind
    exact hvalue found hfind
  · rw [Entries.find?_put_of_ne value entries heq] at hfind
    exact hbelow other found hfind

/-- Replacing a value keeps all keys in order. -/
theorem HasOrderedKeys.replace {root : Json} (hordered : root.HasOrderedKeys) (path : List String)
    {value : Option Json} (hvalue : ∀ v ∈ value, v.HasOrderedKeys) :
    (Json.replace value path root).HasOrderedKeys := by
  induction path generalizing root with
  | nil => exact hordered
  | cons key rest ih =>
      cases root with
      | object entries =>
          cases rest with
          | nil =>
              rw [replace_last]
              exact hordered.put key hvalue
          | cons next rest =>
              rw [replace_next]
              change (Json.object (Entries.put key (some _) entries)).HasOrderedKeys
              refine hordered.put key fun inner hinner => ?_
              obtain rfl := Option.some.inj hinner
              exact ih (hordered.orObject_find? key)
      | _ =>
          rw [replace_of_not_object rfl]
          exact hordered

theorem exists_canonical?_of_mem_items {depth : Nat} {text : Json} {items : List Json}
    (hread : canonical? depth text = some (.array items)) {item : Json} (hmem : item ∈ items) :
    ∃ depth text, canonical? depth text = some item := by
  have hitems : ∀ (raw read : List Json), canonicalItems? (depth - 1) raw = some read →
      item ∈ read → ∃ text, canonical? (depth - 1) text = some item := by
    intro raw
    induction raw with
    | nil =>
        intro read hread hmem
        cases hread
        cases hmem
    | cons first rest ih =>
        intro read hread hmem
        simp only [canonicalItems?, Option.bind_eq_bind, Option.bind_eq_some_iff, Option.pure_def,
          Option.some.injEq] at hread
        obtain ⟨head, hhead, others, hothers, rfl⟩ := hread
        rcases List.mem_cons.mp hmem with rfl | hlater
        · exact ⟨first, hhead⟩
        · exact ih others hothers hlater
  cases text with
  | array raw =>
      unfold canonical? at hread
      split at hread
      · cases hread
      · obtain ⟨read, hraw, heq⟩ := Option.map_eq_some_iff.mp hread
        cases heq
        exact ⟨_, hitems raw items hraw hmem⟩
  | object raw =>
      unfold canonical? at hread
      split at hread
      · cases hread
      · obtain ⟨_, -, heq⟩ := Option.map_eq_some_iff.mp hread
        cases heq
  | _ => simp [canonical?] at hread

/-- What is read from a text has its keys in order. -/
theorem hasOrderedKeys_of_canonical? {depth : Nat} {text value : Json}
    (hread : canonical? depth text = some value) : value.HasOrderedKeys := by
  intro site entries hentries
  induction site generalizing depth text value with
  | nil =>
      cases hentries
      exact ordered_of_canonical? hread
  | cons step rest ih =>
      cases step with
      | key name =>
          obtain ⟨inner, hinner, hrest⟩ := Option.bind_eq_some_iff.mp hentries
          cases value with
          | object entries =>
              obtain ⟨_, _, hread⟩ := exists_canonical?_of_find? hread hinner
              exact ih hread hrest
          | _ => cases hinner
      | index position =>
          obtain ⟨inner, hinner, hrest⟩ := Option.bind_eq_some_iff.mp hentries
          cases value with
          | array items =>
              obtain ⟨_, _, hread⟩ := exists_canonical?_of_mem_items hread
                (List.mem_of_getElem? hinner)
              exact ih hread hrest
          | _ => simp [itemsOf] at hinner

/-! ### Paths that are open -/

/-- A value can be put at a path of a root: the root is an object, and what stands on the way is an
object, a null or nothing. -/
structure IsOpenTo (root : Json) (path : List String) : Prop where
  isObject : root.isObject = true
  onTheWay : ∀ before, before <+: path → before ≠ path → ∀ value,
    at? (place before) root = some value → value.isNull = true ∨ value.isObject = true

/-- The paths that are open, key by key. -/
inductive Opens : List String → Json → Prop
  | last (key : String) (entries : List (String × Json)) : Opens [key] (.object entries)
  | next {key next : String} {rest : List String} {entries : List (String × Json)} :
      Opens (next :: rest) (orObject (find? key entries)) →
      Opens (key :: next :: rest) (.object entries)

/-- A null or nothing is made into an object, and an object stays one. -/
theorem isObject_orObject_iff {value : Option Json} :
    (orObject value).isObject = true ↔ ∀ v ∈ value, v.isNull = true ∨ v.isObject = true := by
  cases value with
  | none => simp [orObject, emptyObject, isObject]
  | some v => cases v <;> simp [orObject, emptyObject, isObject, isNull]

theorem IsOpenTo.orObject_find? {key next : String} {rest : List String}
    {entries : List (String × Json)} (hopen : IsOpenTo (.object entries) (key :: next :: rest)) :
    IsOpenTo (orObject (find? key entries)) (next :: rest) := by
  have hobject : (orObject (find? key entries)).isObject = true := by
    refine isObject_orObject_iff.mpr fun value hfind => ?_
    apply hopen.onTheWay [key] (by simp) (by simp) value
    exact (at?_key key entries).trans hfind
  refine ⟨hobject, fun before hbefore hne value hvalue => ?_⟩
  cases before with
  | nil =>
      cases hvalue
      exact .inr hobject
  | cons first others =>
      rw [at?_orObject (by simp [place])] at hvalue
      exact hopen.onTheWay (key :: first :: others) (List.cons_prefix_cons.mpr ⟨rfl, hbefore⟩)
        (by simpa using hne) value hvalue

theorem IsOpenTo.opens {path : List String} (hne : path ≠ []) {root : Json}
    (hopen : root.IsOpenTo path) : Opens path root := by
  induction path generalizing root with
  | nil => exact absurd rfl hne
  | cons key rest ih =>
      obtain ⟨entries, rfl⟩ := exists_entries_of_isObject hopen.isObject
      cases rest with
      | nil => exact .last key entries
      | cons next rest => exact .next (ih (by simp) hopen.orObject_find?)

theorem Opens.isObject {path : List String} {root : Json} (hopens : Opens path root) :
    root.isObject = true := by
  cases hopens <;> rfl

theorem Opens.isOpenTo {path : List String} {root : Json} (hopens : Opens path root) :
    root.IsOpenTo path := by
  induction hopens with
  | last key entries =>
      refine ⟨rfl, fun before hbefore hne value hvalue => ?_⟩
      cases before with
      | nil =>
          cases hvalue
          exact .inr rfl
      | cons first others =>
          obtain ⟨rfl, hothers⟩ := List.cons_prefix_cons.mp hbefore
          rw [List.prefix_nil.mp hothers] at hne
          exact absurd rfl hne
  | @next key next rest entries hopens ih =>
      refine ⟨rfl, fun before hbefore hne value hvalue => ?_⟩
      cases before with
      | nil =>
          cases hvalue
          exact .inr rfl
      | cons first others =>
          obtain ⟨rfl, hothers⟩ := List.cons_prefix_cons.mp hbefore
          cases others with
          | nil =>
              have hfind : find? first entries = some value :=
                (at?_key first entries).symm.trans hvalue
              exact isObject_orObject_iff.mp hopens.isObject value hfind
          | cons second others =>
              apply ih.onTheWay (second :: others) hothers (by simpa using hne)
              rw [at?_orObject (by simp [place])]
              exact hvalue

/-! ### The laws -/

theorem lookup?_cons (key : String) (rest : List String) (entries : List (String × Json)) :
    lookup? (key :: rest) (.object entries) = (find? key entries).bind (lookup? rest) := rfl

/-- Looking up at a path is looking at a place, where a null counts as nothing. -/
theorem lookup?_eq_at? (path : List String) (root : Json) :
    lookup? path root = (at? (place path) root).filter (fun value => !value.isNull) := by
  induction path generalizing root with
  | nil => cases hnull : root.isNull <;> simp [lookup?, place, at?, Option.filter, hnull]
  | cons key rest ih =>
      have hstep : at? (place (key :: rest)) root = (root.field? key).bind (at? (place rest)) := rfl
      rw [hstep, lookup?]
      cases hfield : root.field? key with
      | none => rfl
      | some value => exact ih value

theorem lookup?_replace_self {path : List String} {root : Json} (hopens : Opens path root)
    {value : Option Json} (hvalue : ∀ v ∈ value, v.isNull = false) :
    lookup? path (replace value path root) = value := by
  induction hopens with
  | last key entries =>
      rw [replace_last, lookup?_cons, Entries.find?_put_self]
      cases value with
      | none => rfl
      | some v => simp [lookup?, hvalue v rfl]
  | next _ ih => rw [replace_next, lookup?_cons, Entries.find?_insert_self, Option.bind_some, ih]

theorem orObject_of_isObject {value : Json} (hvalue : value.isObject = true) :
    orObject (some value) = value := by
  obtain ⟨entries, rfl⟩ := exists_entries_of_isObject hvalue
  rfl

theorem replace_replace {path : List String} {root : Json} (hordered : root.HasOrderedKeys)
    (hopens : Opens path root) (next value : Option Json) :
    replace next path (replace value path root) = replace next path root := by
  induction hopens with
  | last key entries =>
      rw [replace_last, replace_last, replace_last, (hordered [] entries rfl).put_put]
  | @next key following rest entries hopens ih =>
      have hinner := orObject_of_isObject
        (isObject_replace hopens.isObject value (following :: rest))
      rw [replace_next, replace_next, replace_next, Entries.find?_insert_self, hinner,
        ih (hordered.orObject_find? key), Entries.insert_insert]

theorem replace_eq_self {path : List String} (hne : path ≠ []) {root : Json}
    (hordered : root.HasOrderedKeys) {found : Json} (hfound : lookup? path root = some found) :
    replace (some found) path root = root := by
  induction path generalizing root with
  | nil => exact absurd rfl hne
  | cons key rest ih =>
      cases root with
      | object entries =>
          obtain ⟨value, hvalue, hrest⟩ := Option.bind_eq_some_iff.mp hfound
          have hself := (hordered [] entries rfl).insert_eq_self hvalue
          cases rest with
          | nil =>
              have hsame : value = found := by
                cases hnull : value.isNull <;> simp_all [lookup?]
              rw [replace_last, ← hsame]
              exact congrArg Json.object hself
          | cons next rest =>
              have hobject : value.isObject = true := by
                cases value with
                | object entries => rfl
                | _ => cases hrest
              have hinner := (hasOrderedKeys_object.mp hordered).2 key value hvalue
              rw [replace_next, show find? key entries = some value from hvalue,
                orObject_of_isObject hobject, ih (by simp) hinner hrest, hself]
      | _ => cases hfound

/-- At paths that do not meet the path of a replacement, nothing changes. -/
theorem lookup?_replace_of_apart {path other : List String} (hpath : ¬ path <+: other)
    (hother : ¬ other <+: path) (value : Option Json) (root : Json) :
    lookup? other (replace value path root) = lookup? other root := by
  have hinjective : Function.Injective Step.key := fun _ _ heq => by cases heq; rfl
  have hapart : Apart (place path) (place other) :=
    ⟨fun h => hpath ((List.prefix_map_iff_of_injective hinjective).mp h),
      fun h => hother ((List.prefix_map_iff_of_injective hinjective).mp h)⟩
  rw [lookup?_eq_at?, lookup?_eq_at?, at?_replace hapart]

/-- Looking up and replacing at a path are a lawful lens on every value that is open to the path.
After a replacement by anything but a null, the path holds what was put there, or nothing after a
removal; a path that neither begins with it nor is a beginning of it holds what it held; a second
replacement counts alone; and putting back what the path holds changes nothing. The keys of all
objects stay in order. -/
theorem replace_lawful {root : Json} (hordered : root.HasOrderedKeys) {path : List String}
    (hne : path ≠ []) (hopen : root.IsOpenTo path) {value : Option Json}
    (hvalue : ∀ v ∈ value, v.isNull = false) :
    lookup? path (replace value path root) = value ∧
    (∀ other, ¬ path <+: other → ¬ other <+: path →
      lookup? other (replace value path root) = lookup? other root) ∧
    (∀ next, replace next path (replace value path root) = replace next path root) ∧
    (∀ found, lookup? path root = some found → replace (some found) path root = root) ∧
    ((∀ v ∈ value, v.HasOrderedKeys) → (replace value path root).HasOrderedKeys) := by
  have hopens := hopen.opens hne
  refine ⟨lookup?_replace_self hopens hvalue, ?_, ?_, ?_, ?_⟩
  · intro other hpath hother
    exact lookup?_replace_of_apart hpath hother value root
  · intro next
    exact replace_replace hordered hopens next value
  · intro found hfound
    exact replace_eq_self hne hordered hfound
  · intro hkeys
    exact hordered.replace path hkeys

/-- A live object whose specification is null, as is the member that a path goes through. -/
def bareObject : Json :=
  .object [("metadata", .object [("name", .string "querier")]), ("spec", .null)]

theorem replace_lawful_bareObject :
    bareObject.HasOrderedKeys ∧ bareObject.IsOpenTo ["spec", "template", "name"] ∧
    lookup? ["spec", "template", "name"]
      (replace (some (.string "loki")) ["spec", "template", "name"] bareObject) =
        some (.string "loki") ∧
    lookup? ["metadata", "name"]
      (replace (some (.string "loki")) ["spec", "template", "name"] bareObject) =
        some (.string "querier") := by
  have hread : canonical? nestingLimit bareObject = some bareObject := rfl
  have hordered : bareObject.HasOrderedKeys := hasOrderedKeys_of_canonical? hread
  have hopen : bareObject.IsOpenTo ["spec", "template", "name"] :=
    Opens.isOpenTo (.next (.next (.last "name" [])))
  have hvalue : ∀ v ∈ some (Json.string "loki"), v.isNull = false := by
    intro v hv
    cases hv
    rfl
  obtain ⟨hself, hapart, -⟩ := replace_lawful hordered (by simp) hopen hvalue
  refine ⟨hordered, hopen, hself, ?_⟩
  rw [hapart ["metadata", "name"] (by decide) (by decide)]
  rfl

end Rollout.Json
