import Rollout.Merge.MapKind

/-!
What keys are bound to in merged maps, for keys and values of any type and any way of joining two
values. The tight map is asked and written to in one loop; as no key is listed twice, what the loop
writes for one entry is not met by the entries to come.
-/

namespace Rollout.MapKind

universe u v w

variable {κ : Type u} {α : Type v} {μ : Type w} [BEq κ]

/-- Keys that count as the same are bound to the same, which is what was bound to them last. -/
structure IsLawful (kind : MapKind κ α μ) : Prop where
  find?_congr {key other : κ} (hsame : (key == other) = true) (map : μ) :
    kind.find? key map = kind.find? other map
  find?_insert (key : κ) (value : α) (map : μ) (other : κ) :
    kind.find? other (kind.insert key value map) =
      if key == other then some value else kind.find? other map

/-- No two entries name the same key. -/
def NamesOnce (listing : List (κ × α)) : Prop :=
  listing.Pairwise fun first second => (first.1 == second.1) = false

/-- A list holds the entries of a map, each once. -/
structure Lists (kind : MapKind κ α μ) (listing : List (κ × α)) (map : μ) : Prop where
  once : NamesOnce listing
  lookup_eq (key : κ) : listing.lookup key = kind.find? key map

section Listings

variable [EquivBEq κ]

/-- The key of the first of some entries is named by none of the others. -/
theorem lookup_of_namesOnce_cons {entry : κ × α} {rest : List (κ × α)}
    (honce : NamesOnce (entry :: rest)) {key : κ} (hkey : (entry.1 == key) = true) :
    rest.lookup key = none := by
  refine List.lookup_eq_none_iff.mpr fun other hother => ?_
  have hapart : (entry.1 == other.1) = false := (List.pairwise_cons.mp honce).1 other hother
  rw [bne, ← BEq.congr_left hkey, hapart]
  rfl

/-- Where no key is named twice, a key has the value of the entry that names it, wherever that
stands. -/
theorem lookup_eq_some_iff {listing : List (κ × α)} (honce : NamesOnce listing) {key : κ}
    {value : α} :
    listing.lookup key = some value ↔
      ∃ named, (key == named) = true ∧ (named, value) ∈ listing := by
  induction listing with
  | nil => simp
  | cons entry rest ih =>
      obtain ⟨first, mine⟩ := entry
      have hrest := ih (List.pairwise_cons.mp honce).2
      cases hkey : key == first with
      | false =>
          rw [List.lookup_cons, hkey, hrest]
          constructor
          · rintro ⟨named, hnamed, hmem⟩
            exact ⟨named, hnamed, List.mem_cons_of_mem _ hmem⟩
          · rintro ⟨named, hnamed, hmem⟩
            rcases List.mem_cons.mp hmem with heq | hlater
            · cases heq
              cases hkey.symm.trans hnamed
            · exact ⟨named, hnamed, hlater⟩
      | true =>
          have hnone := lookup_of_namesOnce_cons honce (BEq.symm hkey)
          rw [List.lookup_cons, hkey]
          constructor
          · intro heq
            cases heq
            exact ⟨first, hkey, List.mem_cons_self⟩
          · rintro ⟨named, hnamed, hmem⟩
            rcases List.mem_cons.mp hmem with heq | hlater
            · cases heq
              rfl
            · have hfound := hrest.mpr ⟨named, hnamed, hlater⟩
              cases hnone.symm.trans hfound

theorem NamesOnce.of_perm {listing other : List (κ × α)} (honce : NamesOnce listing)
    (hperm : other.Perm listing) : NamesOnce other :=
  List.Pairwise.perm honce hperm.symm fun hapart => BEq.comm.trans hapart

/-- The order in which a map lists its entries is of no account. -/
theorem Lists.of_perm {kind : MapKind κ α μ} {listing other : List (κ × α)} {map : μ}
    (hlists : kind.Lists listing map) (hperm : other.Perm listing) : kind.Lists other map := by
  have honce := hlists.once.of_perm hperm
  refine ⟨honce, fun key => ?_⟩
  rw [← hlists.lookup_eq key]
  ext value
  simp only [lookup_eq_some_iff honce, lookup_eq_some_iff hlists.once, hperm.mem_iff]

theorem NamesOnce.nodup {listing : List (κ × α)} (honce : NamesOnce listing) : listing.Nodup :=
  List.Pairwise.imp (fun hapart heq => by simp [heq] at hapart) honce

end Listings

/-- Two listings of one map differ in their order only. -/
theorem Lists.perm [LawfulBEq κ] {kind : MapKind κ α μ} {listing other : List (κ × α)} {map : μ}
    (hlists : kind.Lists listing map) (hother : kind.Lists other map) : listing.Perm other := by
  have hmem {listing : List (κ × α)} (hlists : kind.Lists listing map) (entry : κ × α) :
      entry ∈ listing ↔ kind.find? entry.1 map = some entry.2 := by
    rw [← hlists.lookup_eq, lookup_eq_some_iff hlists.once]
    simp
  refine (List.perm_ext_iff_of_nodup hlists.once.nodup hother.once.nodup).mpr fun entry => ?_
  rw [hmem hlists, hmem hother]

section Loop

variable {kind : MapKind κ α μ} (hlawful : kind.IsLawful) (join : α → α → α)
include hlawful

/-- One entry joins what its own key is bound to and leaves all other keys alone. -/
theorem find?_insertWith (map : μ) (entry : κ × α) (key : κ) :
    kind.find? key (kind.insertWith join map entry) =
      if entry.1 == key then (kind.find? key map).merge join (some entry.2)
      else kind.find? key map := by
  cases hsame : entry.1 == key with
  | false =>
      rw [insertWith]
      cases kind.find? entry.1 map <;> simp [hlawful.find?_insert, hsame]
  | true =>
      rw [insertWith, hlawful.find?_congr hsame]
      cases kind.find? key map <;> simp [hlawful.find?_insert, hsame]

/-- A key is bound to what the tight map and the listing have for it, joined once where both have
something. -/
theorem find?_mergeListed [EquivBEq κ] (map : μ) {listing : List (κ × α)}
    (honce : NamesOnce listing) (key : κ) :
    kind.find? key (kind.mergeListed join map listing) =
      (kind.find? key map).merge join (listing.lookup key) := by
  induction listing generalizing map with
  | nil => simp [mergeListed]
  | cons entry rest ih =>
      have hstep : kind.mergeListed join map (entry :: rest) =
          kind.mergeListed join (kind.insertWith join map entry) rest := rfl
      rw [hstep, ih _ (List.pairwise_cons.mp honce).2, find?_insertWith hlawful, List.lookup_cons,
        BEq.comm (a := key)]
      cases hkey : entry.1 == key with
      | false => rfl
      | true => rw [if_pos rfl, lookup_of_namesOnce_cons honce hkey, Option.merge_none_right]

theorem find?_mergeListed_of_lists [EquivBEq κ] {listing : List (κ × α)} {loose : μ}
    (hlists : kind.Lists listing loose) (tight : μ) (key : κ) :
    kind.find? key (kind.mergeListed join tight listing) =
      (kind.find? key tight).merge join (kind.find? key loose) := by
  rw [find?_mergeListed hlawful join tight hlists.once, hlists.lookup_eq]

end Loop

end Rollout.MapKind
