import Rollout.Proofs.Entries

/-!
Maps of two kinds, merged alike: maps that keep their keys by hash, and maps that keep them in
ascending order. Merging joins what both maps have for a key and keeps the rest, in whatever order
the loose map hands out its entries.
-/

namespace Rollout.MapKind

universe u v

open Entries (Ordered)

variable {κ : Type u} {α : Type v}

section Hashed

variable [BEq κ] [EquivBEq κ] [Hashable κ] [LawfulHashable κ]

theorem isLawful_hashed : (hashed : MapKind κ α (Std.HashMap κ α)).IsLawful where
  find?_congr hsame _ := Std.HashMap.getElem?_congr hsame
  find?_insert _ _ _ _ := Std.HashMap.getElem?_insert

theorem lists_hashed (map : Std.HashMap κ α) : hashed.Lists map.toList map where
  once := Std.HashMap.distinct_keys_toList
  lookup_eq key := by
    ext value
    rw [lookup_eq_some_iff Std.HashMap.distinct_keys_toList]
    exact Std.HashMap.getElem?_eq_some_iff_exists_beq_and_mem_toList.symm

/-- A hash map made of entries with distinct keys holds these entries. -/
theorem lists_ofList {entries : List (κ × α)} (honce : NamesOnce entries) :
    hashed.Lists entries (Std.HashMap.ofList entries) where
  once := honce
  lookup_eq key := by
    cases hlookup : entries.lookup key with
    | none =>
        have hnone := List.lookup_eq_none_iff.mp hlookup
        refine (Std.HashMap.getElem?_ofList_of_contains_eq_false ?_).symm
        rw [List.contains_eq_any_beq, List.any_eq_false]
        intro other hother
        obtain ⟨entry, hmem, rfl⟩ := List.mem_map.mp hother
        simpa [bne] using hnone entry hmem
    | some value =>
        obtain ⟨named, hnamed, hmem⟩ := (lookup_eq_some_iff honce).mp hlookup
        exact (Std.HashMap.getElem?_ofList_of_mem (BEq.symm hnamed) honce hmem).symm

theorem getElem?_mergeListed (join : α → α → α) (first : Std.HashMap κ α)
    {second : Std.HashMap κ α} {listing : List (κ × α)} (hperm : listing.Perm second.toList)
    (key : κ) :
    (hashed.mergeListed join first listing)[key]? = first[key]?.merge join second[key]? :=
  find?_mergeListed_of_lists isLawful_hashed join ((lists_hashed second).of_perm hperm) first key

/-- Merging hash maps of layers merges what both have for a key. -/
theorem getElem?_merge [Merge α] (tight loose : Std.HashMap κ α) (key : κ) :
    (merge tight loose)[key]? = tight[key]?.merge merge loose[key]? :=
  getElem?_mergeListed merge tight (List.Perm.refl loose.toList) key

end Hashed

theorem getElem?_ofList [DecidableEq κ] [Hashable κ] {entries : List (κ × α)}
    (hnodup : (entries.map Prod.fst).Nodup) (key : κ) :
    (Std.HashMap.ofList entries)[key]? = Entries.find? key entries := by
  rw [← Entries.lookup_eq_find?]
  exact ((lists_ofList (Entries.namesOnce_iff_nodup.mpr hnodup)).lookup_eq key).symm

/-- Merging maps works key by key, for keys and values of any type and any way to join two values.
Whatever the order in which the entries of the second map come, a key of both maps is bound to its
two values joined, once, a key of one map to its value there, and no other key is bound. So maps
that keep their keys by hash and maps that keep them in order agree after merging if they agree
before. -/
theorem merge_pointwise (join : α → α → α) :
    (∀ [BEq κ] [EquivBEq κ] [Hashable κ] [LawfulHashable κ] (first second : Std.HashMap κ α)
      (listing : List (κ × α)), listing.Perm second.toList → ∀ key : κ,
        (hashed.mergeListed join first listing)[key]? = first[key]?.merge join second[key]?) ∧
    (∀ [LE κ] [LT κ] [DecidableLT κ] [DecidableEq κ] [Std.IsLinearOrder κ] [Std.LawfulOrderLT κ]
      (first second listing : List (κ × α)), Ordered first → Ordered second →
        listing.Perm second → Ordered (Entries.mergeWith join first listing) ∧ ∀ key : κ,
          Entries.find? key (Entries.mergeWith join first listing) =
            (Entries.find? key first).merge join (Entries.find? key second)) ∧
    ∀ [LE κ] [LT κ] [DecidableLT κ] [DecidableEq κ] [Std.IsLinearOrder κ] [Std.LawfulOrderLT κ]
      [Hashable κ] (first second : Std.HashMap κ α) (entries others : List (κ × α)),
      Ordered entries → Ordered others →
      (∀ key, first[key]? = Entries.find? key entries) →
      (∀ key, second[key]? = Entries.find? key others) →
      ∀ listing listing' : List (κ × α), listing.Perm second.toList → listing'.Perm others →
        ∀ key, (hashed.mergeListed join first listing)[key]? =
          Entries.find? key (Entries.mergeWith join entries listing') := by
  refine ⟨?_, ?_, ?_⟩
  · intro _ _ _ _ first second listing hperm key
    exact getElem?_mergeListed join first hperm key
  · intro _ _ _ _ _ _ first second listing hfirst hsecond hperm
    refine ⟨hfirst.mergeWith join listing, fun key => ?_⟩
    exact Entries.find?_mergeWith_of_perm join first hsecond.nodup hperm key
  · intro _ _ _ _ _ _ _ first second entries others _ hothers hfirst hsecond listing listing'
      hperm hperm' key
    rw [getElem?_mergeListed join first hperm key,
      Entries.find?_mergeWith_of_perm join entries hothers.nodup hperm' key, hfirst, hsecond]

/-- Counts under two keys each, one of them in common. -/
def tally : List (String × Nat) := [("a", 1), ("b", 2)]

def newTally : List (String × Nat) := [("a", 3), ("c", 5)]

theorem merge_pointwise_tally : newTally.reverse.Perm (Std.HashMap.ofList newTally).toList ∧
    (hashed.mergeListed Nat.add (Std.HashMap.ofList tally) newTally.reverse)["a"]? = some 4 ∧
    Ordered (Entries.mergeWith Nat.add tally newTally.reverse) ∧
    ∀ key, (hashed.mergeListed Nat.add (Std.HashMap.ofList tally) newTally.reverse)[key]? =
      Entries.find? key [("a", 4), ("b", 2), ("c", 5)] := by
  obtain ⟨hhashed, hordered, hagree⟩ := @merge_pointwise String Nat Nat.add
  have hsorted : Ordered tally := List.pairwise_pair.mpr (by decide)
  have hsorted' : Ordered newTally := List.pairwise_pair.mpr (by decide)
  have hlists := lists_ofList (Entries.namesOnce_iff_nodup.mpr hsorted'.nodup)
  have hperm : newTally.reverse.Perm (Std.HashMap.ofList newTally).toList :=
    (List.reverse_perm newTally).trans (hlists.perm (lists_hashed _))
  have hfirst := getElem?_ofList hsorted.nodup
  have hsecond := getElem?_ofList hsorted'.nodup
  refine ⟨hperm, ?_, ?_, ?_⟩
  · rw [hhashed _ _ _ hperm, hfirst, hsecond]
    rfl
  · exact (hordered _ _ _ hsorted hsorted' (List.reverse_perm newTally)).1
  · exact hagree _ _ _ _ hsorted hsorted' hfirst hsecond _ _ hperm (List.Perm.refl _)

end Rollout.MapKind
