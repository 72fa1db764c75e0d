import Rollout.Codec
import Rollout.Proofs.Entries

/-!
The values that stand for a key in a list of entries, which is all that a record takes from a
document. With distinct keys, they are what the key is bound to.
-/

namespace Rollout.Fields

variable {ν : Type}

theorem occurrences_cons (entry : String × ν) (rest : List (String × ν)) (key : String) :
    occurrences (entry :: rest) key =
      (if entry.1 = key then [entry.2] else []) ++ occurrences rest key := by
  unfold occurrences
  rw [List.filterMap_cons]
  split <;> simp_all

theorem occurrences_append (first second : List (String × ν)) (key : String) :
    occurrences (first ++ second) key = occurrences first key ++ occurrences second key :=
  List.filterMap_append

theorem occurrences_eq_nil_of_notMem {entries : List (String × ν)} {key : String}
    (hnone : key ∉ entries.map Prod.fst) : occurrences entries key = [] := by
  refine List.filterMap_eq_nil_iff.mpr fun entry hmem => ?_
  exact if_neg fun heq => hnone (List.mem_map.mpr ⟨entry, hmem, heq⟩)

/-- At most one value leaves nothing to reorder. -/
theorem eq_of_perm_of_length_le_one {first second : List ν} (hperm : first.Perm second)
    (honce : first.length ≤ 1) : first = second := by
  match first, honce with
  | [], _ => exact hperm.nil_eq
  | [value], _ => exact List.singleton_perm.mp hperm

/-- With distinct keys, at most one value stands for a key. -/
theorem occurrences_eq_toList {entries : List (String × ν)} (hnodup : (entries.map Prod.fst).Nodup)
    (key : String) : occurrences entries key = (Entries.find? key entries).toList := by
  induction entries with
  | nil => rfl
  | cons entry rest ih =>
      rw [List.map_cons, List.nodup_cons] at hnodup
      rw [occurrences_cons, ih hnodup.2, Entries.find?_cons]
      split
      · next heq =>
          rw [Entries.find?_eq_none (heq ▸ hnodup.1)]
          rfl
      · rfl

theorem repeats_of_nodup {entries : List (String × ν)} (hnodup : (entries.map Prod.fst).Nodup)
    (keys : List String) : repeats keys entries = false := by
  refine List.any_eq_false.mpr fun key _ => ?_
  rw [occurrences_eq_toList hnodup]
  cases Entries.find? key entries <;> simp

theorem occurrences_of_ordered {entries : List (String × ν)} (hordered : Entries.Ordered entries)
    (key : String) : occurrences entries key = (Entries.find? key entries).toList :=
  occurrences_eq_toList hordered.nodup key

theorem repeats_of_ordered {entries : List (String × ν)} (hordered : Entries.Ordered entries)
    (keys : List String) : repeats keys entries = false :=
  repeats_of_nodup hordered.nodup keys

theorem occurrences_overlay {entries : List (String × ν)} (hordered : Entries.Ordered entries)
    (keys : List String) (source : String → Option ν) (key : String) :
    occurrences (Entries.overlay keys source entries) key =
      if key ∈ keys then (source key).toList else occurrences entries key := by
  rw [occurrences_of_ordered (hordered.overlay keys source), occurrences_of_ordered hordered,
    Entries.find?_overlay]
  split <;> rfl

end Rollout.Fields
