import Rollout.Proofs.Merge.MapKind

/-!
Ordered lists of entries as maps. An ordered list is settled by what its keys are bound to, so the
map of its entries is the list itself. An overlay binds some keys anew and leaves all others alone;
of two overlays of the same keys, the later one counts.
-/

namespace Rollout

namespace Entries

universe u v

variable {κ : Type u} {α : Type v}

section Find

variable [DecidableEq κ]

theorem find?_append (key : κ) (first second : List (κ × α)) :
    find? key (first ++ second) = (find? key first).or (find? key second) := by
  induction first with
  | nil => rfl
  | cons entry rest ih =>
      by_cases heq : entry.1 = key
      · simp [heq]
      · simp [heq, ih]

theorem lookup_eq_find? (key : κ) (entries : List (κ × α)) :
    entries.lookup key = find? key entries := by
  induction entries with
  | nil => rfl
  | cons entry rest ih =>
      rw [List.lookup_cons, find?_cons, ih, BEq.comm]
      by_cases heq : entry.1 = key
      · rw [if_pos heq, beq_iff_eq.mpr heq]
      · rw [if_neg heq, beq_eq_false_iff_ne.mpr heq]

theorem mem_of_find? {key : κ} {value : α} {entries : List (κ × α)}
    (hfind : find? key entries = some value) : (key, value) ∈ entries := by
  induction entries with
  | nil => cases hfind
  | cons entry rest ih =>
      rw [find?_cons] at hfind
      split at hfind
      · next heq =>
          obtain ⟨k, v⟩ := entry
          cases heq
          cases hfind
          exact List.mem_cons_self
      · exact List.mem_cons_of_mem entry (ih hfind)

theorem find?_eq_none_iff {key : κ} {entries : List (κ × α)} :
    find? key entries = none ↔ key ∉ entries.map Prod.fst := by
  induction entries with
  | nil => simp
  | cons entry rest ih =>
      by_cases heq : entry.1 = key
      · simp [heq]
      · simp [heq, ih, Ne.symm heq]

theorem find?_eq_none {key : κ} {entries : List (κ × α)} (hnone : key ∉ entries.map Prod.fst) :
    find? key entries = none := find?_eq_none_iff.mpr hnone

theorem namesOnce_iff_nodup {entries : List (κ × α)} :
    MapKind.NamesOnce entries ↔ (entries.map Prod.fst).Nodup := by
  simp only [MapKind.NamesOnce, List.Nodup, List.pairwise_map, beq_eq_false_iff_ne]

/-- With distinct keys, an entry is what its key is bound to. -/
theorem find?_eq_some_iff {key : κ} {value : α} {entries : List (κ × α)}
    (hnodup : (entries.map Prod.fst).Nodup) :
    find? key entries = some value ↔ (key, value) ∈ entries := by
  rw [← lookup_eq_find?, MapKind.lookup_eq_some_iff (namesOnce_iff_nodup.mpr hnodup)]
  simp

/-- With distinct keys, the order of the entries does not matter. -/
theorem find?_of_perm {first second : List (κ × α)} (hnodup : (first.map Prod.fst).Nodup)
    (hperm : first.Perm second) (key : κ) : find? key first = find? key second := by
  have hnodup' : (second.map Prod.fst).Nodup := (hperm.map Prod.fst).nodup hnodup
  ext value
  rw [find?_eq_some_iff hnodup, find?_eq_some_iff hnodup', hperm.mem_iff]

theorem find?_reverse {key : κ} {entries : List (κ × α)}
    (hnodup : (entries.map Prod.fst).Nodup) : find? key entries.reverse = find? key entries :=
  (find?_of_perm hnodup (List.reverse_perm entries).symm key).symm

/-- Of equal keys, the map of a list keeps the last one. -/
theorem find?_ofList [LT κ] [DecidableLT κ] (key : κ) (entries : List (κ × α)) :
    find? key (ofList entries) = find? key entries.reverse := by
  have hfold : ∀ (rest map : List (κ × α)),
      find? key (rest.foldl (fun map entry => insert entry.1 entry.2 map) map) =
        (find? key rest.reverse).or (find? key map) := by
    intro rest
    induction rest with
    | nil => intro map; rfl
    | cons entry rest ih =>
        intro map
        rw [List.foldl_cons, ih, List.reverse_cons, find?_append, Option.or_assoc]
        congr 1
        by_cases heq : entry.1 = key
        · subst heq
          simp
        · rw [find?_insert_of_ne entry.2 map heq]
          simp [heq]
  simpa [ofList] using hfold entries []

end Find

/-! ### Order -/

theorem Ordered.nodup [LE κ] [LT κ] [Std.LawfulOrderLT κ] {entries : List (κ × α)}
    (hordered : Ordered entries) : (entries.map Prod.fst).Nodup := by
  refine List.pairwise_map.mpr (List.Pairwise.imp (fun hless => ?_) hordered)
  exact fun heq => Std.lt_irrefl (heq ▸ hless)

section Linear

variable [LE κ] [LT κ] [DecidableEq κ] [Std.IsLinearOrder κ] [Std.LawfulOrderLT κ]

theorem Ordered.find?_head {key : κ} {value : α} {rest : List (κ × α)}
    (hordered : Ordered ((key, value) :: rest)) {other : κ} {found : α}
    (hfind : find? other ((key, value) :: rest) = some found) : ¬ other < key := by
  intro hless
  rcases List.mem_cons.mp (mem_of_find? hfind) with heq | hmem
  · cases heq
    exact Std.lt_irrefl hless
  · have habove := (List.pairwise_cons.mp hordered).1 _ hmem
    exact Std.lt_irrefl (Std.lt_trans hless habove)

/-- Ordered lists that bind every key alike are the same. -/
theorem Ordered.ext {first second : List (κ × α)} (hfirst : Ordered first)
    (hsecond : Ordered second) (hfind : ∀ key, find? key first = find? key second) :
    first = second := by
  induction first generalizing second with
  | nil =>
      cases second with
      | nil => rfl
      | cons entry rest => simpa using hfind entry.1
  | cons entry rest ih =>
      obtain ⟨key, value⟩ := entry
      cases second with
      | nil => simpa using hfind key
      | cons other others =>
          obtain ⟨key', value'⟩ := other
          have hhere : find? key ((key', value') :: others) = some value := by
            rw [← hfind key]
            simp
          have hthere : find? key' ((key, value) :: rest) = some value' := by
            rw [hfind key']
            simp
          have hkey : key = key' := Std.le_antisymm
            (Std.not_lt.mp (hfirst.find?_head hthere))
            (Std.not_lt.mp (hsecond.find?_head hhere))
          subst hkey
          have hvalue : value' = value := by simpa using hhere
          subst hvalue
          obtain ⟨habove, htail⟩ := List.pairwise_cons.mp hfirst
          obtain ⟨habove', htail'⟩ := List.pairwise_cons.mp hsecond
          -- Below the first entry only keys above it are bound.
          have hout : ∀ {entries : List (κ × α)}, (∀ entry ∈ entries, key < entry.1) →
              find? key entries = none := by
            intro entries hbelow
            refine find?_eq_none fun hmem => ?_
            obtain ⟨entry, hentry, heq⟩ := List.mem_map.mp hmem
            exact Std.lt_irrefl (heq ▸ hbelow entry hentry)
          have hrest : ∀ other, find? other rest = find? other others := by
            intro other
            by_cases heq : key = other
            · subst heq
              rw [hout habove, hout habove']
            · simpa [heq] using hfind other
          rw [ih htail htail' hrest]

/-- Binding a key to what it is bound to already changes nothing. -/
theorem Ordered.insert_eq_self [DecidableLT κ] {entries : List (κ × α)}
    (hordered : Ordered entries) {key : κ} {value : α} (hfind : find? key entries = some value) :
    Entries.insert key value entries = entries := by
  refine (hordered.insert key value).ext hordered fun other => ?_
  by_cases heq : key = other
  · rw [← heq, find?_insert_self, hfind]
  · exact find?_insert_of_ne value entries heq

theorem Ordered.ofList_eq [DecidableLT κ] {entries : List (κ × α)} (hordered : Ordered entries) :
    ofList entries = entries := by
  refine (ordered_ofList entries).ext hordered fun key => ?_
  rw [find?_ofList, find?_reverse hordered.nodup]

end Linear

/-- The later of two bindings of a key counts. -/
theorem insert_insert [LT κ] [DecidableLT κ] [DecidableEq κ] (key : κ) (value other : α)
    (entries : List (κ × α)) :
    insert key value (insert key other entries) = insert key value entries := by
  induction entries with
  | nil => simp [insert]
  | cons entry rest ih =>
      by_cases heq : key = entry.1
      · simp [insert, heq]
      · by_cases hless : key < entry.1
        · simp [insert, heq, hless]
        · simp [insert, heq, hless, ih]

/-! ### Unions -/

section Union

variable [LT κ] [DecidableLT κ] [DecidableEq κ]

theorem isLawful_ordered : (MapKind.ordered : MapKind κ α (List (κ × α))).IsLawful where
  find?_congr hsame map := by rw [eq_of_beq hsame]
  find?_insert key value map other := by
    by_cases heq : key = other
    · subst heq
      rw [if_pos (beq_self_eq_true key)]
      exact find?_insert_self key value map
    · rw [if_neg (by simpa using heq)]
      exact find?_insert_of_ne value map heq

/-- Entries with distinct keys list themselves. -/
theorem lists_ordered {entries : List (κ × α)} (hnodup : (entries.map Prod.fst).Nodup) :
    MapKind.ordered.Lists entries entries where
  once := namesOnce_iff_nodup.mpr hnodup
  lookup_eq key := lookup_eq_find? key entries

theorem mergeWith_eq_mergeListed (join : α → α → α) (map others : List (κ × α)) :
    mergeWith join map others = MapKind.ordered.mergeListed join map others := rfl

/-- A key is bound to what both maps have for it, joined once where both have something, in
whatever order the entries of the second map come. -/
theorem find?_mergeWith_of_perm (join : α → α → α) (map : List (κ × α))
    {others listing : List (κ × α)} (hnodup : (others.map Prod.fst).Nodup)
    (hperm : listing.Perm others) (key : κ) :
    find? key (mergeWith join map listing) = (find? key map).merge join (find? key others) := by
  rw [mergeWith_eq_mergeListed]
  exact MapKind.find?_mergeListed_of_lists isLawful_ordered join
    ((lists_ordered hnodup).of_perm hperm) map key

theorem find?_mergeWith (join : α → α → α) (map : List (κ × α)) {others : List (κ × α)}
    (hnodup : (others.map Prod.fst).Nodup) (key : κ) :
    find? key (mergeWith join map others) = (find? key map).merge join (find? key others) :=
  find?_mergeWith_of_perm join map hnodup (List.Perm.refl others) key

end Union

/-! ### Overlays -/

section Overlay

variable [LT κ] [DecidableLT κ] [DecidableEq κ]

/-- Binds a key to a value, or to nothing. -/
def put (key : κ) (value : Option α) (entries : List (κ × α)) : List (κ × α) :=
  match value with
  | some value => insert key value entries
  | none => erase key entries

@[simp] theorem find?_put_self (key : κ) (value : Option α) (entries : List (κ × α)) :
    find? key (put key value entries) = value := by
  cases value <;> simp [put]

theorem find?_put_of_ne {key other : κ} (value : Option α) (entries : List (κ × α))
    (hne : key ≠ other) : find? other (put key value entries) = find? other entries := by
  cases value with
  | none => exact find?_erase_of_ne entries hne
  | some value => exact find?_insert_of_ne value entries hne

theorem Ordered.put {entries : List (String × α)} (hordered : Ordered entries) (key : String)
    (value : Option α) : Ordered (put key value entries) := by
  cases value with
  | none => exact hordered.erase key
  | some value => exact hordered.insert key value

/-- Binds every one of some keys to what a source has for it, or to nothing. -/
def overlay (keys : List κ) (source : κ → Option α) (entries : List (κ × α)) : List (κ × α) :=
  keys.foldl (fun entries key => put key (source key) entries) entries

theorem find?_overlay (keys : List κ) (source : κ → Option α) (entries : List (κ × α)) (key : κ) :
    find? key (overlay keys source entries) =
      if key ∈ keys then source key else find? key entries := by
  induction keys generalizing entries with
  | nil => rfl
  | cons first rest ih =>
      have hstep : overlay (first :: rest) source entries =
          overlay rest source (put first (source first) entries) := rfl
      rw [hstep, ih]
      by_cases hrest : key ∈ rest
      · simp [hrest]
      · by_cases heq : first = key
        · subst heq
          simp [hrest]
        · have hne : ¬ key = first := fun h => heq h.symm
          simp [hrest, hne, find?_put_of_ne _ _ heq]

theorem overlay_congr {keys : List κ} {source other : κ → Option α} {entries : List (κ × α)}
    (hsame : ∀ key ∈ keys, source key = other key) :
    overlay keys source entries = overlay keys other entries := by
  induction keys generalizing entries with
  | nil => rfl
  | cons key rest ih =>
      obtain ⟨hhere, hrest⟩ := List.forall_mem_cons.mp hsame
      have hstep : overlay (key :: rest) source entries =
          overlay rest source (put key (source key) entries) := rfl
      rw [hstep, hhere, ih hrest]
      rfl

end Overlay

theorem Ordered.overlay {entries : List (String × α)} (hordered : Ordered entries)
    (keys : List String) (source : String → Option α) : Ordered (overlay keys source entries) := by
  induction keys generalizing entries with
  | nil => exact hordered
  | cons key rest ih => exact ih (hordered.put key (source key))

/-- The later of two overlays of the same keys counts. -/
theorem overlay_overlay {keys : List String} {source other : String → Option α}
    {entries : List (String × α)} (hordered : Ordered entries) :
    overlay keys source (overlay keys other entries) = overlay keys source entries := by
  refine ((hordered.overlay keys other).overlay keys source).ext (hordered.overlay keys source)
    fun key => ?_
  simp only [find?_overlay]
  split <;> rfl

theorem Ordered.put_put {entries : List (String × α)} (hordered : Ordered entries) (key : String)
    (value other : Option α) :
    Entries.put key value (Entries.put key other entries) = Entries.put key value entries := by
  have hoverlay (value : Option α) (entries : List (String × α)) :
      Entries.put key value entries = Entries.overlay [key] (fun _ => value) entries := rfl
  rw [hoverlay other, hoverlay, hoverlay, overlay_overlay hordered]

end Entries

namespace KeyMap

universe u

variable {α : Type u}

theorem ofList_entries (map : KeyMap α) : ofList map.entries = map :=
  ext map.ordered.ofList_eq

/-- The entries of a map make up the map in any order. -/
theorem ofList_of_perm {map : KeyMap α} {entries : List (String × α)}
    (hperm : entries.Perm map.entries) : ofList entries = map := by
  have hnodup : (entries.map Prod.fst).Nodup :=
    (hperm.map Prod.fst).symm.nodup map.ordered.nodup
  refine ext ((Entries.ordered_ofList entries).ext map.ordered fun key => ?_)
  rw [Entries.find?_ofList, Entries.find?_reverse hnodup, Entries.find?_of_perm hnodup hperm]

theorem ext_find? {first second : KeyMap α} (hfind : ∀ key, first.find? key = second.find? key) :
    first = second :=
  ext (first.ordered.ext second.ordered hfind)

theorem find?_mergeWith (join : α → α → α) (first second : KeyMap α) (key : String) :
    (first.mergeWith join second).find? key =
      (first.find? key).merge join (second.find? key) :=
  Entries.find?_mergeWith join first.entries second.ordered.nodup key

@[simp] theorem find?_empty (key : String) : (empty : KeyMap α).find? key = none := rfl

@[simp] theorem mergeWith_empty (join : α → α → α) (map : KeyMap α) :
    map.mergeWith join empty = map := rfl

@[simp] theorem empty_mergeWith (join : α → α → α) (map : KeyMap α) :
    empty.mergeWith join map = map := by
  apply ext_find?
  intro key
  rw [find?_mergeWith, find?_empty, Option.merge_none_left]

end KeyMap

end Rollout
