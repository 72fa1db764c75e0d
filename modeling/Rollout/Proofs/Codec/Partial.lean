import Mathlib.Data.List.Nodup
import Mathlib.Data.List.Perm.Basic
import Rollout.Proofs.Codec.Faithful

/-!
Written values that are given in part. A record may leave out a field that is unset, list its fields
in any order and add fields under other names, and what its fields hold may be given in part again.
A form says which values may stand in the place of written ones, and a codec admits a form if it
reads these values as what was written. This is shown field by field, along the description of a
record.
-/

namespace Rollout

/-- Which values stand for which written ones. -/
abbrev Form := Json → Json → Prop

/-- A value is given as it is written, or in a form. -/
def Form.Allows (form : Form) (written given : Json) : Prop :=
  given = written ∨ form written given

/-- A field of written records, with the value that it may be left out with, if there is one, and
the form of its other values. -/
structure RecordMember where
  key : String
  unset : Option Json := none
  form : Form := Eq

/-- The fields of a record with some of them left out and the others given in their forms. -/
inductive Thinned (members : List RecordMember) :
    List (String × Json) → List (String × Json) → Prop
  | nil : Thinned members [] []
  | kept (member : RecordMember) {value value' : Json} {written given : List (String × Json)} :
      member ∈ members → member.form.Allows value value' → Thinned members written given →
      Thinned members ((member.key, value) :: written) ((member.key, value') :: given)
  | dropped (member : RecordMember) {value : Json} {written given : List (String × Json)} :
      member ∈ members → member.unset = some value → Thinned members written given →
      Thinned members ((member.key, value) :: written) given

/-- Records that leave out fields, in any order and beside fields that the record does not have. -/
inductive RecordForm (members : List RecordMember) : Json → Json → Prop
  | intro {written kept unknown given : List (String × Json)} : Thinned members written kept →
      (∀ entry ∈ unknown, entry.1 ∉ members.map RecordMember.key) → given.Perm (kept ++ unknown) →
      RecordForm members (.object written) (.object given)

/-- Maps that keep all of their entries, in any order. -/
inductive MapForm (item : Form) : Json → Json → Prop
  | intro {written kept given : List (String × Json)} :
      List.Forall₂ (fun entry entry' => entry'.1 = entry.1 ∧ item.Allows entry.2 entry'.2)
        written kept → given.Perm kept → MapForm item (.object written) (.object given)

/-- Lists of items that are given in a form. -/
inductive ListForm (item : Form) : Json → Json → Prop
  | intro {written given : List Json} : List.Forall₂ item.Allows written given →
      ListForm item (.array written) (.array given)

/-! ### What stands under a key -/

/-- What is found under the key of a member for what is written there. -/
inductive RecordMember.Shows (member : RecordMember) : List Json → List Json → Prop
  | absent : member.Shows [] []
  | kept {value value' : Json} : member.form.Allows value value' → member.Shows [value] [value']
  | dropped {value : Json} : member.unset = some value → member.Shows [value] []

theorem RecordMember.Shows.length_le_one {member : RecordMember} {written given : List Json}
    (hshows : member.Shows written given) : given.length ≤ 1 := by
  cases hshows <;> simp

open Fields (occurrences occurrences_append occurrences_cons occurrences_eq_nil_of_notMem
  eq_of_perm_of_length_le_one repeats)

section Records

variable {members : List RecordMember} {written given : List (String × Json)}

namespace Thinned

theorem keys_sublist (hthinned : Thinned members written given) :
    (given.map Prod.fst).Sublist (written.map Prod.fst) := by
  induction hthinned with
  | nil => exact .slnil
  | kept _ _ _ _ ih => exact ih.cons_cons _
  | dropped _ _ _ _ ih => exact ih.cons _

/-- A key that is not written is not given either. -/
theorem occurrences_rest (hthinned : Thinned members written given) {key : String}
    (hnone : key ∉ written.map Prod.fst) :
    occurrences written key = [] ∧ occurrences given key = [] :=
  ⟨occurrences_eq_nil_of_notMem hnone,
    occurrences_eq_nil_of_notMem fun hkey => hnone (hthinned.keys_sublist.subset hkey)⟩

theorem shows (hthinned : Thinned members written given)
    (hmembers : (members.map RecordMember.key).Nodup) (hnodup : (written.map Prod.fst).Nodup)
    {member : RecordMember} (hmem : member ∈ members) :
    member.Shows (occurrences written member.key) (occurrences given member.key) := by
  -- By induction on how the fields are given: keys are distinct, so a field that stands under the
  -- key of the member is a field of that member, and no later one stands there.
  induction hthinned with
  | nil => exact .absent
  | kept member' hmem' hallows hrest ih =>
      rw [List.map_cons, List.nodup_cons] at hnodup
      rw [occurrences_cons, occurrences_cons]
      split
      · next heq =>
          obtain rfl := List.inj_on_of_nodup_map hmembers hmem' hmem heq
          obtain ⟨hwritten, hgiven⟩ := hrest.occurrences_rest hnodup.1
          rw [hwritten, hgiven]
          exact .kept hallows
      · exact ih hnodup.2
  | dropped member' hmem' hunset hrest ih =>
      rw [List.map_cons, List.nodup_cons] at hnodup
      rw [occurrences_cons]
      split
      · next heq =>
          obtain rfl := List.inj_on_of_nodup_map hmembers hmem' hmem heq
          obtain ⟨hwritten, hgiven⟩ := hrest.occurrences_rest hnodup.1
          rw [hwritten, hgiven]
          exact .dropped hunset
      · exact ih hnodup.2

end Thinned

namespace RecordForm

theorem isNull_eq {value value' : Json} (hform : RecordForm members value value') :
    value'.isNull = value.isNull := by
  cases hform
  rfl

/-- The fields that are left, in their order and with nothing beside them. -/
theorem of_thinned (hthinned : Thinned members written given) :
    RecordForm members (.object written) (.object given) :=
  .intro hthinned (List.forall_mem_nil _) (by rw [List.append_nil])

/-- Neither the order nor unknown fields change what is found under the key of a member. -/
theorem shows (hform : RecordForm members (.object written) (.object given))
    (hmembers : (members.map RecordMember.key).Nodup) (hnodup : (written.map Prod.fst).Nodup)
    {member : RecordMember} (hmem : member ∈ members) :
    member.Shows (occurrences written member.key) (occurrences given member.key) := by
  cases hform with
  | @intro _ kept unknown _ hthinned hunknown hperm =>
      have hshows := hthinned.shows hmembers hnodup hmem
      have hnone : member.key ∉ unknown.map Prod.fst := by
        intro hkey
        obtain ⟨entry, hentry, heq⟩ := List.mem_map.mp hkey
        exact hunknown entry hentry (heq ▸ List.mem_map_of_mem hmem)
      have hkept : occurrences (kept ++ unknown) member.key = occurrences kept member.key := by
        rw [occurrences_append, occurrences_eq_nil_of_notMem hnone, List.append_nil]
      have hfound : (occurrences kept member.key).Perm (occurrences given member.key) := by
        rw [← hkept]
        exact (hperm.filterMap _).symm
      rwa [← eq_of_perm_of_length_le_one hfound hshows.length_le_one]

theorem repeats_eq_false (hform : RecordForm members (.object written) (.object given))
    (hmembers : (members.map RecordMember.key).Nodup) (hnodup : (written.map Prod.fst).Nodup) :
    repeats (members.map RecordMember.key) given = false := by
  refine List.any_eq_false.mpr fun key hkey => ?_
  obtain ⟨member, hmem, rfl⟩ := List.mem_map.mp hkey
  have honce := (hform.shows hmembers hnodup hmem).length_le_one
  simpa using honce

end RecordForm

end Records

/-! ### Codecs -/

/-- A codec that reads what stands in a form for a written value as that value. -/
class Codec.Admits {α : Type} (codec : Codec α) (form : outParam Form) : Prop where
  isNull_eq : ∀ {written given}, form written given → given.isNull = written.isNull
  read_eq : ∀ {value given}, form.Allows (codec.write value) given → codec.read given = some value

namespace Codec.Admits

variable {α : Type}

theorem isNull_of_allows (codec : Codec α) {form : Form} [admits : codec.Admits form]
    {written given : Json} (hallows : form.Allows written given) :
    given.isNull = written.isNull := by
  rcases hallows with rfl | hform
  · rfl
  · exact admits.isNull_eq hform

/-- Single values are only given as they are written. -/
theorem scalar {codec : Codec α} [codec.Faithful fun _ => True] : codec.Admits Eq where
  isNull_eq heq := heq ▸ rfl
  read_eq {value given} hallows := by
    obtain rfl : given = codec.write value := hallows.elim id Eq.symm
    exact codec.read_write_iff.mpr ⟨trivial, rfl⟩

instance : Codec.text.Admits Eq := scalar

instance : Codec.int32.Admits Eq := scalar

instance : Codec.int64.Admits Eq := scalar

theorem mapM_eq_some {β : Type} {f : β → Option α} {values : List α} {entries : List β}
    (hread : List.Forall₂ (fun value entry => f entry = some value) values entries) :
    entries.mapM f = some values := by
  induction hread with
  | nil => rfl
  | cons hhead _ ih => simp [hhead, ih]

section Collections

variable {item : Codec α} {form : Form} [admits : item.Admits form]

instance list : (Codec.list item).Admits (ListForm form) where
  isNull_eq hform := by
    cases hform
    rfl
  read_eq {values given} hallows := by
    obtain ⟨items, rfl, hitems⟩ : ∃ items, given = .array items ∧
        List.Forall₂ form.Allows (values.map item.write) items := by
      rcases hallows with rfl | hform
      · exact ⟨_, rfl, List.forall₂_same.mpr fun _ _ => .inl rfl⟩
      · change ListForm form (.array (values.map item.write)) given at hform
        obtain ⟨hitems⟩ := hform
        exact ⟨_, rfl, hitems⟩
    rw [List.forall₂_map_left_iff] at hitems
    exact mapM_eq_some (hitems.imp fun _ _ hitem => admits.read_eq hitem)

instance map : (Codec.map item).Admits (MapForm form) where
  isNull_eq hform := by
    cases hform
    rfl
  read_eq {values given} hallows := by
    let write := fun entry : String × α => (entry.1, item.write entry.2)
    let read := fun entry : String × Json => do return (entry.1, ← item.read entry.2)
    obtain ⟨entries, kept, rfl, hkept, hperm⟩ : ∃ entries kept, given = .object entries ∧
        List.Forall₂ (fun entry entry' => entry'.1 = entry.1 ∧ form.Allows entry.2 entry'.2)
          (values.entries.map write) kept ∧ entries.Perm kept := by
      rcases hallows with rfl | hform
      · exact ⟨_, _, rfl, List.forall₂_same.mpr fun _ _ => ⟨rfl, .inl rfl⟩, .refl _⟩
      · change MapForm form (.object (values.entries.map write)) given at hform
        obtain ⟨hkept, hperm⟩ := hform
        exact ⟨_, _, rfl, hkept, hperm⟩
    rw [List.forall₂_map_left_iff] at hkept
    have hread : List.Forall₂ (fun entry entry' => read entry' = some entry) values.entries kept :=
      hkept.imp fun entry entry' ⟨hkey, hvalue⟩ => by
        simp [read, write, hkey, admits.read_eq hvalue]
    obtain ⟨others, hothers, hsame⟩ := List.perm_comp_forall₂ hperm hread.flip
    change ((entries.mapM read).bind fun read => some (KeyMap.ofList read)) = some values
    rw [mapM_eq_some hothers.flip, Option.bind_some, KeyMap.ofList_of_perm hsame]

end Collections

end Codec.Admits

/-! ### Fields -/

namespace Fields

/-- Fields that read what is found under the keys of members as what is written there. -/
class Admits {σ α : Type} (fields : Fields σ α) (members : outParam (List RecordMember)) :
    Prop where
  keys_eq : fields.keys = members.map RecordMember.key
  read_eq : fields.keys.Nodup → ∀ {whole written found}, fields.Shows whole written →
    (∀ member ∈ members, member.Shows (written member.key) (found member.key)) →
      fields.read found = fields.read written

namespace Admits

variable {σ α β : Type}

instance pure (value : α) : (Pure.pure value : Fields σ α).Admits [] where
  keys_eq := rfl
  read_eq _ _ _ _ _ _ := rfl

instance seq {first : Fields σ (α → β)} {second : Fields σ α} {f : σ → α → β} {get : σ → α}
    {keeps keeps' : σ → Prop} [first.Faithful f keeps] [second.Faithful get keeps']
    {members members' : List RecordMember} [hfirst : first.Admits members]
    [hsecond : second.Admits members'] : (first <*> second).Admits (members ++ members') where
  keys_eq := by rw [keys_seq, hfirst.keys_eq, hsecond.keys_eq, List.map_append]
  read_eq hnodup {whole written found} hshows hfound := by
    obtain ⟨hshowsFirst, hshowsSecond⟩ := Shows.of_seq hnodup (first.keys_write whole)
      (second.keys_write whole) hshows
    rw [keys_seq, List.nodup_append] at hnodup
    rw [List.forall_mem_append] at hfound
    have hread : ∀ found : String → List Json, (first <*> second).read found =
      (first.read found).bind fun f => (second.read found).bind fun value => some (f value) :=
        fun _ => rfl
    rw [hread, hread, hfirst.read_eq hnodup.1 hshowsFirst hfound.1,
      hsecond.read_eq hnodup.2.1 hshowsSecond hfound.2]

instance map {fields : Fields σ α} {get : σ → α} {keeps : σ → Prop} [fields.Faithful get keeps]
    {members : List RecordMember} [fields.Admits members] (f : α → β) :
    (f <$> fields).Admits members :=
  inferInstanceAs ((Pure.pure f <*> fields).Admits ([] ++ members))

section Members

variable {key : String} {codec : Codec α} {keeps : α → Prop} [codec.Faithful keeps] {form : Form}
  [admits : codec.Admits form]

include keeps in
theorem readLast_eq {value : α} {given : Json} (hallows : form.Allows (codec.write value) given) :
    readLast codec [given] = readLast codec [codec.write value] := by
  have hread : ∀ {given}, form.Allows (codec.write value) given →
      readLast codec [given] = some (some value) := by
    intro given hallows
    have hnull : given.isNull = false := by
      rw [Codec.Admits.isNull_of_allows codec hallows, codec.isNull_write]
    have hset : Source.isUnset? given = some false := congrArg some hnull
    simp [readLast, readUnset, hset, admits.read_eq hallows]
  rw [hread hallows, hread (.inl rfl)]

/-- An open setting is not written, so there is nothing to leave out. -/
instance optional (get : σ → Option α) :
    (Fields.optional key codec get).Admits [{ key := key, form := form }] where
  keys_eq := rfl
  read_eq _ {whole written found} hshows hfound := by
    have hwritten : written key = ((get whole).map codec.write).toList := by
      rw [hshows key List.mem_cons_self]
      cases hget : get whole <;> simp [Fields.optional, hget, occurrences]
    have hvalues := hfound _ List.mem_cons_self
    rw [read_optional, read_optional]
    rw [hwritten] at hvalues ⊢
    generalize found key = values at hvalues ⊢
    cases hget : get whole with
    | none =>
        rw [hget] at hvalues
        cases hvalues
        rfl
    | some value =>
        rw [hget] at hvalues
        cases hvalues with
        | kept hallows => exact readLast_eq hallows
        | dropped hunset => cases hunset

/-- An open setting is written as null and may as well be left out. -/
instance nullable (get : σ → Option α) :
    (Fields.nullable key codec get).Admits
      [{ key := key, unset := some .null, form := form }] where
  keys_eq := rfl
  read_eq _ {whole written found} hshows hfound := by
    have hread : ∀ found, (Fields.nullable key codec get).read found = readLast codec (found key) :=
      fun _ => rfl
    have hvalues := hfound _ List.mem_cons_self
    rw [hread, hread]
    generalize found key = values at hvalues ⊢
    cases hget : get whole with
    | none =>
        have hwritten : written key = [.null] := by
          rw [hshows key List.mem_cons_self]
          simp [Fields.nullable, hget, occurrences]
        rw [hwritten] at hvalues ⊢
        cases hvalues with
        | @kept _ given hallows =>
            have hnull : given.isNull = true := Codec.Admits.isNull_of_allows codec hallows
            cases given with
            | null => rfl
            | _ => cases hnull
        | dropped _ => rfl
    | some value =>
        have hwritten : written key = [codec.write value] := by
          rw [hshows key List.mem_cons_self]
          simp [Fields.nullable, hget, occurrences]
        rw [hwritten] at hvalues ⊢
        cases hvalues with
        | kept hallows => exact readLast_eq hallows
        | dropped hunset =>
            have hset := codec.isNull_write value
            rw [← Option.some.inj hunset] at hset
            cases hset

/-- A section that is written as its default may as well be left out. -/
instance defaulted (default : α) (get : σ → α) :
    (Fields.defaulted key codec default get).Admits
      [{ key := key, unset := some (codec.write default), form := form }] where
  keys_eq := rfl
  read_eq _ {whole written found} hshows hfound := by
    have hread : ∀ found, (Fields.defaulted key codec default get).read found =
        ((found key).mapM fun v : Json => codec.read v).bind fun read =>
          some (read.getLast?.getD default) := fun _ => rfl
    have hwritten : written key = [codec.write (get whole)] := by
      rw [hshows key List.mem_cons_self]
      simp [Fields.defaulted, occurrences]
    have hvalues := hfound _ List.mem_cons_self
    rw [hread, hread]
    generalize found key = values at hvalues ⊢
    rw [hwritten] at hvalues ⊢
    cases hvalues with
    | kept hallows => simp [admits.read_eq hallows, admits.read_eq (.inl rfl)]
    | dropped hunset =>
        have hdefault : codec.write default = codec.write (get whole) := Option.some.inj hunset
        simp [← hdefault, admits.read_eq (.inl rfl)]

end Members

end Admits

/-! ### Whole records -/

section Objects

variable {σ : Type} {fields : Fields σ σ} {get : σ → σ} {keeps : σ → Prop}
  [fields.Faithful get keeps] {members : List RecordMember} [admits : fields.Admits members]

include get keeps in
/-- What stands for a written record repeats none of its keys, and is read as the record. -/
theorem read_of_allows (hget : get = id) (hnodup : fields.keys.Nodup)
    (hkeeps : ∀ whole, keeps whole) {whole : σ} {given : Json}
    (hallows : Form.Allows (RecordForm members) (.record (fields.write whole)) given) :
    ∃ entries, given = .object entries ∧ repeats fields.keys entries = false ∧
      fields.read (occurrences entries) = some whole := by
  have hordered := Entries.ordered_ofList (fields.write whole)
  have hshows : fields.Shows whole (occurrences (Entries.ofList (fields.write whole))) :=
    shows_ofList_write hnodup [] (by simp) whole
  have hread : fields.read (occurrences (Entries.ofList (fields.write whole))) = some whole :=
    (fields.read_iff hnodup hshows).mpr ⟨hkeeps whole, hget ▸ rfl⟩
  rcases hallows with rfl | hform
  · exact ⟨_, rfl, repeats_of_ordered hordered fields.keys, hread⟩
  · have hobject : ∃ entries, given = .object entries := by
      cases hform
      exact ⟨_, rfl⟩
    obtain ⟨entries, rfl⟩ := hobject
    have hmembers : (members.map RecordMember.key).Nodup := admits.keys_eq ▸ hnodup
    refine ⟨entries, rfl, ?repeats, ?read⟩
    case repeats =>
      rw [admits.keys_eq]
      exact RecordForm.repeats_eq_false hform hmembers hordered.nodup
    case read =>
      rw [← hread]
      exact admits.read_eq hnodup hshows fun member hmem =>
        RecordForm.shows hform hmembers hordered.nodup hmem

/-- A record that may repeat its keys admits its fields in part. -/
theorem admits_object {listed : List RecordMember} (hmembers : members = listed) (hget : get = id)
    (hnodup : fields.keys.Nodup) (hkeeps : ∀ whole, keeps whole) :
    (object fields).Admits (RecordForm listed) where
  isNull_eq := RecordForm.isNull_eq
  read_eq hallows := by
    rw [← hmembers] at hallows
    obtain ⟨entries, rfl, -, hread⟩ := read_of_allows hget hnodup hkeeps hallows
    exact read_object_iff.mpr ⟨_, hread, rfl⟩

/-- A record that names each field at most once admits its fields in part. -/
theorem admits_strict {listed : List RecordMember} (hmembers : members = listed) (hget : get = id)
    (hnodup : fields.keys.Nodup) (hkeeps : ∀ whole, keeps whole) :
    (strict fields).Admits (RecordForm listed) where
  isNull_eq := RecordForm.isNull_eq
  read_eq hallows := by
    rw [← hmembers] at hallows
    obtain ⟨entries, rfl, honce, hread⟩ := read_of_allows hget hnodup hkeeps hallows
    exact read_strict_iff.mpr ⟨honce, _, hread, rfl⟩

end Objects

end Fields

end Rollout
