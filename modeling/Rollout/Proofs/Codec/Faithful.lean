import Rollout.Proofs.Codec.Occurrences

/-!
Codecs that read back what they write as JSON. A codec does so on the values that it keeps, and
refuses to read the written form of any other value. What is read back is the value itself, or what
the value is settled to where a part of it is not written. Both are worked out along the description
of a type: lists, maps and records keep what all of their parts keep, and settle part by part.
-/

namespace Rollout

/-- A codec that reads a written value back exactly if the value has a property, and else reads
nothing. -/
class Codec.Faithful {α : Type} (codec : Codec α) (keeps : outParam (α → Prop)) : Prop where
  isNull_write : ∀ value, (codec.write value).isNull = false
  read_write_iff : ∀ value other,
    codec.read (codec.write value) = some other ↔ keeps value ∧ other = value

/-- A codec that reads from a written value what the value is settled to, exactly if the value has a
property, and else reads nothing. A settled value is written like the value itself. -/
class Codec.Settled {α : Type} (codec : Codec α) (keeps : outParam (α → Prop))
    (settle : outParam (α → α)) : Prop where
  isNull_write : ∀ value, (codec.write value).isNull = false
  write_settle : ∀ value, codec.write (settle value) = codec.write value
  read_write_iff : ∀ value other,
    codec.read (codec.write value) = some other ↔ keeps value ∧ other = settle value

namespace Codec

variable {α : Type}

section Laws

variable (codec : Codec α) {keeps : α → Prop} [faithful : codec.Faithful keeps] {value other : α}

include faithful

theorem isNull_write (value : α) : (codec.write value).isNull = false :=
  Faithful.isNull_write value

theorem read_write_iff :
    codec.read (codec.write value) = some other ↔ keeps value ∧ other = value :=
  Faithful.read_write_iff value other

theorem Faithful.settled : codec.Settled keeps id where
  isNull_write := codec.isNull_write
  write_settle _ := rfl
  read_write_iff _ _ := codec.read_write_iff

end Laws

section Laws

variable (codec : Codec α) {keeps : α → Prop} {settle : α → α}
  [settled : codec.Settled keeps settle]

include settled

theorem isNull_write_settled (value : α) : (codec.write value).isNull = false :=
  Settled.isNull_write value

theorem write_settle (value : α) : codec.write (settle value) = codec.write value :=
  Settled.write_settle value

theorem read_write_settled_iff {value other : α} :
    codec.read (codec.write value) = some other ↔ keeps value ∧ other = settle value :=
  Settled.read_write_iff value other

theorem keeps_settle_iff {value : α} : keeps (settle value) ↔ keeps value := by
  have hread : ∀ v, keeps v ↔ (codec.read (codec.write v)).isSome := by
    intro v
    simp only [Option.isSome_iff_exists, codec.read_write_settled_iff, exists_and_left, exists_eq,
      and_true]
  rw [hread, hread, codec.write_settle]

end Laws

/-! ### Lists -/

section Lists

variable {item : Codec α} {keeps : α → Prop}

theorem mapM_write_settled_iff {settle : α → α} [item.Settled keeps settle]
    (values others : List α) :
    (values.map item.write).mapM (fun entry => item.read entry) = some others ↔
      (∀ value ∈ values, keeps value) ∧ others = values.map settle := by
  induction values generalizing others with
  | nil => simp [eq_comm]
  | cons value rest ih =>
      simp only [List.map_cons, List.mapM_cons, Option.bind_eq_bind, Option.bind_eq_some_iff,
        item.read_write_settled_iff, ih, Option.pure_def, Option.some.injEq, List.forall_mem_cons]
      constructor
      · rintro ⟨_, ⟨hvalue, rfl⟩, _, ⟨hrest, rfl⟩, rfl⟩
        exact ⟨⟨hvalue, hrest⟩, rfl⟩
      · rintro ⟨⟨hvalue, hrest⟩, rfl⟩
        exact ⟨_, ⟨hvalue, rfl⟩, _, ⟨hrest, rfl⟩, rfl⟩

instance Settled.list {settle : α → α} [item.Settled keeps settle] :
    (Codec.list item).Settled (fun values => ∀ value ∈ values, keeps value) (List.map settle) where
  isNull_write _ := rfl
  write_settle values := by simp [Codec.list, item.write_settle]
  read_write_iff := mapM_write_settled_iff

theorem mapM_write_iff [item.Faithful keeps] (values others : List α) :
    (values.map item.write).mapM (fun entry => item.read entry) = some others ↔
      (∀ value ∈ values, keeps value) ∧ others = values := by
  have hsettled : item.Settled keeps id := Faithful.settled item
  have hread : (values.map item.write).mapM (fun entry => item.read entry) = some others ↔ _ :=
    mapM_write_settled_iff values others
  rwa [List.map_id] at hread

instance Faithful.list [item.Faithful keeps] :
    (Codec.list item).Faithful fun values => ∀ value ∈ values, keeps value where
  isNull_write _ := rfl
  read_write_iff := mapM_write_iff

end Lists

namespace Faithful

/-- A codec that reads back everything. -/
theorem of_read_write {codec : Codec α} (hnull : ∀ value, (codec.write value).isNull = false)
    (hread : ∀ value, codec.read (codec.write value) = some value) :
    codec.Faithful fun _ => True where
  isNull_write := hnull
  read_write_iff value other := by
    rw [hread, Option.some.injEq]
    exact ⟨fun heq => ⟨trivial, heq.symm⟩, fun h => h.2.symm⟩

/-! ### Values -/

instance : Codec.text.Faithful fun _ => True := .of_read_write (fun _ => rfl) fun _ => rfl

instance : Codec.bool.Faithful fun _ => True := .of_read_write (fun _ => rfl) fun _ => rfl

instance : Codec.int32.Faithful fun _ => True := by
  refine .of_read_write (fun _ => rfl) fun value => ?_
  have hlow := value.le_toInt
  have hhigh := value.toInt_lt
  change (if -0x80000000 ≤ value.toInt ∧ value.toInt < 0x80000000 then
    some (Int32.ofInt value.toInt) else none) = some value
  rw [if_pos (by omega), Int32.ofInt_toInt]

instance : Codec.int64.Faithful fun _ => True := by
  refine .of_read_write (fun _ => rfl) fun value => ?_
  have hlow := value.le_toInt
  have hhigh := value.toInt_lt
  change (if -0x8000000000000000 ≤ value.toInt ∧ value.toInt < 0x8000000000000000 then
    some (Int64.ofInt value.toInt) else none) = some value
  rw [if_pos (by omega), Int64.ofInt_toInt]

/-- Alternatives that a name tells apart. -/
theorem alternative {ofName? : String → Option α} {name : α → String}
    (hname : ∀ value, ofName? (name value) = some value) :
    (Codec.alternative ofName? name).Faithful fun _ => True :=
  .of_read_write (fun _ => rfl) fun value => hname value

section Maps

variable {item : Codec α} {keeps : α → Prop} [item.Faithful keeps]

theorem mapM_entries_iff (entries others : List (String × α)) :
    (entries.map fun entry => (entry.1, item.write entry.2)).mapM
        (fun entry => do return (entry.1, ← item.read entry.2)) = some others ↔
      (∀ entry ∈ entries, keeps entry.2) ∧ others = entries := by
  induction entries generalizing others with
  | nil => simp [eq_comm]
  | cons entry rest ih =>
      simp only [Option.bind_eq_bind, Option.pure_def] at ih
      simp only [List.map_cons, List.mapM_cons, Option.bind_eq_bind, Option.bind_eq_some_iff,
        item.read_write_iff, ih, Option.pure_def, Option.some.injEq, List.forall_mem_cons]
      constructor
      · rintro ⟨_, ⟨_, ⟨hvalue, rfl⟩, rfl⟩, _, ⟨hrest, rfl⟩, rfl⟩
        exact ⟨⟨hvalue, hrest⟩, rfl⟩
      · rintro ⟨⟨hvalue, hrest⟩, rfl⟩
        exact ⟨_, ⟨_, ⟨hvalue, rfl⟩, rfl⟩, _, ⟨hrest, rfl⟩, rfl⟩

instance : (Codec.map item).Faithful fun map => ∀ entry ∈ map.entries, keeps entry.2 where
  isNull_write _ := rfl
  read_write_iff map other := by
    have hread : (Codec.map item).read ((Codec.map item).write map) =
        (map.entries.map fun entry => (entry.1, item.write entry.2)).mapM
          (fun entry => do return (entry.1, ← item.read entry.2)) >>=
            fun read => some (KeyMap.ofList read) := rfl
    rw [hread, Option.bind_eq_bind, Option.bind_eq_some_iff]
    constructor
    · rintro ⟨read, hentries, heq⟩
      obtain ⟨hkeeps, rfl⟩ := (mapM_entries_iff _ _).mp hentries
      rw [KeyMap.ofList_entries] at heq
      exact ⟨hkeeps, (Option.some.inj heq).symm⟩
    · rintro ⟨hkeeps, rfl⟩
      exact ⟨_, (mapM_entries_iff _ _).mpr ⟨hkeeps, rfl⟩, by rw [KeyMap.ofList_entries]⟩

end Maps

end Faithful

end Codec

/-! ### Records -/

namespace Fields

/-- Under the keys of some fields stands what the fields write for a record. -/
def Shows {σ α : Type} (fields : Fields σ α) (whole : σ) (found : String → List Json) : Prop :=
  ∀ key ∈ fields.keys, found key = occurrences (fields.write whole) key

/-- Fields that read a certain part from what they write for a record, exactly if a condition on the
record holds, and else read nothing. -/
class Faithful {σ α : Type} (fields : Fields σ α) (get : outParam (σ → α))
    (keeps : outParam (σ → Prop)) : Prop where
  keys_write : ∀ whole, ((fields.write whole).map Prod.fst).Sublist fields.keys
  read_iff : fields.keys.Nodup → ∀ {whole found}, fields.Shows whole found → ∀ value,
    fields.read found = some value ↔ keeps whole ∧ value = get whole

section Laws

variable {σ α : Type} (fields : Fields σ α) {get : σ → α} {keeps : σ → Prop}
  [faithful : fields.Faithful get keeps]

include faithful

theorem keys_write (whole : σ) : ((fields.write whole).map Prod.fst).Sublist fields.keys :=
  Faithful.keys_write whole

theorem read_iff (hnodup : fields.keys.Nodup) {whole : σ} {found : String → List Json}
    (hshows : fields.Shows whole found) {value : α} :
    fields.read found = some value ↔ keeps whole ∧ value = get whole :=
  Faithful.read_iff hnodup hshows value

/-- The part that is read and the condition, said in other words. -/
theorem Faithful.congr {get' : σ → α} {keeps' : σ → Prop} (hget : get = get')
    (hkeeps : ∀ whole, keeps whole ↔ keeps' whole) : fields.Faithful get' keeps' where
  keys_write := fields.keys_write
  read_iff hnodup {_ _} hshows _ := by
    rw [fields.read_iff hnodup hshows, hget, hkeeps]

end Laws

/-! ### Fields one after another -/

section Composition

variable {σ α β : Type}

section Seq

variable {first : Fields σ (α → β)} {second : Fields σ α}

theorem keys_seq : (first <*> second).keys = first.keys ++ second.keys := rfl

theorem write_seq (whole : σ) :
    (first <*> second).write whole = first.write whole ++ second.write whole := rfl

/-- What is read by one field after another has a property if all that the fields read has it. -/
theorem exists_read_seq {found : String → List Json} {p : β → Prop} :
    (∃ value, (first <*> second).read found = some value ∧ p value) ↔
      ∃ f, first.read found = some f ∧ ∃ value, second.read found = some value ∧ p (f value) := by
  have hread : (first <*> second).read found =
    (first.read found).bind fun f => (second.read found).bind fun value => some (f value) := rfl
  simp only [hread, Option.bind_eq_some_iff, Option.some.injEq]
  constructor
  · rintro ⟨_, ⟨f, hf, value, hvalue, rfl⟩, hp⟩
    exact ⟨f, hf, value, hvalue, hp⟩
  · rintro ⟨f, hf, value, hvalue, hp⟩
    exact ⟨_, ⟨f, hf, value, hvalue, rfl⟩, hp⟩

/-- Fields with keys of their own do not see each other. -/
theorem Shows.of_seq (hnodup : (first <*> second).keys.Nodup) {whole : σ}
    (hfirst : ((first.write whole).map Prod.fst).Sublist first.keys)
    (hsecond : ((second.write whole).map Prod.fst).Sublist second.keys)
    {found : String → List Json} (hshows : (first <*> second).Shows whole found) :
    first.Shows whole found ∧ second.Shows whole found := by
  rw [keys_seq, List.nodup_append] at hnodup
  obtain ⟨-, -, hapart⟩ := hnodup
  constructor
  · intro key hkey
    have hnone : key ∉ (second.write whole).map Prod.fst := fun hmem =>
      hapart key hkey key (hsecond.subset hmem) rfl
    rw [hshows key (List.mem_append_left _ hkey), write_seq, occurrences_append,
      occurrences_eq_nil_of_notMem hnone, List.append_nil]
  · intro key hkey
    have hnone : key ∉ (first.write whole).map Prod.fst := fun hmem =>
      hapart key (hfirst.subset hmem) key hkey rfl
    rw [hshows key (List.mem_append_right _ hkey), write_seq, occurrences_append,
      occurrences_eq_nil_of_notMem hnone, List.nil_append]

instance Faithful.seq {f : σ → α → β} {get : σ → α} {keeps keeps' : σ → Prop}
    [first.Faithful f keeps] [second.Faithful get keeps'] :
    (first <*> second).Faithful (fun whole => f whole (get whole))
      fun whole => keeps whole ∧ keeps' whole where
  keys_write whole := by
    rw [keys_seq, write_seq, List.map_append]
    exact (first.keys_write whole).append (second.keys_write whole)
  read_iff hnodup {whole found} hshows value := by
    obtain ⟨hfirst, hsecond⟩ := Shows.of_seq hnodup (first.keys_write whole)
      (second.keys_write whole) hshows
    rw [keys_seq, List.nodup_append] at hnodup
    have hread : (first <*> second).read found = some value ↔
        ∃ read, (first <*> second).read found = some read ∧ read = value := by simp
    rw [hread, exists_read_seq]
    simp only [first.read_iff hnodup.1 hfirst, second.read_iff hnodup.2.1 hsecond]
    constructor
    · rintro ⟨_, ⟨hkeeps, rfl⟩, _, ⟨hkeeps', rfl⟩, rfl⟩
      exact ⟨⟨hkeeps, hkeeps'⟩, rfl⟩
    · rintro ⟨⟨hkeeps, hkeeps'⟩, rfl⟩
      exact ⟨_, ⟨hkeeps, rfl⟩, _, ⟨hkeeps', rfl⟩, rfl⟩

end Seq

instance Faithful.pure (value : α) :
    (Pure.pure value : Fields σ α).Faithful (fun _ => value) fun _ => True where
  keys_write _ := List.Sublist.refl []
  read_iff _ {_ _} _ other := by
    change some value = some other ↔ _
    rw [Option.some.injEq]
    exact ⟨fun heq => ⟨trivial, heq.symm⟩, fun h => h.2.symm⟩

variable {fields : Fields σ α}

instance Faithful.map {get : σ → α} {keeps : σ → Prop} [fields.Faithful get keeps] (f : α → β) :
    (f <$> fields).Faithful (fun whole => f (get whole)) fun whole => True ∧ keeps whole :=
  inferInstanceAs ((Pure.pure f <*> fields).Faithful _ _)

theorem exists_read_map {f : α → β} {found : String → List Json} {p : β → Prop} :
    (∃ value, (f <$> fields).read found = some value ∧ p value) ↔
      ∃ value, fields.read found = some value ∧ p (f value) := by
  have hseq : f <$> fields = (Pure.pure f : Fields σ (α → β)) <*> fields := rfl
  rw [hseq, exists_read_seq]
  constructor
  · rintro ⟨_, hf, hrest⟩
    cases hf
    exact hrest
  · intro hrest
    exact ⟨f, rfl, hrest⟩

theorem write_map (f : α → β) (whole : σ) :
    (f <$> fields).write whole = fields.write whole := rfl

@[simp] theorem find?_write_seq (first : Fields σ (α → β)) (key : String) (whole : σ) :
    Entries.find? key ((first <*> fields).write whole) =
      (Entries.find? key (first.write whole)).or (Entries.find? key (fields.write whole)) := by
  rw [write_seq, Entries.find?_append]

@[simp] theorem find?_write_map (f : α → β) (key : String) (whole : σ) :
    Entries.find? key ((f <$> fields).write whole) = Entries.find? key (fields.write whole) := rfl

end Composition

/-! ### Single fields -/

section Members

variable {σ α : Type} {key : String}

/-- Reads the values that stand for a key, of which the last one counts. -/
def readLast (codec : Codec α) (values : List Json) : Option (Option α) := do
  let read ← values.mapM fun v => readUnset codec v
  return read.getLast?.join

section Members

variable {codec : Codec α} {found : String → List Json}

theorem read_optional {get : σ → Option α} :
    (optional key codec get).read found = readLast codec (found key) := rfl

theorem read_zeroed {zero : α} {get : σ → α} : (zeroed key codec zero get).read found =
    (readLast codec (found key)).map (·.getD zero) := by
  simp only [zeroed, readLast]
  cases (found key).mapM fun v => readUnset codec v <;> rfl

theorem read_required {get : σ → α} {value : Option Json} (hfound : found key = value.toList) :
    (required key codec get).read found = value.bind fun v => codec.read v := by
  cases value with
  | none => simp [required, hfound]
  | some v => cases hread : codec.read v <;> simp [required, hfound, hread]

/-- What is read after a text that is the same in all records is read if that text is found. -/
theorem exists_read_fixed {text : String} {p : Unit → Prop} :
    (∃ value, (fixed key text : Fields σ Unit).read found = some value ∧ p value) ↔
      (∀ value ∈ found key, value.text? = some text) ∧ p () := by
  have hread : (fixed key text : Fields σ Unit).read found =
    if (found key).all fun value => value.text? == some text then some () else none := rfl
  rw [hread]
  split
  · next htext =>
      exact ⟨fun ⟨_, _, hp⟩ => ⟨by simpa using htext, hp⟩, fun ⟨_, hp⟩ => ⟨(), rfl, hp⟩⟩
  · next htext =>
      refine iff_of_false (fun ⟨_, hvalue, _⟩ => ?_) fun ⟨hall, _⟩ => htext (by simpa using hall)
      cases hvalue

theorem write_optional {get : σ → Option α} (whole : σ) :
    (optional key codec get).write whole =
      ((get whole).map fun value => (key, codec.write value)).toList := by
  cases hget : get whole <;> simp [optional, hget]

theorem write_zeroed {zero : α} {get : σ → α} (whole : σ) :
    (zeroed key codec zero get).write whole = [(key, codec.write (get whole))] := rfl

theorem write_required {get : σ → α} (whole : σ) :
    (required key codec get).write whole = [(key, codec.write (get whole))] := rfl

theorem write_fixed {text : String} (whole : σ) :
    (fixed key text : Fields σ Unit).write whole = [(key, .string text)] := rfl

@[simp] theorem find?_write_optional (other : String) (get : σ → Option α) (whole : σ) :
    Entries.find? other ((optional key codec get).write whole) =
      if key = other then (get whole).map codec.write else none := by
  cases hget : get whole <;> simp [optional, hget]

@[simp] theorem find?_write_zeroed (other : String) (zero : α) (get : σ → α) (whole : σ) :
    Entries.find? other ((zeroed key codec zero get).write whole) =
      if key = other then some (codec.write (get whole)) else none := by
  simp [zeroed]

@[simp] theorem find?_write_fixed (other text : String) (whole : σ) :
    Entries.find? other ((fixed key text : Fields σ Unit).write whole) =
      if key = other then some (.string text) else none := by
  simp [fixed]

end Members

section Settled

variable {codec : Codec α} {keeps : α → Prop} {settle : α → α} [codec.Settled keeps settle]

/-- A field with the written form of a value under its key, or with nothing there. -/
theorem readLast_write_settled_iff {value read : Option α} :
    readLast codec (value.map codec.write).toList = some read ↔
      (∀ v ∈ value, keeps v) ∧ read = value.map settle := by
  cases value with
  | none => simp [readLast, eq_comm]
  | some v =>
      have hset : Source.isUnset? (codec.write v) = some false :=
        congrArg some (codec.isNull_write_settled v)
      have hread : readLast codec [codec.write v] = (codec.read (codec.write v)).map some := by
        simp only [readLast, readUnset, hset, List.mapM_cons, List.mapM_nil]
        cases codec.read (codec.write v) <;> rfl
      simp only [Option.map_some, Option.toList_some, hread, Option.map_eq_some_iff,
        codec.read_write_settled_iff, Option.mem_def, Option.some.injEq, forall_eq']
      constructor
      · rintro ⟨_, ⟨hkeeps, rfl⟩, rfl⟩
        exact ⟨hkeeps, rfl⟩
      · rintro ⟨hkeeps, rfl⟩
        exact ⟨_, ⟨hkeeps, rfl⟩, rfl⟩

/-- A field with the written form of a value under its key. -/
theorem readLast_singleton_write_settled_iff {value : α} {read : Option α} :
    readLast codec [codec.write value] = some read ↔ keeps value ∧ read = some (settle value) := by
  have hread : readLast codec ((some value).map codec.write).toList = some read ↔ _ :=
    readLast_write_settled_iff
  simpa using hread

instance Faithful.optional_settled (get : σ → Option α) :
    (Fields.optional key codec get).Faithful (fun whole => (get whole).map settle)
      fun whole => ∀ value ∈ get whole, keeps value where
  keys_write whole := by
    cases hget : get whole <;> simp [Fields.optional, hget]
  read_iff _ {whole found} hshows value := by
    have hwritten : occurrences ((Fields.optional key codec get).write whole) key =
        ((get whole).map codec.write).toList := by
      cases hget : get whole <;> simp [Fields.optional, hget, occurrences]
    rw [read_optional, hshows key List.mem_cons_self, hwritten, readLast_write_settled_iff]

instance Faithful.zeroed_settled (zero : α) (get : σ → α) :
    (Fields.zeroed key codec zero get).Faithful (fun whole => settle (get whole))
      fun whole => keeps (get whole) where
  keys_write _ := List.Sublist.refl _
  read_iff _ {whole found} hshows value := by
    have hwritten : occurrences ((Fields.zeroed key codec zero get).write whole) key =
        [codec.write (get whole)] := by
      simp [Fields.zeroed, occurrences]
    rw [read_zeroed, hshows key List.mem_cons_self, hwritten, Option.map_eq_some_iff]
    simp only [readLast_singleton_write_settled_iff]
    constructor
    · rintro ⟨_, ⟨hkeeps, rfl⟩, rfl⟩
      exact ⟨hkeeps, rfl⟩
    · rintro ⟨hkeeps, rfl⟩
      exact ⟨_, ⟨hkeeps, rfl⟩, rfl⟩

instance Faithful.required_settled (get : σ → α) :
    (Fields.required key codec get).Faithful (fun whole => settle (get whole))
      fun whole => keeps (get whole) where
  keys_write _ := List.Sublist.refl _
  read_iff _ {whole found} hshows _ := by
    have hwritten : occurrences ((Fields.required key codec get).write whole) key =
        (some (codec.write (get whole))).toList := by
      simp [Fields.required, occurrences]
    rw [read_required ((hshows key List.mem_cons_self).trans hwritten), Option.bind_some,
      codec.read_write_settled_iff]

end Settled

variable {codec : Codec α} {keeps : α → Prop} [codec.Faithful keeps]

/-- A field with the written form of a value under its key, or with nothing there. -/
theorem readLast_write_iff {value read : Option α} :
    readLast codec (value.map codec.write).toList = some read ↔
      (∀ v ∈ value, keeps v) ∧ read = value := by
  have hsettled : codec.Settled keeps id := Codec.Faithful.settled codec
  have hread : readLast codec (value.map codec.write).toList = some read ↔ _ :=
    readLast_write_settled_iff
  rwa [Option.map_id] at hread

/-- A field with the written form of a value under its key. -/
theorem readLast_singleton_write_iff {value : α} {read : Option α} :
    readLast codec [codec.write value] = some read ↔ keeps value ∧ read = some value := by
  have hsettled : codec.Settled keeps id := Codec.Faithful.settled codec
  have hread : readLast codec [codec.write value] = some read ↔ _ :=
    readLast_singleton_write_settled_iff
  exact hread

instance Faithful.optional (get : σ → Option α) :
    (Fields.optional key codec get).Faithful get fun whole => ∀ value ∈ get whole, keeps value := by
  have hsettled : codec.Settled keeps id := Codec.Faithful.settled codec
  have hfields : (Fields.optional key codec get).Faithful (fun whole => (get whole).map id) _ :=
    Faithful.optional_settled get
  simpa only [Option.map_id, id_eq] using hfields

instance Faithful.zeroed (zero : α) (get : σ → α) :
    (Fields.zeroed key codec zero get).Faithful get fun whole => keeps (get whole) := by
  have hsettled : codec.Settled keeps id := Codec.Faithful.settled codec
  have hfields : (Fields.zeroed key codec zero get).Faithful (fun whole => id (get whole)) _ :=
    Faithful.zeroed_settled zero get
  exact hfields

instance Faithful.nullable (get : σ → Option α) :
    (Fields.nullable key codec get).Faithful get fun whole => ∀ value ∈ get whole, keeps value where
  keys_write _ := List.Sublist.refl _
  read_iff _ {whole found} hshows value := by
    have hread : (Fields.nullable key codec get).read found = readLast codec (found key) := rfl
    rw [hread, hshows key List.mem_cons_self]
    cases hget : get whole with
    | none =>
        have hwritten : occurrences ((Fields.nullable key codec get).write whole) key =
            [.null] := by
          simp [Fields.nullable, hget, occurrences]
        have hnull : readLast codec [.null] = some none := rfl
        simp [hwritten, hnull, eq_comm]
    | some v =>
        have hwritten : occurrences ((Fields.nullable key codec get).write whole) key =
            [codec.write v] := by
          simp [Fields.nullable, hget, occurrences]
        rw [hwritten, readLast_singleton_write_iff]
        simp

/-- A field that reads its value without asking whether it is unset. -/
theorem mapM_singleton_write_iff {value : α} {read : List α} :
    [codec.write value].mapM (fun v => codec.read v) = some read ↔
      keeps value ∧ read = [value] := by
  have hread : [codec.write value].mapM (fun v => codec.read v) =
      (codec.read (codec.write value)).map fun v => [v] := by
    cases hread : codec.read (codec.write value) <;> simp [hread]
  simp only [hread, Option.map_eq_some_iff, codec.read_write_iff]
  constructor
  · rintro ⟨_, ⟨hkeeps, rfl⟩, rfl⟩
    exact ⟨hkeeps, rfl⟩
  · rintro ⟨hkeeps, rfl⟩
    exact ⟨_, ⟨hkeeps, rfl⟩, rfl⟩

theorem read_defaulted_iff {found : String → List Json} {default value read : α} {get : σ → α}
    (hfound : found key = [codec.write value]) :
    (Fields.defaulted key codec default get).read found = some read ↔
      keeps value ∧ read = value := by
  have hread : (Fields.defaulted key codec default get).read found =
      ([codec.write value].mapM fun v => codec.read v).map (·.getLast?.getD default) := by
    rw [← hfound]
    simp only [Fields.defaulted]
    cases (found key).mapM fun v => codec.read v <;> rfl
  rw [hread, Option.map_eq_some_iff]
  simp only [mapM_singleton_write_iff]
  constructor
  · rintro ⟨_, ⟨hkeeps, rfl⟩, rfl⟩
    exact ⟨hkeeps, rfl⟩
  · rintro ⟨hkeeps, rfl⟩
    exact ⟨_, ⟨hkeeps, rfl⟩, rfl⟩

instance Faithful.defaulted (default : α) (get : σ → α) :
    (Fields.defaulted key codec default get).Faithful get fun whole => keeps (get whole) where
  keys_write _ := List.Sublist.refl _
  read_iff _ {whole found} hshows _ := by
    refine read_defaulted_iff ((hshows key List.mem_cons_self).trans ?_)
    simp [Fields.defaulted, occurrences]

instance Faithful.required (get : σ → α) :
    (Fields.required key codec get).Faithful get fun whole => keeps (get whole) := by
  have hsettled : codec.Settled keeps id := Codec.Faithful.settled codec
  have hfields : (Fields.required key codec get).Faithful (fun whole => id (get whole)) _ :=
    Faithful.required_settled get
  exact hfields

/-- An empty list is left out, and what is left out is read as the empty list. -/
instance Faithful.listed {codec : Codec (List α)} {keeps : List α → Prop} [codec.Faithful keeps]
    (get : σ → List α) : (Fields.listed key codec get).Faithful get
      fun whole => get whole ≠ [] → keeps (get whole) where
  keys_write whole := by
    cases hget : get whole <;> simp [Fields.listed, hget]
  read_iff _ {whole found} hshows value := by
    have hread : (Fields.listed key codec get).read found =
        (Fields.defaulted key codec [] get).read found := rfl
    have hfound := hshows key List.mem_cons_self
    rw [hread]
    cases hget : get whole with
    | nil =>
        have hnone : found key = [] := hfound.trans (by simp [Fields.listed, hget, occurrences])
        simp [Fields.defaulted, hnone, eq_comm]
    | cons first rest =>
        have hwritten : found key = [codec.write (first :: rest)] :=
          hfound.trans (by simp [Fields.listed, hget, occurrences])
        rw [read_defaulted_iff hwritten]
        simp

instance Faithful.fixed (text : String) :
    (Fields.fixed key text : Fields σ Unit).Faithful (fun _ => ()) fun _ => True where
  keys_write _ := List.Sublist.refl _
  read_iff _ {whole found} hshows _ := by
    have hfound : found key = [.string text] :=
      (hshows key (by simp [Fields.fixed])).trans (by simp [Fields.fixed, occurrences])
    simp [Fields.fixed, hfound, Source.text?, Json.text?]

/-- The fields of a part read that part. -/
instance Faithful.embed {fields : Fields α α} {part : α → α} {keeps : α → Prop}
    [fields.Faithful part keeps] (get : σ → α) :
    (Fields.embed fields get).Faithful (fun whole => part (get whole))
      fun whole => keeps (get whole) where
  keys_write whole := fields.keys_write (get whole)
  read_iff hnodup {_ _} hshows _ := fields.read_iff hnodup hshows

end Members

/-! ### Whole records -/

section Objects

variable {σ : Type} {fields : Fields σ σ}

theorem read_object_iff {entries : List (String × Json)} {whole : σ} :
    (object fields).read (Json.object entries) = some whole ↔
      ∃ read, fields.read (occurrences entries) = some read ∧ read = whole := by
  have hread : (object fields).read (Json.object entries) = fields.read (occurrences entries) := rfl
  simp [hread]

theorem read_strict_iff {entries : List (String × Json)} {whole : σ} :
    (strict fields).read (Json.object entries) = some whole ↔
      repeats fields.keys entries = false ∧
        ∃ read, fields.read (occurrences entries) = some read ∧ read = whole := by
  have hread : (strict fields).read (Json.object entries) =
    if repeats fields.keys entries then none else fields.read (occurrences entries) := rfl
  rw [hread]
  cases repeats fields.keys entries <;> simp

section Faithful

variable {get : σ → σ} {keeps : σ → Prop} [faithful : fields.Faithful get keeps]

include faithful

/-- The written form of a record binds each key to what the fields write for it. -/
theorem find?_ofList_write (hnodup : fields.keys.Nodup) (key : String) (whole : σ) :
    Entries.find? key (Entries.ofList (fields.write whole)) =
      Entries.find? key (fields.write whole) := by
  rw [Entries.find?_ofList, Entries.find?_reverse ((fields.keys_write whole).nodup hnodup)]

/-- What is looked up under a key of a written record. -/
theorem lookup?_write {α : Type} {item : Codec α} (hnull : ∀ v, (item.write v).isNull = false)
    (hnodup : fields.keys.Nodup) {key : String} {whole : σ} {value : Option α}
    (hfind : Entries.find? key (fields.write whole) = value.map item.write) :
    Json.lookup? [key] ((object fields).write whole) = value.map item.write := by
  have hfield : ((object fields).write whole).field? key = value.map item.write := by
    rw [← hfind, ← find?_ofList_write hnodup]
    rfl
  simp only [Json.lookup?, hfield]
  cases value with
  | none => rfl
  | some v => simp [hnull]

/-- A written record shows what its fields write, beside labels under other keys. -/
theorem shows_ofList_write (hnodup : fields.keys.Nodup) (labels : List (String × Json))
    (hapart : ∀ key ∈ fields.keys, key ∉ labels.map Prod.fst) (whole : σ) :
    fields.Shows whole (occurrences (Entries.ofList (labels ++ fields.write whole))) := by
  intro key hkey
  have hnone : Entries.find? key labels.reverse = none :=
    Entries.find?_eq_none (by simpa using hapart key hkey)
  have hdistinct := (fields.keys_write whole).nodup hnodup
  rw [occurrences_of_ordered (Entries.ordered_ofList _), Entries.find?_ofList, List.reverse_append,
    Entries.find?_append, hnone, Option.or_none, Entries.find?_reverse hdistinct,
    occurrences_eq_toList hdistinct]

/-- A record with distinct keys reads from its written form what its fields read. -/
theorem read_write_object_iff (hnodup : fields.keys.Nodup) {whole other : σ} :
    (object fields).read ((object fields).write whole) = some other ↔
      keeps whole ∧ other = get whole :=
  fields.read_iff hnodup (shows_ofList_write hnodup [] (by simp) whole)

theorem faithful_object {condition : σ → Prop} (hget : get = id) (hnodup : fields.keys.Nodup)
    (hkeeps : ∀ whole, keeps whole ↔ condition whole) : (object fields).Faithful condition where
  isNull_write _ := rfl
  read_write_iff whole other := by
    rw [read_write_object_iff hnodup, hget, hkeeps]
    rfl

theorem settled_object {condition : σ → Prop} {settle : σ → σ} (hget : get = settle)
    (hnodup : fields.keys.Nodup) (hkeeps : ∀ whole, keeps whole ↔ condition whole)
    (hwrite : ∀ whole, fields.write (settle whole) = fields.write whole) :
    (object fields).Settled condition settle where
  isNull_write _ := rfl
  write_settle whole := congrArg Json.record (hwrite whole)
  read_write_iff whole other := by rw [read_write_object_iff hnodup, hget, hkeeps]

section Labelled

variable (fields) (labelled : Fields σ σ) (labels : List (String × Json))
  (hkeys : labelled.keys = fields.keys)
  (hread : ∀ found : String → List Json, labelled.read found = fields.read found)
  (hwrite : ∀ whole, labelled.write whole = labels ++ fields.write whole)
  (hapart : ∀ key ∈ fields.keys, key ∉ labels.map Prod.fst) (hnodup : fields.keys.Nodup)

include hkeys hread hwrite hapart hnodup

/-- A record with distinct keys may also write labels, which it does not look at on reading. -/
theorem read_write_labelled_iff {whole other : σ} :
    (strict labelled).read ((strict labelled).write whole) = some other ↔
      keeps whole ∧ other = get whole := by
  have hwritten : (strict labelled).write whole =
      .object (Entries.ofList (labels ++ fields.write whole)) := by
    rw [← hwrite]
    rfl
  rw [hwritten, read_strict_iff, hread, hkeys]
  simp only [fields.read_iff hnodup (shows_ofList_write hnodup labels hapart whole),
    repeats_of_ordered (Entries.ordered_ofList _), true_and]
  constructor
  · rintro ⟨_, ⟨hkeeps, rfl⟩, rfl⟩
    exact ⟨hkeeps, rfl⟩
  · rintro ⟨hkeeps, rfl⟩
    exact ⟨_, ⟨hkeeps, rfl⟩, rfl⟩

theorem settled_labelled {condition : σ → Prop} {settle : σ → σ} (hget : get = settle)
    (hkeeps : ∀ whole, keeps whole ↔ condition whole)
    (hsettle : ∀ whole, fields.write (settle whole) = fields.write whole) :
    (strict labelled).Settled condition settle where
  isNull_write _ := rfl
  write_settle whole := by
    refine congrArg Json.record ?_
    rw [hwrite, hwrite, hsettle]
  read_write_iff whole other := by
    rw [read_write_labelled_iff fields labelled labels hkeys hread hwrite hapart hnodup, hget,
      hkeeps]

end Labelled

/-- A record that names each field at most once reads back what its fields read back. -/
theorem faithful_strict {condition : σ → Prop} (hget : get = id) (hnodup : fields.keys.Nodup)
    (hkeeps : ∀ whole, keeps whole ↔ condition whole) : (strict fields).Faithful condition where
  isNull_write _ := rfl
  read_write_iff whole other := by
    rw [read_write_labelled_iff fields fields [] rfl (fun _ => rfl) (fun _ => rfl) (by simp) hnodup,
      hget, hkeeps]
    rfl

end Faithful

end Objects

end Fields

end Rollout
