import Rollout.Proofs.Codec.Faithful
import Rollout.Proofs.Json.Text

/-!
Values in JSON texts. Most types are written without fractions, so that their text is read back as
the value that was written, and what holds of written values holds of written texts.
-/

namespace Rollout

namespace Codec

variable {α : Type}

/-- The value that a JSON text is read as. -/
def readText? (codec : Codec α) (text : ByteArray) : Option α := do
  codec.read (← Json.ofBytes? text)

/-- What evaluating the reader on the bytes of a text shows of the value that it is read as. -/
theorem exists_readText? (codec : Codec α) (text : String) (check : α → Bool)
    (hcheck : ((Json.ofList? (Text.utf8 text.toList)).bind fun json => codec.read json).any check) :
    ∃ value, codec.readText? text.toUTF8 = some value ∧ check value := by
  obtain ⟨value, hread, hvalue⟩ := (Option.any_eq_true _ _).mp hcheck
  exact ⟨value, by rw [readText?, Json.ofBytes?_toUTF8]; exact hread, hvalue⟩

/-- The compact JSON text of a value. -/
def writeText (codec : Codec α) (value : α) : ByteArray := (Json.render (codec.write value)).toUTF8

/-- Written out and read again, as JSON or as its text, a value comes back as some value. -/
def Returns (codec : Codec α) (value again : α) : Prop :=
  codec.read (codec.write value) = some again ∧
    codec.readText? (codec.writeText value) = some again

/-- Written out and read again, a value comes back as one that is written in the same way. -/
def Settles (codec : Codec α) (value : α) : Prop :=
  ∃ again, codec.Returns value again ∧ codec.write again = codec.write value

/-- A codec whose written values are read back from their texts. -/
class Plain (codec : Codec α) : Prop where
  isPlain_write : ∀ value, (codec.write value).IsPlain

theorem isPlain_write (codec : Codec α) [plain : codec.Plain] (value : α) :
    (codec.write value).IsPlain := plain.isPlain_write value

theorem readText?_writeText (codec : Codec α) [codec.Plain] (value : α) :
    codec.readText? (codec.writeText value) = codec.read (codec.write value) := by
  rw [readText?, writeText, Json.ofBytes?_render (codec.isPlain_write value)]
  rfl

section Settled

variable (codec : Codec α) {keeps : α → Prop} {settle : α → α}
  [settled : codec.Settled keeps settle] [codec.Plain] {value : α}

include settled

theorem returns_settled_iff {again : α} :
    codec.Returns value again ↔ keeps value ∧ again = settle value := by
  rw [Returns, codec.readText?_writeText, and_self, codec.read_write_settled_iff]

/-- What a codec keeps is all that settles. -/
theorem settles_iff : codec.Settles value ↔ keeps value := by
  simp only [Settles, codec.returns_settled_iff]
  constructor
  · rintro ⟨_, ⟨hkeeps, -⟩, -⟩
    exact hkeeps
  · intro hkeeps
    exact ⟨settle value, ⟨hkeeps, rfl⟩, codec.write_settle value⟩

end Settled

section Faithful

variable (codec : Codec α) {keeps : α → Prop} [codec.Faithful keeps] [codec.Plain] {value : α}

theorem returns_iff {again : α} : codec.Returns value again ↔ keeps value ∧ again = value := by
  rw [Returns, codec.readText?_writeText, and_self, codec.read_write_iff]

end Faithful

namespace Plain

instance : Codec.text.Plain := ⟨.string⟩

instance : Codec.bool.Plain := ⟨.bool⟩

instance : Codec.int32.Plain where
  isPlain_write value := by
    have hlow := value.le_toInt
    have hhigh := value.toInt_lt
    exact .integer (by omega) (by omega)

instance : Codec.int64.Plain where
  isPlain_write value := by
    have hlow := value.le_toInt
    have hhigh := value.toInt_lt
    exact .integer (by omega) (by omega)

theorem alternative (ofName? : String → Option α) (name : α → String) :
    (Codec.alternative ofName? name).Plain := ⟨fun value => .string (name value)⟩

variable {item : Codec α} [item.Plain]

instance : (Codec.list item).Plain where
  isPlain_write values := by
    refine .array fun written hmem => ?_
    obtain ⟨value, -, rfl⟩ := List.mem_map.mp hmem
    exact item.isPlain_write value

instance : (Codec.map item).Plain where
  isPlain_write values := by
    refine .object fun written hmem => ?_
    obtain ⟨entry, -, rfl⟩ := List.mem_map.mp hmem
    exact item.isPlain_write entry.2

end Plain

end Codec

/-! ### Records -/

namespace Fields

/-- Fields that write what is read back from its text. -/
class Plain {σ α : Type} (fields : Fields σ α) : Prop where
  isPlain_write : ∀ whole, ∀ entry ∈ fields.write whole, entry.2.IsPlain

namespace Plain

variable {σ α β : Type}

instance pure (value : α) : (Pure.pure value : Fields σ α).Plain where
  isPlain_write _ _ hmem := by cases hmem

instance seq {first : Fields σ (α → β)} {second : Fields σ α} [hfirst : first.Plain]
    [hsecond : second.Plain] : (first <*> second).Plain where
  isPlain_write whole entry hmem := by
    rcases List.mem_append.mp hmem with hmem | hmem
    · exact hfirst.isPlain_write whole entry hmem
    · exact hsecond.isPlain_write whole entry hmem

instance map {fields : Fields σ α} [fields.Plain] (f : α → β) : (f <$> fields).Plain :=
  inferInstanceAs (Pure.pure f <*> fields).Plain

section Members

variable {key : String} {codec : Codec α} [codec.Plain]

instance optional (get : σ → Option α) : (Fields.optional key codec get).Plain where
  isPlain_write whole entry hmem := by
    simp only [Fields.optional] at hmem
    cases hget : get whole with
    | none => simp [hget] at hmem
    | some value =>
        obtain rfl : entry = (key, codec.write value) := by simpa [hget] using hmem
        exact codec.isPlain_write value

instance nullable (get : σ → Option α) : (Fields.nullable key codec get).Plain where
  isPlain_write whole entry hmem := by
    obtain rfl := List.mem_singleton.mp hmem
    cases hget : get whole with
    | none => exact .null
    | some value => exact codec.isPlain_write value

/-- A field that is always written. -/
theorem of_write {fields : Fields σ β} {get : σ → α}
    (hwrite : ∀ whole, fields.write whole = [(key, codec.write (get whole))]) : fields.Plain where
  isPlain_write whole entry hmem := by
    rw [hwrite, List.mem_singleton] at hmem
    exact hmem ▸ codec.isPlain_write (get whole)

instance zeroed (zero : α) (get : σ → α) : (Fields.zeroed key codec zero get).Plain :=
  of_write fun _ => rfl

instance defaulted (default : α) (get : σ → α) :
    (Fields.defaulted key codec default get).Plain := of_write fun _ => rfl

instance required (get : σ → α) : (Fields.required key codec get).Plain := of_write fun _ => rfl

instance listed {codec : Codec (List α)} [codec.Plain] (get : σ → List α) :
    (Fields.listed key codec get).Plain where
  isPlain_write whole entry hmem := by
    simp only [Fields.listed] at hmem
    split at hmem
    · cases hmem
    · obtain rfl := List.mem_singleton.mp hmem
      exact codec.isPlain_write (get whole)

instance constant (text : String) : (Fields.constant key text : Fields σ Unit).Plain where
  isPlain_write whole entry hmem := by
    obtain rfl := List.mem_singleton.mp hmem
    exact .string text

end Members

/-- A written record is an object of what its fields write. -/
theorem isPlain_record {fields : Fields σ σ} [hfields : fields.Plain] (whole : σ) :
    (Json.record (fields.write whole)).IsPlain := by
  refine .object fun entry hmem => ?_
  have hfind : Entries.find? entry.1 (Entries.ofList (fields.write whole)) = some entry.2 :=
    (Entries.find?_eq_some_iff (Entries.ordered_ofList _).nodup).mpr hmem
  rw [Entries.find?_ofList] at hfind
  exact hfields.isPlain_write whole _ (List.mem_reverse.mp (Entries.mem_of_find? hfind))

end Plain

end Fields

namespace Codec.Plain

variable {σ : Type} {fields : Fields σ σ} [fields.Plain]

theorem object : (Fields.object fields).Plain := ⟨Fields.Plain.isPlain_record⟩

theorem strict : (Fields.strict fields).Plain := ⟨Fields.Plain.isPlain_record⟩

end Codec.Plain

end Rollout
