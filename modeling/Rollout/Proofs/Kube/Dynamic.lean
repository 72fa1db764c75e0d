import Rollout.Mutation.Typed
import Rollout.Proofs.Kube.Records

/-!
Reading dynamic objects as the kind that they claim to be. What is read is the JSON that the object
is written as, where a field that is named like a part of the type or like the metadata takes its
place. Such a field has to agree with the type. Only the times of the metadata can be in the way of
reading it.
-/

namespace Rollout.Kube

open Entries (Ordered find?)
open Fields (constant exists_read_fixed exists_read_map exists_read_seq fixed object occurrences
  optional read_object_iff read_optional read_required read_strict_iff read_zeroed readLast
  readLast_singleton_write_settled_iff readUnset repeats_of_ordered zeroed)

namespace DynamicObject

/-- The fields of an object, type and metadata among them. -/
def entries (object : DynamicObject) : List (String × Json) :=
  Entries.ofList (typeFields object.types ++
    ("metadata", ObjectMeta.codec.write object.metadata) :: object.data)

theorem toJson_eq (object : DynamicObject) : object.toJson = .object object.entries := rfl

/-- What stands for the metadata in the JSON of an object. -/
def metadataValue (object : DynamicObject) : Json :=
  (find? "metadata" object.data).getD (ObjectMeta.codec.write object.metadata)

/-- No other field stands for the metadata. -/
def ShowsMetadata (object : DynamicObject) : Prop := find? "metadata" object.data = none

/-- Fields that are named like the parts of a type say what the type says. -/
structure Agrees (object : DynamicObject) (types : TypeMeta) : Prop where
  version : ∀ value ∈ find? "apiVersion" object.data, value = .string types.apiVersion
  kind : ∀ value ∈ find? "kind" object.data, value = .string types.kind

section Occurrences

variable {object : DynamicObject} (hordered : Ordered object.data)

include hordered

/-- Other fields stand over type and metadata. -/
theorem occurrences_entries (key : String) :
    occurrences object.entries key =
      ((find? key object.data).or (find? key (typeFields object.types ++
        [("metadata", ObjectMeta.codec.write object.metadata)]).reverse)).toList := by
  have hentries : Ordered object.entries := Entries.ordered_ofList _
  rw [Fields.occurrences_of_ordered hentries, entries, Entries.find?_ofList, List.append_cons,
    List.reverse_append, Entries.find?_append, Entries.find?_reverse hordered.nodup]

theorem occurrences_metadata : occurrences object.entries "metadata" = [object.metadataValue] := by
  rw [occurrences_entries hordered, metadataValue]
  cases hfind : find? "metadata" object.data <;> simp

variable {types : TypeMeta} (htypes : object.types = some types)

include htypes

theorem occurrences_field {key : String} (hversion : "apiVersion" ≠ key) (hkind : "kind" ≠ key)
    (hmetadata : "metadata" ≠ key) :
    occurrences object.entries key = (find? key object.data).toList := by
  rw [occurrences_entries hordered, htypes]
  simp [typeFields, hversion, hkind, hmetadata]

/-- The type of an object is read if all fields that tell of it agree. -/
theorem agrees_iff : object.Agrees types ↔
    (∀ value ∈ occurrences object.entries "apiVersion", value.text? = some types.apiVersion) ∧
      ∀ value ∈ occurrences object.entries "kind", value.text? = some types.kind := by
  have hversion : occurrences object.entries "apiVersion" =
      ((find? "apiVersion" object.data).or (some (.string types.apiVersion))).toList := by
    rw [occurrences_entries hordered, htypes]
    rfl
  have hkind : occurrences object.entries "kind" =
      ((find? "kind" object.data).or (some (.string types.kind))).toList := by
    rw [occurrences_entries hordered, htypes]
    rfl
  have hor : ∀ {found : Option Json} {text : String},
      (∀ value ∈ (found.or (some (.string text))).toList, value.text? = some text) ↔
        ∀ value ∈ found, value = .string text := by
    intro found text
    cases found with
    | none => simp [Json.text?]
    | some value => cases value <;> simp [Json.text?]
  rw [hversion, hkind, hor, hor]
  exact ⟨fun hagrees => ⟨hagrees.version, hagrees.kind⟩, fun hagrees => ⟨hagrees.1, hagrees.2⟩⟩

end Occurrences

end DynamicObject

/-! ### Metadata -/

/-- Reads what stands for the metadata of an object. It may be unset, but for custom resources. -/
def Kind.readMetadata? (kind : Kind) (value : Json) : Option ObjectMeta :=
  if kind = .serviceMonitor then ObjectMeta.codec.read value
  else (readLast ObjectMeta.codec [value]).map (·.getD {})

/-- Written metadata is read back if its times can be, and then as what it is settled to. -/
theorem Kind.readMetadata?_write_iff {kind : Kind} {metadata other : ObjectMeta} :
    kind.readMetadata? (ObjectMeta.codec.write metadata) = some other ↔
      metadata.HasReadableTimes ∧ other = metadata.settle := by
  unfold readMetadata?
  split
  · exact ObjectMeta.codec.read_write_settled_iff
  · rw [Option.map_eq_some_iff]
    constructor
    · rintro ⟨read, hread, rfl⟩
      obtain ⟨htimes, rfl⟩ := readLast_singleton_write_settled_iff.mp hread
      exact ⟨htimes, rfl⟩
    · rintro ⟨htimes, rfl⟩
      exact ⟨_, readLast_singleton_write_settled_iff.mpr ⟨htimes, rfl⟩, rfl⟩

/-- The metadata that an object is read to have, as one of a kind. -/
def DynamicObject.metadata? (object : DynamicObject) (kind : Kind) : Option ObjectMeta :=
  kind.readMetadata? object.metadataValue

theorem DynamicObject.metadata?_of_ne (object : DynamicObject) {kind : Kind}
    (hkind : kind ≠ .serviceMonitor) : object.metadata? kind =
      (readLast ObjectMeta.codec [object.metadataValue]).map (·.getD {}) := if_neg hkind

theorem DynamicObject.metadata?_iff_of_showsMetadata {object : DynamicObject}
    (hshows : object.ShowsMetadata) {kind : Kind} {metadata : ObjectMeta} :
    object.metadata? kind = some metadata ↔
      object.metadata.HasReadableTimes ∧ metadata = object.metadata.settle := by
  rw [metadata?, metadataValue, hshows]
  exact Kind.readMetadata?_write_iff

/-! ### Claimed kinds -/

theorem Kind.ofTypes?_eq_some_iff {types : TypeMeta} {kind : Kind} :
    Kind.ofTypes? types = some kind ↔ types = kind.types := by
  constructor
  · intro hkind
    have heq : kind.types = types := by simpa using List.find?_some hkind
    exact heq.symm
  · rintro rfl
    cases kind <;> rfl

theorem Managed.kind_of_read? {kind : Kind} {value : Json} {managed : Managed}
    (hread : read? kind value = some managed) : managed.kind = kind := by
  cases kind <;>
    (obtain ⟨_, -, rfl⟩ := Option.map_eq_some_iff.mp hread
     rfl)

/-- An object is read as the kind whose type it claims. -/
theorem Managed.ofDynamic_eq {object : DynamicObject} {kind : Kind}
    (htypes : object.types = some kind.types) :
    ofDynamic object = match read? kind object.toJson with
      | some managed => .ok managed
      | none => .error (.unreadable kind) := by
  have hkind : Kind.ofTypes? kind.types = some kind := Kind.ofTypes?_eq_some_iff.mpr rfl
  cases hread : read? kind object.toJson <;> simp [ofDynamic, htypes, hkind, hread]

theorem Managed.ofDynamic_eq_ok_iff_read? {object : DynamicObject} {kind : Kind}
    (htypes : object.types = some kind.types) {managed : Managed} :
    ofDynamic object = .ok managed ↔ read? kind object.toJson = some managed := by
  rw [ofDynamic_eq htypes]
  cases read? kind object.toJson <;> simp

theorem Managed.ofDynamic_eq_ok_iff {object : DynamicObject} {managed : Managed} :
    ofDynamic object = .ok managed ↔
      object.types = some managed.kind.types ∧ read? managed.kind object.toJson = some managed := by
  constructor
  · intro hread
    have hclaim : ∃ kind : Kind, object.types = some kind.types := by
      unfold ofDynamic at hread
      split at hread
      · cases hread
      · next types htypes =>
          split at hread
          · cases hread
          · next kind hkind => exact ⟨kind, Kind.ofTypes?_eq_some_iff.mp hkind ▸ htypes⟩
    obtain ⟨kind, htypes⟩ := hclaim
    rw [ofDynamic_eq_ok_iff_read? htypes] at hread
    rw [kind_of_read? hread]
    exact ⟨htypes, hread⟩
  · rintro ⟨htypes, hread⟩
    exact (ofDynamic_eq_ok_iff_read? htypes).mpr hread

/-! ### Objects with a specification and a state -/

section Specified

variable {S T σ : Type}

/-- Objects that say what is wanted of them and what their state is. -/
def specified (types : TypeMeta) (spec : Codec S) (status : Codec T)
    (make : ObjectMeta → Option S → Option T → σ) (metadata : σ → ObjectMeta)
    (specOf : σ → Option S) (statusOf : σ → Option T) : Codec σ := object <|
  (fun _ _ => make) <$> fixed "apiVersion" types.apiVersion
    <*> fixed "kind" types.kind
    <*> zeroed "metadata" ObjectMeta.codec {} metadata
    <*> optional "spec" spec specOf
    <*> optional "status" status statusOf

theorem Service.codec_eq : codec = specified Kind.service.types ServiceSpec.codec
    ServiceStatus.codec Service.mk Service.metadata Service.spec Service.status := rfl

theorem Deployment.codec_eq : codec = specified Kind.deployment.types DeploymentSpec.codec
    DeploymentStatus.codec Deployment.mk Deployment.metadata Deployment.spec Deployment.status :=
  rfl

theorem StatefulSet.codec_eq : codec = specified Kind.statefulSet.types StatefulSetSpec.codec
    StatefulSetStatus.codec StatefulSet.mk StatefulSet.metadata StatefulSet.spec
    StatefulSet.status := rfl

variable {kind : Kind} {spec : Codec S} {status : Codec T}
  {make : ObjectMeta → Option S → Option T → σ} {metadata : σ → ObjectMeta}
  {specOf : σ → Option S} {statusOf : σ → Option T}

theorem read_specified_iff {object : DynamicObject} (hordered : Ordered object.data)
    (htypes : object.types = some kind.types) (hkind : kind ≠ .serviceMonitor) {whole : σ} :
    (specified kind.types spec status make metadata specOf statusOf).read object.toJson =
        some whole ↔
      object.Agrees kind.types ∧ ∃ m, object.metadata? kind = some m ∧
        ∃ s, readLast spec (find? "spec" object.data).toList = some s ∧
          ∃ t, readLast status (find? "status" object.data).toList = some t ∧
            make m s t = whole := by
  have hspec : occurrences object.entries "spec" = (find? "spec" object.data).toList :=
    DynamicObject.occurrences_field hordered htypes (by decide) (by decide) (by decide)
  have hstatus : occurrences object.entries "status" = (find? "status" object.data).toList :=
    DynamicObject.occurrences_field hordered htypes (by decide) (by decide) (by decide)
  simp only [specified, DynamicObject.toJson_eq, read_object_iff, exists_read_seq, exists_read_map,
    exists_read_fixed, read_optional, read_zeroed, DynamicObject.occurrences_metadata hordered,
    hspec, hstatus, object.metadata?_of_ne hkind, DynamicObject.agrees_iff hordered htypes,
    and_assoc]

theorem readLast_object (codec : Codec S) (entries : List (String × Json)) :
    readLast codec [Json.object entries] = (codec.read (Json.object entries)).map some := by
  simp only [readLast, readUnset, Source.isUnset?, Json.isNull, List.mapM_cons, List.mapM_nil]
  cases codec.read (Json.object entries) <;> rfl

/-- Reads nothing but objects, and a default from the empty one. -/
structure ReadsObjects (codec : Codec S) (zero : S) : Prop where
  of_not_object : ∀ value : Json, value.isObject = false → codec.read value = none
  of_empty : codec.read Json.emptyObject = some zero

theorem ServiceSpec.readsObjects : ReadsObjects ServiceSpec.codec {} where
  of_not_object value hvalue := by cases value <;> first | rfl | cases hvalue
  of_empty := rfl

theorem DeploymentSpec.readsObjects : ReadsObjects DeploymentSpec.codec {} where
  of_not_object value hvalue := by cases value <;> first | rfl | cases hvalue
  of_empty := rfl

theorem StatefulSetSpec.readsObjects : ReadsObjects StatefulSetSpec.codec {} where
  of_not_object value hvalue := by cases value <;> first | rfl | cases hvalue
  of_empty := rfl

/-- A specification stands in an object, unless it is left out or null. -/
theorem ReadsObjects.exists_entries {zero : S} (hspec : ReadsObjects spec zero)
    {value : Option Json} {s : Option S} (hread : readLast spec value.toList = some s) :
    ∃ entries, Json.orObject value = .object entries ∧
      spec.read (Json.object entries) = some (s.getD zero) := by
  cases value with
  | none =>
      obtain rfl : none = s := Option.some.inj hread
      exact ⟨[], rfl, hspec.of_empty⟩
  | some value =>
      have hother : ¬ (value.isNull = false ∧ value.isObject = false) := fun ⟨hnull, hobject⟩ => by
        simp [readLast, readUnset, Source.isUnset?, hnull, hspec.of_not_object value hobject]
          at hread
      cases value with
      | null =>
          obtain rfl : none = s := Option.some.inj hread
          exact ⟨[], rfl, hspec.of_empty⟩
      | object entries =>
          rw [Option.toList_some, readLast_object] at hread
          obtain ⟨found, hfound, rfl⟩ := Option.map_eq_some_iff.mp hread
          exact ⟨entries, rfl, hfound⟩
      | _ => exact absurd ⟨rfl, rfl⟩ hother

variable {object : DynamicObject} (hordered : Ordered object.data)
  (htypes : object.types = some kind.types) (hkind : kind ≠ .serviceMonitor) {whole : σ}

include hordered htypes hkind

/-- What a read object has of its metadata, its specification and its state. -/
theorem exists_of_read_specified {zero : S} (hspec : ReadsObjects spec zero)
    (hread : (specified kind.types spec status make metadata specOf statusOf).read object.toJson =
      some whole) :
    ∃ m s t inner, make m s t = whole ∧ object.Agrees kind.types ∧
      object.metadata? kind = some m ∧
      Json.orObject (find? "spec" object.data) = .object inner ∧
      spec.read (Json.object inner) = some (s.getD zero) ∧
      readLast status (find? "status" object.data).toList = some t := by
  obtain ⟨hagrees, m, hm, s, hs, t, ht, hwhole⟩ :=
    (read_specified_iff hordered htypes hkind).mp hread
  obtain ⟨inner, hinner, hzeroed⟩ := hspec.exists_entries hs
  exact ⟨m, s, t, inner, hwhole, hagrees, hm, hinner, hzeroed, ht⟩

/-- A read object with its specification put anew into the dynamic one. -/
theorem read_specified_object_iff (hagrees : object.Agrees kind.types) {m : ObjectMeta}
    (hm : object.metadata? kind = some m)
    {inner : List (String × Json)} (hinner : find? "spec" object.data = some (.object inner))
    {t : Option T} (hstatus : readLast status (find? "status" object.data).toList = some t) :
    (specified kind.types spec status make metadata specOf statusOf).read object.toJson =
        some whole ↔
      ∃ s, spec.read (Json.object inner) = some s ∧ make m (some s) t = whole := by
  rw [read_specified_iff hordered htypes hkind, hinner, Option.toList_some, readLast_object,
    hstatus, hm]
  constructor
  · rintro ⟨-, _, hmetadata, _, hread, _, ht, rfl⟩
    cases hmetadata
    cases ht
    obtain ⟨s, hs, rfl⟩ := Option.map_eq_some_iff.mp hread
    exact ⟨s, hs, rfl⟩
  · rintro ⟨s, hs, rfl⟩
    exact ⟨hagrees, m, rfl, some s, by rw [hs, Option.map_some], t, rfl, rfl⟩

end Specified

/-! ### Other objects -/

theorem ConfigMap.read_iff {object : DynamicObject} (hordered : Ordered object.data)
    (htypes : object.types = some Kind.configMap.types) {whole : ConfigMap} :
    codec.read object.toJson = some whole ↔
      object.Agrees Kind.configMap.types ∧
        ∃ binaryData, readLast (.map bytesCodec) (find? "binaryData" object.data).toList =
            some binaryData ∧
          ∃ data, readLast (.map .text) (find? "data" object.data).toList = some data ∧
            ∃ immutable, readLast .bool (find? "immutable" object.data).toList = some immutable ∧
              ∃ m, object.metadata? .configMap = some m ∧
                ConfigMap.mk binaryData data immutable m = whole := by
  have hbinaryData : occurrences object.entries "binaryData" =
      (find? "binaryData" object.data).toList :=
    DynamicObject.occurrences_field hordered htypes (by decide) (by decide) (by decide)
  have hdata : occurrences object.entries "data" = (find? "data" object.data).toList :=
    DynamicObject.occurrences_field hordered htypes (by decide) (by decide) (by decide)
  have himmutable : occurrences object.entries "immutable" =
      (find? "immutable" object.data).toList :=
    DynamicObject.occurrences_field hordered htypes (by decide) (by decide) (by decide)
  have hagrees : object.Agrees Kind.configMap.types ↔
      (∀ value ∈ occurrences object.entries "apiVersion", value.text? = some "v1") ∧
        ∀ value ∈ occurrences object.entries "kind", value.text? = some "ConfigMap" :=
    DynamicObject.agrees_iff hordered htypes
  simp only [codec, DynamicObject.toJson_eq, read_object_iff, exists_read_seq, exists_read_map,
    exists_read_fixed, read_optional, read_zeroed, DynamicObject.occurrences_metadata hordered,
    hbinaryData, hdata, himmutable, hagrees,
    object.metadata?_of_ne (by decide : Kind.configMap ≠ _), and_assoc]

theorem ServiceMonitor.read_iff {object : DynamicObject} (hordered : Ordered object.data)
    (htypes : object.types = some Kind.serviceMonitor.types) {whole : ServiceMonitor} :
    codec.read object.toJson = some whole ↔
      ∃ m, object.metadata? .serviceMonitor = some m ∧
        ∃ spec, (find? "spec" object.data).bind ServiceMonitorSpec.codec.read = some spec ∧
          ServiceMonitor.mk m spec = whole := by
  have hspec : occurrences object.entries "spec" = (find? "spec" object.data).toList :=
    DynamicObject.occurrences_field hordered htypes (by decide) (by decide) (by decide)
  have hmetadata : occurrences object.entries "metadata" = (some object.metadataValue).toList :=
    DynamicObject.occurrences_metadata hordered
  have hread : object.metadata? .serviceMonitor = ObjectMeta.codec.read object.metadataValue := rfl
  simp only [codec, DynamicObject.toJson_eq, read_strict_iff, exists_read_seq, exists_read_map,
    read_required hmetadata, read_required hspec]
  simp [repeats_of_ordered (Entries.ordered_ofList _), constant, DynamicObject.entries, hread]

end Rollout.Kube
