import Rollout.Proofs.Kube.Dynamic
import Rollout.Proofs.Mutation.Owned

/-!
Typed objects as dynamic ones. What is written of a typed object says its type and has its metadata,
so it is read as a dynamic object as soon as the times of the metadata can be read back. All that
the operator owns is then found where the typed object is written to have it.
-/

namespace Rollout.Kube

open Entries (find?)
open Json (lookup?)

/-! ### Written objects -/

/-- What an object is written as says its type and has its metadata. -/
structure WrittenAs (types : TypeMeta) (metadata : ObjectMeta) (entries : List (String × Json)) :
    Prop where
  version : find? "apiVersion" entries = some (.string types.apiVersion)
  kind : find? "kind" entries = some (.string types.kind)
  metadata : find? "metadata" entries = some (ObjectMeta.codec.write metadata)

section Specified

variable {S T σ : Type} {types : TypeMeta} {spec : Codec S} {status : Codec T}
  {make : ObjectMeta → Option S → Option T → σ} {metadata : σ → ObjectMeta}
  {specOf : σ → Option S} {statusOf : σ → Option T}

theorem writtenAs_specified (whole : σ) : ∃ entries,
    (specified types spec status make metadata specOf statusOf).write whole = .object entries ∧
      WrittenAs types (metadata whole) entries := by
  refine ⟨_, rfl, ?_⟩
  cases hspec : specOf whole <;> cases hstatus : statusOf whole <;>
    constructor <;>
      simp [Entries.find?_ofList, Fields.optional, Fields.zeroed, Fields.fixed, Fields.write_seq,
        Fields.write_map, hspec, hstatus]

theorem lookup?_specified_write (rest : List String) (whole : σ) :
    lookup? ("spec" :: rest)
        ((specified types spec status make metadata specOf statusOf).write whole) =
      (specOf whole).bind fun s => lookup? rest (spec.write s) := by
  have hwritten : ((specified types spec status make metadata specOf statusOf).write whole).field?
      "spec" = (specOf whole).map spec.write := by
    have hrecord : ∀ fields, (Json.record fields).field? "spec" = find? "spec" fields.reverse :=
      fun fields => Entries.find?_ofList "spec" fields
    cases hspec : specOf whole <;> cases hstatus : statusOf whole <;>
      simp [specified, Fields.object, hrecord, Fields.optional, Fields.zeroed, Fields.fixed,
        Fields.write_seq, Fields.write_map, hspec, hstatus]
  simp only [lookup?, hwritten]
  cases specOf whole <;> rfl

theorem lookup?_specified_write_of_spec {whole : σ} {s : S} (hspec : specOf whole = some s)
    (key : String) :
    lookup? ["spec", key]
        ((specified types spec status make metadata specOf statusOf).write whole) =
      lookup? [key] (spec.write s) := by
  rw [lookup?_specified_write, hspec, Option.bind_some]

/-- An object is written by what its specification is written as. -/
theorem write_specified_congr {whole other : σ} (hmetadata : metadata whole = metadata other)
    (hspec : (specOf whole).map spec.write = (specOf other).map spec.write)
    (hstatus : statusOf whole = statusOf other) :
    (specified types spec status make metadata specOf statusOf).write whole =
      (specified types spec status make metadata specOf statusOf).write other := by
  have hwritten : ∀ whole : σ,
      (Fields.optional "spec" spec specOf).write whole =
        (((specOf whole).map spec.write).map fun value => ("spec", value)).toList := by
    intro whole
    rw [Fields.write_optional, Option.map_map]
    rfl
  simp only [specified, Fields.object, Fields.write_map, Fields.write_seq, hwritten, hspec,
    Fields.write_zeroed, Fields.write_optional, Fields.write_fixed, hmetadata, hstatus]

end Specified

theorem Deployment.write_congr {whole other : Deployment}
    (hmetadata : whole.metadata = other.metadata)
    (hspec : whole.spec.map DeploymentSpec.codec.write =
      other.spec.map DeploymentSpec.codec.write)
    (hstatus : whole.status = other.status) : codec.write whole = codec.write other := by
  rw [codec_eq]
  exact write_specified_congr hmetadata hspec hstatus

theorem StatefulSet.write_congr {whole other : StatefulSet}
    (hmetadata : whole.metadata = other.metadata)
    (hspec : whole.spec.map StatefulSetSpec.codec.write =
      other.spec.map StatefulSetSpec.codec.write)
    (hstatus : whole.status = other.status) : codec.write whole = codec.write other := by
  rw [codec_eq]
  exact write_specified_congr hmetadata hspec hstatus

theorem ConfigMap.writtenAs (whole : ConfigMap) : ∃ entries,
    codec.write whole = .object entries ∧
      WrittenAs Kind.configMap.types whole.metadata entries := by
  refine ⟨_, rfl, ?_⟩
  cases hbinaryData : whole.binaryData <;> cases hdata : whole.data <;>
    cases himmutable : whole.immutable <;>
      constructor <;>
        simp [Entries.find?_ofList, Fields.optional, Fields.zeroed, Fields.fixed, Fields.write_seq,
          Fields.write_map, hbinaryData, hdata, himmutable, Kind.types, Kind.apiVersion, Kind.name]

theorem ServiceMonitor.writtenAs (whole : ServiceMonitor) : ∃ entries,
    codec.write whole = .object entries ∧
      WrittenAs Kind.serviceMonitor.types whole.metadata entries := by
  refine ⟨_, rfl, ?_⟩
  constructor <;>
    simp [Entries.find?_ofList, Fields.required, Fields.constant, Fields.write_seq,
      Fields.write_map, Kind.types, Kind.apiVersion, Kind.name, Definition.serviceMonitor,
      Definition.apiVersion]

namespace Managed

theorem exists_writtenAs (managed : Managed) : ∃ entries,
    managed.write = .object entries ∧ WrittenAs managed.kind.types managed.metadata entries := by
  cases managed with
  | configMap object => exact object.writtenAs
  | service object =>
      rw [write, Service.codec_eq]
      exact writtenAs_specified object
  | deployment object =>
      rw [write, Deployment.codec_eq]
      exact writtenAs_specified object
  | statefulSet object =>
      rw [write, StatefulSet.codec_eq]
      exact writtenAs_specified object
  | serviceMonitor object => exact object.writtenAs

/-- What an owned field is written as, by its key. -/
def owned (managed : Managed) (key : String) : Option Json :=
  lookup? (managed.kind.holder ++ [key]) managed.write

end Managed

theorem Service.owned_eq {whole : Service} {spec : ServiceSpec} (hspec : whole.spec = some spec) :
    (Managed.service whole).owned = (lookup? [·] (ServiceSpec.codec.write spec)) := by
  funext key
  change lookup? ["spec", key] (codec.write whole) = _
  rw [codec_eq, lookup?_specified_write_of_spec hspec]

theorem Deployment.owned_eq {whole : Deployment} {spec : DeploymentSpec}
    (hspec : whole.spec = some spec) :
    (Managed.deployment whole).owned = (lookup? [·] (DeploymentSpec.codec.write spec)) := by
  funext key
  change lookup? ["spec", key] (codec.write whole) = _
  rw [codec_eq, lookup?_specified_write_of_spec hspec]

theorem StatefulSet.owned_eq {whole : StatefulSet} {spec : StatefulSetSpec}
    (hspec : whole.spec = some spec) :
    (Managed.statefulSet whole).owned = (lookup? [·] (StatefulSetSpec.codec.write spec)) := by
  funext key
  change lookup? ["spec", key] (codec.write whole) = _
  rw [codec_eq, lookup?_specified_write_of_spec hspec]

namespace Managed

/-! ### Converted objects -/

/-- The dynamic object for a typed one, which it is converted to if its times can be read back. -/
def converted (managed : Managed) : DynamicObject where
  types := some managed.kind.types
  metadata := managed.metadata.settle
  data := Entries.erase "metadata" (Entries.erase "kind" (Entries.erase "apiVersion"
    (managed.write.entries?.getD [])))

theorem ofJson?_write (managed : Managed) :
    DynamicObject.ofJson? managed.write =
      (ObjectMeta.codec.read (ObjectMeta.codec.write managed.metadata)).map
        fun metadata => { managed.converted with metadata } := by
  obtain ⟨entries, hentries, hwritten⟩ := managed.exists_writtenAs
  have hclaim : DynamicObject.claimTypes entries = (some managed.kind.types,
      Entries.erase "kind" (Entries.erase "apiVersion" entries)) := by
    rw [DynamicObject.claimTypes, hwritten.version, hwritten.kind]
  have hmetadata : find? "metadata" (Entries.erase "kind" (Entries.erase "apiVersion" entries)) =
      some (ObjectMeta.codec.write managed.metadata) := by
    rw [Entries.find?_erase_of_ne _ (by decide), Entries.find?_erase_of_ne _ (by decide),
      hwritten.metadata]
  simp only [DynamicObject.ofJson?, converted, hentries, hclaim, hmetadata, Json.entries?,
    Option.getD_some]
  cases ObjectMeta.codec.read (ObjectMeta.codec.write managed.metadata) <;> rfl

theorem toDynamic_of_hasReadableTimes {managed : Managed}
    (htimes : managed.metadata.HasReadableTimes) : managed.toDynamic = .ok managed.converted := by
  have hread : ObjectMeta.codec.read (ObjectMeta.codec.write managed.metadata) =
      some managed.metadata.settle := ObjectMeta.codec.read_write_settled_iff.mpr ⟨htimes, rfl⟩
  rw [toDynamic, ofJson?_write, hread]
  rfl

theorem toDynamic_of_not {managed : Managed} (htimes : ¬ managed.metadata.HasReadableTimes) :
    managed.toDynamic = .error (.unwritable managed.kind) := by
  have hread : ObjectMeta.codec.read (ObjectMeta.codec.write managed.metadata) = none :=
    Option.eq_none_iff_forall_ne_some.mpr fun _ hread =>
      htimes (ObjectMeta.codec.read_write_settled_iff.mp hread).1
  rw [toDynamic, ofJson?_write, hread]
  rfl

/-- What is written of a typed object is there in the dynamic one, type and metadata apart. -/
theorem lookup?_root_converted (managed : Managed) {key : String} (rest : List String)
    (hversion : "apiVersion" ≠ key) (hkind : "kind" ≠ key) (hmetadata : "metadata" ≠ key) :
    lookup? (key :: rest) managed.converted.root = lookup? (key :: rest) managed.write := by
  obtain ⟨entries, hentries, -⟩ := managed.exists_writtenAs
  simp only [DynamicObject.root, converted, hentries, Json.entries?, Option.getD_some, lookup?,
    Json.field?_object, Entries.find?_erase_of_ne _ hversion, Entries.find?_erase_of_ne _ hkind,
    Entries.find?_erase_of_ne _ hmetadata]

/-- The owned fields are where the typed object is written to have them. -/
theorem lookup?_converted (managed : Managed) {creating : Bool} {key : String}
    (hkey : key ∈ managed.kind.ownedKeys creating) :
    lookup? (managed.kind.holder ++ [key]) managed.converted.root = managed.owned key := by
  cases managed with
  | configMap object =>
      simp only [kind, Kind.ownedKeys, List.mem_cons, List.not_mem_nil, or_false] at hkey
      rcases hkey with rfl | rfl <;>
        exact lookup?_root_converted _ [] (by decide) (by decide) (by decide)
  | service object | deployment object | statefulSet object =>
      exact lookup?_root_converted _ [key] (by decide) (by decide) (by decide)
  | serviceMonitor object => cases hkey

end Managed

end Rollout.Kube
