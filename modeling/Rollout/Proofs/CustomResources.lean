import Rollout.Kube.ServiceMonitor
import Rollout.Proofs.Codec.Text
import Rollout.Proofs.Kube.Records
import Rollout.Stack.Spec

/-!
The custom resources have a normal form. Whatever can be read as one is written as a text that is
read back as a value that is written in the same way, so writing it again changes nothing. Settings
that are left out, written as null or written with their default come back as what they were, since
each of them is read in the way that it is written. Only the times in the metadata of a whole object
stand out: some of them cannot be read back, see `ObjectMeta.HasReadableTimes`, and the others lose
the fraction of their second.
-/

namespace Rollout

open Fields (faithful_strict settled_labelled write_map write_required write_seq)

namespace Kube

/-! ### Types of the cluster -/

instance : Time.codec.Plain := ⟨fun time => .string time.toText⟩

instance : Toleration.codec.Plain := .object

instance : OwnerReference.codec.Plain := .object

instance : ManagedFieldsEntry.codec.Plain := .object

instance : ObjectMeta.codec.Plain := .object

instance : LabelSelectorRequirement.codec.Plain := .object

instance : LabelSelector.codec.Plain := .object

/-! ### Service monitors -/

instance : TlsConfig.codec.Faithful fun _ => True := faithful_strict rfl (by decide) (by simp)

instance : TlsConfig.codec.Plain := .strict

instance : Endpoint.codec.Faithful fun _ => True := faithful_strict rfl (by decide) (by simp)

instance : Endpoint.codec.Plain := .strict

instance : NamespaceSelector.codec.Faithful fun _ => True :=
  faithful_strict rfl (by decide) (by simp)

instance : NamespaceSelector.codec.Plain := .strict

instance : ServiceMonitorSpec.codec.Faithful fun _ => True :=
  faithful_strict rfl (by decide) (by simp)

instance : ServiceMonitorSpec.codec.Plain := .strict

instance (metadata : ObjectMeta) : Decidable metadata.HasReadableTimes :=
  inferInstanceAs (Decidable ((∀ time ∈ metadata.creationTimestamp, 0 ≤ time.year) ∧
    (∀ time ∈ metadata.deletionTimestamp, 0 ≤ time.year) ∧
    ∀ entries ∈ metadata.managedFields, ∀ entry ∈ entries, ∀ time ∈ entry.time, 0 ≤ time.year))

end Kube

/-! ### Specs of stacks -/

namespace Stack

instance : Size.codec.Faithful fun _ => True := .alternative Size.ofName?_name

instance : Size.codec.Plain := .alternative _ _

instance : ManagementState.codec.Faithful fun _ => True :=
  .alternative fun state => by cases state <;> decide

instance : ManagementState.codec.Plain := .alternative _ _

instance : SecretRef.codec.Faithful fun _ => True := faithful_strict rfl (by decide) (by simp)

instance : SecretRef.codec.Plain := .strict

instance : StorageSpec.codec.Faithful fun _ => True := faithful_strict rfl (by decide) (by simp)

instance : StorageSpec.codec.Plain := .strict

instance : IngestionLimits.codec.Faithful fun _ => True := faithful_strict rfl (by decide) (by simp)

instance : IngestionLimits.codec.Plain := .strict

instance : QueryLimits.codec.Faithful fun _ => True := faithful_strict rfl (by decide) (by simp)

instance : QueryLimits.codec.Plain := .strict

instance : LimitSet.codec.Faithful fun _ => True := faithful_strict rfl (by decide) (by simp)

instance : LimitSet.codec.Plain := .strict

instance : Limits.codec.Faithful fun _ => True := faithful_strict rfl (by decide) (by simp)

instance : Limits.codec.Plain := .strict

instance : ComponentSpec.codec.Faithful fun _ => True := faithful_strict rfl (by decide) (by simp)

instance : ComponentSpec.codec.Plain := .strict

instance : Template.codec.Faithful fun _ => True := faithful_strict rfl (by decide) (by simp)

instance : Template.codec.Plain := .strict

instance : Spec.codec.Faithful fun _ => True := faithful_strict rfl (by decide) (by simp)

instance : Spec.codec.Plain := .strict

end Stack

/-! ### Whole objects -/

section Resources

open Kube (Definition ObjectMeta ServiceMonitor ServiceMonitorSpec)
open Stack (LokiStack Spec)

variable {σ α : Type} {make : ObjectMeta → α → σ} {metadata : σ → ObjectMeta} {spec : σ → α}
  {codec : Codec α}

/-- The fields that are looked at when a custom resource is read. -/
def resourceFields (make : ObjectMeta → α → σ) (metadata : σ → ObjectMeta) (codec : Codec α)
    (spec : σ → α) : Fields σ σ :=
  make <$> Fields.required "metadata" ObjectMeta.codec metadata
    <*> Fields.required "spec" codec spec

/-- The fields of a custom resource, led by the names that the cluster knows it by. -/
def namedFields (definition : Definition) (make : ObjectMeta → α → σ) (metadata : σ → ObjectMeta)
    (codec : Codec α) (spec : σ → α) : Fields σ σ :=
  (fun _ _ => make) <$> Fields.constant "apiVersion" definition.apiVersion
    <*> Fields.constant "kind" definition.kind
    <*> Fields.required "metadata" ObjectMeta.codec metadata
    <*> Fields.required "spec" codec spec

section Settled

variable (metadata) (settle : σ → σ)
  (hsettle : ∀ whole, make (metadata whole).settle (spec whole) = settle whole)
  (hmetadata : ∀ whole, metadata (settle whole) = (metadata whole).settle)
  (hspec : ∀ whole, spec (settle whole) = spec whole) [codec.Faithful fun _ => True]

include hsettle hmetadata hspec

/-- A resource reads back what its metadata and its spec read back. -/
theorem settled_resource (definition : Definition) :
    (Fields.strict (namedFields definition make metadata codec spec)).Settled
      (fun whole => (metadata whole).HasReadableTimes) settle := by
  have hkeys : (resourceFields make metadata codec spec).keys = ["metadata", "spec"] := rfl
  have hfields : (resourceFields make metadata codec spec).Faithful
      (fun whole => make (metadata whole).settle (spec whole))
      fun whole => (True ∧ (metadata whole).HasReadableTimes) ∧ True := by
    unfold resourceFields
    infer_instance
  have hwrite : ∀ whole, (resourceFields make metadata codec spec).write (settle whole) =
      (resourceFields make metadata codec spec).write whole := by
    intro whole
    simp only [resourceFields, write_map, write_seq, write_required, hmetadata, hspec,
      ObjectMeta.codec.write_settle]
  have hnodup : (resourceFields make metadata codec spec).keys.Nodup := by
    rw [hkeys]
    decide
  exact settled_labelled (resourceFields make metadata codec spec)
    (namedFields definition make metadata codec spec)
    [("apiVersion", .string definition.apiVersion), ("kind", .string definition.kind)]
    rfl (fun _ => rfl) (fun _ => rfl) (by simp [hkeys]) hnodup (funext hsettle) (by simp) hwrite

end Settled

/-- The stack with the times in its metadata at the beginning of a second. -/
def Stack.LokiStack.settle (stack : LokiStack) : LokiStack :=
  { stack with metadata := stack.metadata.settle }

instance : LokiStack.codec.Settled (fun stack => stack.metadata.HasReadableTimes)
    LokiStack.settle :=
  settled_resource LokiStack.metadata _ (fun _ => rfl) (fun _ => rfl) (fun _ => rfl)
    Definition.lokiStack

instance : LokiStack.codec.Plain := .strict

/-- The monitor with the times in its metadata at the beginning of a second. -/
def Kube.ServiceMonitor.settle (monitor : ServiceMonitor) : ServiceMonitor :=
  { monitor with metadata := monitor.metadata.settle }

instance : ServiceMonitor.codec.Settled (fun monitor => monitor.metadata.HasReadableTimes)
    ServiceMonitor.settle :=
  settled_resource ServiceMonitor.metadata _ (fun _ => rfl) (fun _ => rfl) (fun _ => rfl)
    Definition.serviceMonitor

instance : ServiceMonitor.codec.Plain := .strict

/-- Custom resources have a stable normal form: written out and read again, what was read from a
text comes back as something that is written in the same way, and a spec comes back as itself. Whole
objects do so if their metadata does. -/
theorem customResources_settle :
    (∀ text spec, Spec.codec.readText? text = some spec → Spec.codec.Settles spec) ∧
      (∀ text stack, LokiStack.codec.readText? text = some stack →
        ObjectMeta.codec.Settles stack.metadata → LokiStack.codec.Settles stack) ∧
      (∀ text monitor, ServiceMonitor.codec.readText? text = some monitor →
        ObjectMeta.codec.Settles monitor.metadata → ServiceMonitor.codec.Settles monitor) ∧
      (∀ spec, Spec.codec.Returns spec spec) ∧
      ∀ spec, ServiceMonitorSpec.codec.Returns spec spec := by
  refine ⟨fun _ spec _ => ?_, fun _ stack _ hmetadata => ?_, fun _ monitor _ hmetadata => ?_,
    fun spec => ?_, fun spec => ?_⟩
  · exact ⟨spec, Spec.codec.returns_iff.mpr ⟨trivial, rfl⟩, rfl⟩
  · exact LokiStack.codec.settles_iff.mpr (ObjectMeta.codec.settles_iff.mp hmetadata)
  · exact ServiceMonitor.codec.settles_iff.mpr (ObjectMeta.codec.settles_iff.mp hmetadata)
  · exact Spec.codec.returns_iff.mpr ⟨trivial, rfl⟩
  · exact ServiceMonitorSpec.codec.returns_iff.mpr ⟨trivial, rfl⟩

def sparseSpecText : String := "\x7b\"size\":\"1x.small\",\"replicationFactor\":null\x7d"

def emptyStackText : String :=
  "\x7b\"spec\":\x7b\x7d,\"metadata\":\x7b\"creationTimestamp\":\"2024-02-29T12:00:00Z\"\x7d\x7d"

def bareMonitorText : String :=
  "\x7b\"metadata\":\x7b\"name\":\"logs\"\x7d,\"spec\":\x7b\"selector\":\x7b\x7d\x7d\x7d"

/-- Texts that leave out most settings, set one to null and show a time. -/
theorem customResources_settle_sparse :
    (∃ spec, Spec.codec.readText? sparseSpecText.toUTF8 = some spec ∧ spec.size = some .small ∧
      Spec.codec.Settles spec) ∧
    (∃ stack, LokiStack.codec.readText? emptyStackText.toUTF8 = some stack ∧
      stack.metadata.creationTimestamp.isSome ∧ LokiStack.codec.Settles stack) ∧
    ∃ monitor, ServiceMonitor.codec.readText? bareMonitorText.toUTF8 = some monitor ∧
      monitor.metadata.name = some "logs" ∧ ServiceMonitor.codec.Settles monitor := by
  obtain ⟨hspec, hstack, hmonitor, -⟩ := customResources_settle
  obtain ⟨spec, hreadSpec, hsize⟩ := Spec.codec.exists_readText? sparseSpecText
    (fun spec => spec.size = some .small) (by decide +kernel)
  obtain ⟨stack, hreadStack, htimes⟩ := LokiStack.codec.exists_readText? emptyStackText
    (fun stack => stack.metadata.creationTimestamp.isSome ∧ stack.metadata.HasReadableTimes)
    (by decide +kernel)
  obtain ⟨monitor, hreadMonitor, hname⟩ := ServiceMonitor.codec.exists_readText? bareMonitorText
    (fun monitor => monitor.metadata.name = some "logs" ∧ monitor.metadata.HasReadableTimes)
    (by decide +kernel)
  simp only [decide_eq_true_eq] at hsize htimes hname
  exact ⟨⟨spec, hreadSpec, hsize, hspec _ spec hreadSpec⟩,
    ⟨stack, hreadStack, htimes.1,
      hstack _ stack hreadStack (ObjectMeta.codec.settles_iff.mpr htimes.2)⟩,
    ⟨monitor, hreadMonitor, hname.1,
      hmonitor _ monitor hreadMonitor (ObjectMeta.codec.settles_iff.mpr hname.2)⟩⟩

end Resources

end Rollout
