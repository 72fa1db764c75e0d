import Rollout.Kube.Managed
import Rollout.Proofs.Codec.Faithful
import Rollout.Proofs.Kube.Time
import Rollout.Proofs.Text.Base64

/-!
What objects of a cluster are made of reads back as it is written. Only times stand out: those
before the year zero are refused, and of the others the fraction of a second is lost. So metadata,
templates of pods and claims for volumes keep a condition on their times and settle to whole
seconds, and everything else reads back whatever it holds.
-/

namespace Rollout.Kube

open Fields (faithful_object settled_object write_fixed write_map write_optional write_seq
  write_zeroed)

/-! ### Values -/

instance : IntOrText.codec.Faithful fun _ => True := by
  refine .of_read_write (fun value => ?_) fun value => ?_
  · cases value <;> rfl
  · cases value with
    | number value =>
        have hread : Codec.int32.read (Codec.int32.write value) = some value :=
          Codec.int32.read_write_iff.mpr ⟨trivial, rfl⟩
        simp [IntOrText.codec, hread]
    | text value => rfl

instance : Quantity.codec.Faithful fun _ => True := .of_read_write (fun _ => rfl) fun _ => rfl

instance : bytesCodec.Faithful fun _ => True := by
  refine .of_read_write (fun _ => rfl) fun bytes => ?_
  have hdecode := Text.Base64.decode?_encode bytes
  simp [bytesCodec, Source.isUnset?, Source.text?, Json.isNull, Json.text?, hdecode]

instance : Time.codec.Settled Time.IsReadable Time.dropFraction where
  isNull_write _ := rfl
  write_settle _ := rfl
  read_write_iff time other := by
    have hread : Time.codec.read (Time.codec.write time) = Time.ofText? time.toText := by
      simp [Time.codec, Source.text?, Json.text?]
    rw [hread]
    constructor
    · intro hother
      have hreadable := Time.isReadable_of_ofText? hother
      rw [Time.ofText?_toText hreadable] at hother
      exact ⟨hreadable, (Option.some.inj hother).symm⟩
    · rintro ⟨hreadable, rfl⟩
      exact Time.ofText?_toText hreadable

/-! ### Metadata, selections and references -/

instance : OwnerReference.codec.Faithful fun _ => True := faithful_object rfl (by decide) (by simp)

/-- The time at which fields were set can be read back. -/
def ManagedFieldsEntry.HasReadableTime (entry : ManagedFieldsEntry) : Prop :=
  ∀ time ∈ entry.time, time.IsReadable

def ManagedFieldsEntry.settle (entry : ManagedFieldsEntry) : ManagedFieldsEntry :=
  { entry with time := entry.time.map Time.dropFraction }

instance : ManagedFieldsEntry.codec.Settled ManagedFieldsEntry.HasReadableTime
    ManagedFieldsEntry.settle := by
  refine settled_object rfl (by decide) (by simp [ManagedFieldsEntry.HasReadableTime]) fun _ => ?_
  simp [ManagedFieldsEntry.settle, write_map, write_seq, write_optional, Function.comp_def,
    Time.codec.write_settle]

/-- All times in the metadata of an object can be read back. -/
def ObjectMeta.HasReadableTimes (metadata : ObjectMeta) : Prop :=
  (∀ time ∈ metadata.creationTimestamp, time.IsReadable) ∧
    (∀ time ∈ metadata.deletionTimestamp, time.IsReadable) ∧
    ∀ entries ∈ metadata.managedFields, ∀ entry ∈ entries, entry.HasReadableTime

/-- The metadata with all its times at the beginning of a second. -/
def ObjectMeta.settle (metadata : ObjectMeta) : ObjectMeta :=
  { metadata with
    creationTimestamp := metadata.creationTimestamp.map Time.dropFraction
    deletionTimestamp := metadata.deletionTimestamp.map Time.dropFraction
    managedFields := metadata.managedFields.map (List.map ManagedFieldsEntry.settle) }

instance : ObjectMeta.codec.Settled ObjectMeta.HasReadableTimes ObjectMeta.settle := by
  refine settled_object rfl (by decide) (by simp [ObjectMeta.HasReadableTimes, and_assoc])
    fun _ => ?_
  simp [ObjectMeta.settle, write_map, write_seq, write_optional, Function.comp_def,
    Time.codec.write_settle, (Codec.list ManagedFieldsEntry.codec).write_settle]

instance : LabelSelectorRequirement.codec.Faithful fun _ => True :=
  faithful_object rfl (by decide) (by simp)

instance : LabelSelector.codec.Faithful fun _ => True := faithful_object rfl (by decide) (by simp)

instance : LocalObjectReference.codec.Faithful fun _ => True :=
  faithful_object rfl (by decide) (by simp)

instance : TypedLocalObjectReference.codec.Faithful fun _ => True :=
  faithful_object rfl (by decide) (by simp)

instance : TypedObjectReference.codec.Faithful fun _ => True :=
  faithful_object rfl (by decide) (by simp)

/-! ### Services -/

instance : ServicePort.codec.Faithful fun _ => True := faithful_object rfl (by decide) (by simp)

instance : ClientIpConfig.codec.Faithful fun _ => True := faithful_object rfl (by decide) (by simp)

instance : SessionAffinityConfig.codec.Faithful fun _ => True :=
  faithful_object rfl (by decide) (by simp)

/-! ### Variables of containers -/

instance : KeySelector.codec.Faithful fun _ => True := faithful_object rfl (by decide) (by simp)

instance : ObjectFieldSelector.codec.Faithful fun _ => True :=
  faithful_object rfl (by decide) (by simp)

instance : FileKeySelector.codec.Faithful fun _ => True := faithful_object rfl (by decide) (by simp)

instance : ResourceFieldSelector.codec.Faithful fun _ => True :=
  faithful_object rfl (by decide) (by simp)

instance : EnvVarSource.codec.Faithful fun _ => True := faithful_object rfl (by decide) (by simp)

instance : EnvVar.codec.Faithful fun _ => True := faithful_object rfl (by decide) (by simp)

instance : EnvSource.codec.Faithful fun _ => True := faithful_object rfl (by decide) (by simp)

instance : EnvFromSource.codec.Faithful fun _ => True := faithful_object rfl (by decide) (by simp)

/-! ### Permissions -/

instance : SecurityProfile.codec.Faithful fun _ => True := faithful_object rfl (by decide) (by simp)

instance : SeLinuxOptions.codec.Faithful fun _ => True := faithful_object rfl (by decide) (by simp)

instance : WindowsSecurityContext.codec.Faithful fun _ => True :=
  faithful_object rfl (by decide) (by simp)

instance : Capabilities.codec.Faithful fun _ => True := faithful_object rfl (by decide) (by simp)

instance : Sysctl.codec.Faithful fun _ => True := faithful_object rfl (by decide) (by simp)

instance : PodSecurityContext.codec.Faithful fun _ => True :=
  faithful_object rfl (by decide) (by simp)

instance : SecurityContext.codec.Faithful fun _ => True := faithful_object rfl (by decide) (by simp)

/-! ### Containers -/

instance : ResourceClaim.codec.Faithful fun _ => True := faithful_object rfl (by decide) (by simp)

instance : ResourceRequirements.codec.Faithful fun _ => True :=
  faithful_object rfl (by decide) (by simp)

instance : ContainerPort.codec.Faithful fun _ => True := faithful_object rfl (by decide) (by simp)

instance : ExecAction.codec.Faithful fun _ => True := faithful_object rfl (by decide) (by simp)

instance : GrpcAction.codec.Faithful fun _ => True := faithful_object rfl (by decide) (by simp)

instance : HttpHeader.codec.Faithful fun _ => True := faithful_object rfl (by decide) (by simp)

instance : HttpGet.codec.Faithful fun _ => True := faithful_object rfl (by decide) (by simp)

instance : TcpSocketAction.codec.Faithful fun _ => True := faithful_object rfl (by decide) (by simp)

instance : SleepAction.codec.Faithful fun _ => True := faithful_object rfl (by decide) (by simp)

instance : Probe.codec.Faithful fun _ => True := faithful_object rfl (by decide) (by simp)

instance : LifecycleHandler.codec.Faithful fun _ => True :=
  faithful_object rfl (by decide) (by simp)

instance : Lifecycle.codec.Faithful fun _ => True := faithful_object rfl (by decide) (by simp)

instance : ContainerResizePolicy.codec.Faithful fun _ => True :=
  faithful_object rfl (by decide) (by simp)

instance : ContainerRestartRuleOnExitCodes.codec.Faithful fun _ => True :=
  faithful_object rfl (by decide) (by simp)

instance : ContainerRestartRule.codec.Faithful fun _ => True :=
  faithful_object rfl (by decide) (by simp)

instance : VolumeDevice.codec.Faithful fun _ => True := faithful_object rfl (by decide) (by simp)

instance : VolumeMount.codec.Faithful fun _ => True := faithful_object rfl (by decide) (by simp)

instance : Container.fields.Faithful id fun _ => True := by
  unfold Container.fields
  exact Fields.Faithful.congr _ rfl (by simp)

instance : Container.codec.Faithful fun _ => True := faithful_object rfl (by decide) (by simp)

instance : EphemeralContainer.codec.Faithful fun _ => True :=
  faithful_object rfl (by decide) (by simp)

/-! ### Places of pods -/

instance : Toleration.codec.Faithful fun _ => True := faithful_object rfl (by decide) (by simp)

instance : NodeSelectorRequirement.codec.Faithful fun _ => True :=
  faithful_object rfl (by decide) (by simp)

instance : NodeSelectorTerm.codec.Faithful fun _ => True :=
  faithful_object rfl (by decide) (by simp)

instance : NodeSelector.codec.Faithful fun _ => True := faithful_object rfl (by decide) (by simp)

instance : PreferredSchedulingTerm.codec.Faithful fun _ => True :=
  faithful_object rfl (by decide) (by simp)

instance : NodeAffinity.codec.Faithful fun _ => True := faithful_object rfl (by decide) (by simp)

instance : PodAffinityTerm.codec.Faithful fun _ => True := faithful_object rfl (by decide) (by simp)

instance : WeightedPodAffinityTerm.codec.Faithful fun _ => True :=
  faithful_object rfl (by decide) (by simp)

instance : PodAffinity.codec.Faithful fun _ => True := faithful_object rfl (by decide) (by simp)

instance : Affinity.codec.Faithful fun _ => True := faithful_object rfl (by decide) (by simp)

instance : TopologySpreadConstraint.codec.Faithful fun _ => True :=
  faithful_object rfl (by decide) (by simp)

/-! ### Claims for volumes -/

instance : VolumeResourceRequirements.codec.Faithful fun _ => True :=
  faithful_object rfl (by decide) (by simp)

instance : PersistentVolumeClaimSpec.codec.Faithful fun _ => True :=
  faithful_object rfl (by decide) (by simp)

instance : ModifyVolumeStatus.codec.Faithful fun _ => True :=
  faithful_object rfl (by decide) (by simp)

/-- The times of a condition can be read back. -/
def PersistentVolumeClaimCondition.HasReadableTimes (condition : PersistentVolumeClaimCondition) :
    Prop :=
  (∀ time ∈ condition.lastProbeTime, time.IsReadable) ∧
    ∀ time ∈ condition.lastTransitionTime, time.IsReadable

def PersistentVolumeClaimCondition.settle (condition : PersistentVolumeClaimCondition) :
    PersistentVolumeClaimCondition :=
  { condition with
    lastProbeTime := condition.lastProbeTime.map Time.dropFraction
    lastTransitionTime := condition.lastTransitionTime.map Time.dropFraction }

instance : PersistentVolumeClaimCondition.codec.Settled
    PersistentVolumeClaimCondition.HasReadableTimes PersistentVolumeClaimCondition.settle := by
  refine settled_object rfl (by decide) (by simp [PersistentVolumeClaimCondition.HasReadableTimes])
    fun _ => ?_
  simp [PersistentVolumeClaimCondition.settle, write_map, write_seq, write_optional, write_zeroed,
    Function.comp_def, Time.codec.write_settle]

/-- The times of all conditions can be read back. -/
def PersistentVolumeClaimStatus.HasReadableTimes (status : PersistentVolumeClaimStatus) : Prop :=
  ∀ conditions ∈ status.conditions, ∀ condition ∈ conditions, condition.HasReadableTimes

def PersistentVolumeClaimStatus.settle (status : PersistentVolumeClaimStatus) :
    PersistentVolumeClaimStatus :=
  { status with
    conditions := status.conditions.map (List.map PersistentVolumeClaimCondition.settle) }

instance : PersistentVolumeClaimStatus.codec.Settled PersistentVolumeClaimStatus.HasReadableTimes
    PersistentVolumeClaimStatus.settle := by
  refine settled_object rfl (by decide) (by simp [PersistentVolumeClaimStatus.HasReadableTimes])
    fun _ => ?_
  simp [PersistentVolumeClaimStatus.settle, write_map, write_seq, write_optional, Function.comp_def,
    (Codec.list PersistentVolumeClaimCondition.codec).write_settle]

/-- The times in the metadata and in the state of a claim can be read back. -/
def PersistentVolumeClaim.HasReadableTimes (claim : PersistentVolumeClaim) : Prop :=
  claim.metadata.HasReadableTimes ∧ ∀ status ∈ claim.status, status.HasReadableTimes

def PersistentVolumeClaim.settle (claim : PersistentVolumeClaim) : PersistentVolumeClaim :=
  { claim with
    metadata := claim.metadata.settle
    status := claim.status.map PersistentVolumeClaimStatus.settle }

instance : PersistentVolumeClaim.codec.Settled PersistentVolumeClaim.HasReadableTimes
    PersistentVolumeClaim.settle := by
  refine settled_object rfl (by decide) (by simp [PersistentVolumeClaim.HasReadableTimes])
    fun _ => ?_
  simp [PersistentVolumeClaim.settle, write_map, write_seq, write_fixed, write_optional,
    write_zeroed, Function.comp_def, ObjectMeta.codec.write_settle,
    PersistentVolumeClaimStatus.codec.write_settle]

/-- The times in the metadata for claims that are made from a template can be read back. -/
def PersistentVolumeClaimTemplate.HasReadableTimes (template : PersistentVolumeClaimTemplate) :
    Prop :=
  ∀ metadata ∈ template.metadata, metadata.HasReadableTimes

def PersistentVolumeClaimTemplate.settle (template : PersistentVolumeClaimTemplate) :
    PersistentVolumeClaimTemplate :=
  { template with metadata := template.metadata.map ObjectMeta.settle }

instance : PersistentVolumeClaimTemplate.codec.Settled
    PersistentVolumeClaimTemplate.HasReadableTimes PersistentVolumeClaimTemplate.settle := by
  refine settled_object rfl (by decide) (by simp [PersistentVolumeClaimTemplate.HasReadableTimes])
    fun _ => ?_
  simp [PersistentVolumeClaimTemplate.settle, write_map, write_seq, write_optional, write_zeroed,
    Function.comp_def, ObjectMeta.codec.write_settle]

/-! ### Volumes -/

instance : KeyToPath.codec.Faithful fun _ => True := faithful_object rfl (by decide) (by simp)

instance : SecretVolume.codec.Faithful fun _ => True := faithful_object rfl (by decide) (by simp)

instance : ConfigMapVolume.codec.Faithful fun _ => True := faithful_object rfl (by decide) (by simp)

instance : DownwardApiFile.codec.Faithful fun _ => True := faithful_object rfl (by decide) (by simp)

instance : DownwardApiVolume.codec.Faithful fun _ => True :=
  faithful_object rfl (by decide) (by simp)

instance : ClusterTrustBundleProjection.codec.Faithful fun _ => True :=
  faithful_object rfl (by decide) (by simp)

instance : KeysProjection.codec.Faithful fun _ => True := faithful_object rfl (by decide) (by simp)

instance : DownwardApiProjection.codec.Faithful fun _ => True :=
  faithful_object rfl (by decide) (by simp)

instance : PodCertificateProjection.codec.Faithful fun _ => True :=
  faithful_object rfl (by decide) (by simp)

instance : ServiceAccountTokenProjection.codec.Faithful fun _ => True :=
  faithful_object rfl (by decide) (by simp)

instance : VolumeProjection.codec.Faithful fun _ => True :=
  faithful_object rfl (by decide) (by simp)

instance : ProjectedVolume.codec.Faithful fun _ => True := faithful_object rfl (by decide) (by simp)

instance : ImageVolume.codec.Faithful fun _ => True := faithful_object rfl (by decide) (by simp)

instance : GitRepoVolume.codec.Faithful fun _ => True := faithful_object rfl (by decide) (by simp)

instance : EmptyDirVolume.codec.Faithful fun _ => True := faithful_object rfl (by decide) (by simp)

instance : HostPathVolume.codec.Faithful fun _ => True := faithful_object rfl (by decide) (by simp)

instance : ClaimVolume.codec.Faithful fun _ => True := faithful_object rfl (by decide) (by simp)

instance : AwsElasticBlockStoreVolume.codec.Faithful fun _ => True :=
  faithful_object rfl (by decide) (by simp)

instance : AzureDiskVolume.codec.Faithful fun _ => True := faithful_object rfl (by decide) (by simp)

instance : AzureFileVolume.codec.Faithful fun _ => True := faithful_object rfl (by decide) (by simp)

instance : CephFsVolume.codec.Faithful fun _ => True := faithful_object rfl (by decide) (by simp)

instance : CinderVolume.codec.Faithful fun _ => True := faithful_object rfl (by decide) (by simp)

instance : CsiVolume.codec.Faithful fun _ => True := faithful_object rfl (by decide) (by simp)

instance : FcVolume.codec.Faithful fun _ => True := faithful_object rfl (by decide) (by simp)

instance : FlexVolume.codec.Faithful fun _ => True := faithful_object rfl (by decide) (by simp)

instance : FlockerVolume.codec.Faithful fun _ => True := faithful_object rfl (by decide) (by simp)

instance : GcePersistentDiskVolume.codec.Faithful fun _ => True :=
  faithful_object rfl (by decide) (by simp)

instance : GlusterfsVolume.codec.Faithful fun _ => True := faithful_object rfl (by decide) (by simp)

instance : IscsiVolume.codec.Faithful fun _ => True := faithful_object rfl (by decide) (by simp)

instance : NfsVolume.codec.Faithful fun _ => True := faithful_object rfl (by decide) (by simp)

instance : PhotonPersistentDiskVolume.codec.Faithful fun _ => True :=
  faithful_object rfl (by decide) (by simp)

instance : PortworxVolume.codec.Faithful fun _ => True := faithful_object rfl (by decide) (by simp)

instance : QuobyteVolume.codec.Faithful fun _ => True := faithful_object rfl (by decide) (by simp)

instance : RbdVolume.codec.Faithful fun _ => True := faithful_object rfl (by decide) (by simp)

instance : ScaleIoVolume.codec.Faithful fun _ => True := faithful_object rfl (by decide) (by simp)

instance : StorageOsVolume.codec.Faithful fun _ => True := faithful_object rfl (by decide) (by simp)

instance : VsphereVirtualDiskVolume.codec.Faithful fun _ => True :=
  faithful_object rfl (by decide) (by simp)

/-- A volume has times only in the template of the claim that is made for it. -/
def EphemeralVolume.HasReadableTimes (volume : EphemeralVolume) : Prop :=
  ∀ template ∈ volume.volumeClaimTemplate, template.HasReadableTimes

def EphemeralVolume.settle (volume : EphemeralVolume) : EphemeralVolume :=
  { volume with
    volumeClaimTemplate := volume.volumeClaimTemplate.map PersistentVolumeClaimTemplate.settle }

instance : EphemeralVolume.codec.Settled EphemeralVolume.HasReadableTimes
    EphemeralVolume.settle := by
  refine settled_object rfl (by decide) (by simp [EphemeralVolume.HasReadableTimes]) fun _ => ?_
  simp [EphemeralVolume.settle, write_map, write_optional, Function.comp_def,
    PersistentVolumeClaimTemplate.codec.write_settle]

/-- A volume has times only in the template of the claim that is made for it. -/
def Volume.HasReadableTimes (volume : Volume) : Prop :=
  ∀ ephemeral ∈ volume.ephemeral, ephemeral.HasReadableTimes

def Volume.settle (volume : Volume) : Volume :=
  { volume with ephemeral := volume.ephemeral.map EphemeralVolume.settle }

instance : Volume.codec.Settled Volume.HasReadableTimes Volume.settle := by
  refine settled_object rfl (by decide) (by simp [Volume.HasReadableTimes]) fun _ => ?_
  simp [Volume.settle, write_map, write_seq, write_optional, write_zeroed, Function.comp_def,
    EphemeralVolume.codec.write_settle]

/-! ### Pods -/

instance : PodDnsConfigOption.codec.Faithful fun _ => True :=
  faithful_object rfl (by decide) (by simp)

instance : PodDnsConfig.codec.Faithful fun _ => True := faithful_object rfl (by decide) (by simp)

instance : HostAlias.codec.Faithful fun _ => True := faithful_object rfl (by decide) (by simp)

instance : PodOs.codec.Faithful fun _ => True := faithful_object rfl (by decide) (by simp)

instance : PodReadinessGate.codec.Faithful fun _ => True :=
  faithful_object rfl (by decide) (by simp)

instance : PodResourceClaim.codec.Faithful fun _ => True :=
  faithful_object rfl (by decide) (by simp)

instance : PodSchedulingGate.codec.Faithful fun _ => True :=
  faithful_object rfl (by decide) (by simp)

instance : WorkloadReference.codec.Faithful fun _ => True :=
  faithful_object rfl (by decide) (by simp)

/-- The times of all volumes can be read back. -/
def PodSpec.HasReadableTimes (spec : PodSpec) : Prop :=
  ∀ volumes ∈ spec.volumes, ∀ volume ∈ volumes, volume.HasReadableTimes

def PodSpec.settle (spec : PodSpec) : PodSpec :=
  { spec with volumes := spec.volumes.map (List.map Volume.settle) }

set_option synthInstance.maxSize 1000 in
instance : PodSpec.codec.Settled PodSpec.HasReadableTimes PodSpec.settle := by
  refine settled_object rfl (by decide) (by simp [PodSpec.HasReadableTimes]) fun _ => ?_
  simp [PodSpec.settle, write_map, write_seq, write_optional, write_zeroed, Function.comp_def,
    (Codec.list Volume.codec).write_settle]

/-- The times in the metadata of a template's pods and in what they run can be read back. -/
def PodTemplate.HasReadableTimes (template : PodTemplate) : Prop :=
  (∀ metadata ∈ template.metadata, metadata.HasReadableTimes) ∧
    ∀ spec ∈ template.spec, spec.HasReadableTimes

def PodTemplate.settle (template : PodTemplate) : PodTemplate :=
  { metadata := template.metadata.map ObjectMeta.settle
    spec := template.spec.map PodSpec.settle }

instance : PodTemplate.codec.Settled PodTemplate.HasReadableTimes PodTemplate.settle := by
  refine settled_object rfl (by decide) (by simp [PodTemplate.HasReadableTimes]) fun _ => ?_
  simp [PodTemplate.settle, write_map, write_seq, write_optional, Function.comp_def,
    ObjectMeta.codec.write_settle, PodSpec.codec.write_settle]

/-! ### Strategies -/

instance : RollingUpdateDeployment.codec.Faithful fun _ => True :=
  faithful_object rfl (by decide) (by simp)

instance : DeploymentStrategy.codec.Faithful fun _ => True :=
  faithful_object rfl (by decide) (by simp)

instance : RollingUpdateStatefulSet.codec.Faithful fun _ => True :=
  faithful_object rfl (by decide) (by simp)

instance : StatefulSetUpdateStrategy.codec.Faithful fun _ => True :=
  faithful_object rfl (by decide) (by simp)

instance : StatefulSetOrdinals.codec.Faithful fun _ => True :=
  faithful_object rfl (by decide) (by simp)

instance : ClaimRetentionPolicy.codec.Faithful fun _ => True :=
  faithful_object rfl (by decide) (by simp)

end Rollout.Kube
