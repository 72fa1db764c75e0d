import Rollout.Proofs.Config.Pipeline
import Rollout.Proofs.Stack.Layers

/-!
What is rendered for a stack. Every number of the configuration that a stack decides is the one that
the user wishes or else the one that comes with the size, and none is a fallback for a setting that
was left open. The limits of single tenants have no part in it.
-/

namespace Rollout

open Stack (GlobalLimit LimitSet Resolved)

/-- The same wishes with other limits for single tenants. -/
def Stack.Spec.withTenants (user : Stack.Spec) (tenants : KeyMap LimitSet) : Stack.Spec :=
  { user with limits := { user.limits with tenants } }

namespace Config

/-- Limits that agree field by field are the same. -/
theorem Limits.ext_field {first second : Limits}
    (hstreams : first.maxStreamsPerUser = second.maxStreamsPerUser)
    (hfield : ∀ limit, GlobalLimit.field first limit = GlobalLimit.field second limit) :
    first = second := by
  have hrate := hfield .ingestionRate
  have hburst := hfield .ingestionBurstSize
  have hnameLength := hfield .maxLabelNameLength
  have hvalueLength := hfield .maxLabelValueLength
  have hnames := hfield .maxLabelNamesPerSeries
  have hglobalStreams := hfield .maxGlobalStreamsPerTenant
  have hline := hfield .maxLineSize
  have hentries := hfield .maxEntriesLimitPerQuery
  have hchunks := hfield .maxChunksPerQuery
  have hseries := hfield .maxQuerySeries
  obtain ⟨_, _, _, _, _, _, _, _, _, _, _⟩ := first
  obtain ⟨_, _, _, _, _, _, _, _, _, _, _⟩ := second
  simp_all [GlobalLimit.field]

/-- A configuration that holds what is in effect for a stack of some size under the wishes of a
user: each limit of all tenants and the replication factor is the one that the user sets or else
that of the size. -/
structure IsEffective (config : Config) (size : Stack.Size) (user : Stack.Spec)
    (storage : ObjectStorage) : Prop where
  server : config.server = { httpListenPort := 3100, grpcListenPort := 9095, logLevel := "info" }
  replicationFactor : some config.ingester.lifecycler.ring.replicationFactor =
    user.replicationFactor.or size.defaults.replicationFactor
  limit : ∀ limit, some (GlobalLimit.field config.limits limit) =
    (GlobalLimit.get user.limits.globals limit).or
      (GlobalLimit.get size.defaults.limits.globals limit)
  maxStreamsPerUser : config.limits.maxStreamsPerUser = 0
  endpoint : config.storage.aws.s3 = storage.endpoint
  buckets : config.storage.aws.bucketNames = storage.buckets
  region : config.storage.aws.region = storage.region
  accessKeyId : config.storage.aws.accessKeyId = storage.accessKeyId
  accessKeySecret : config.storage.aws.secretAccessKey = storage.accessKeySecret
  compactor : config.compactor =
    { workingDirectory := "/tmp/loki/compactor", sharedStore := "s3" }

section Stacks

variable {size : Stack.Size} {user : Stack.Spec} {storage : ObjectStorage}

/-- What is in effect leaves no choice. -/
theorem IsEffective.unique {first second : Config} (hfirst : first.IsEffective size user storage)
    (hsecond : second.IsEffective size user storage) : first = second := by
  have hserver : first.server = second.server := hfirst.server.trans hsecond.server.symm
  have hfactor : first.ingester.lifecycler.ring.replicationFactor =
      second.ingester.lifecycler.ring.replicationFactor :=
    Option.some.inj (hfirst.replicationFactor.trans hsecond.replicationFactor.symm)
  have hlimits : first.limits = second.limits := by
    refine Limits.ext_field ?_ fun limit => ?_
    · exact hfirst.maxStreamsPerUser.trans hsecond.maxStreamsPerUser.symm
    · exact Option.some.inj ((hfirst.limit limit).trans (hsecond.limit limit).symm)
  have hendpoint := hfirst.endpoint.trans hsecond.endpoint.symm
  have hbuckets := hfirst.buckets.trans hsecond.buckets.symm
  have hregion := hfirst.region.trans hsecond.region.symm
  have haccessKeyId := hfirst.accessKeyId.trans hsecond.accessKeyId.symm
  have haccessKeySecret := hfirst.accessKeySecret.trans hsecond.accessKeySecret.symm
  have hcompactor : first.compactor = second.compactor :=
    hfirst.compactor.trans hsecond.compactor.symm
  obtain ⟨_, ⟨⟨⟨_⟩⟩⟩, _, ⟨⟨_, _, _, _, _⟩⟩, _⟩ := first
  obtain ⟨_, ⟨⟨⟨_⟩⟩⟩, _, ⟨⟨_, _, _, _, _⟩⟩, _⟩ := second
  simp_all

/-- A setting that some layer sets is rendered as it is. -/
theorem some_getD {setting : Option Int32} (hset : setting.isSome) :
    some (setting.getD 0) = setting := by
  obtain ⟨value, rfl⟩ := Option.isSome_iff_exists.mp hset
  rfl

theorem isEffective_build (size : Stack.Size) (user : Stack.Spec) (flags : Stack.Flags)
    (storage : ObjectStorage) :
    (build ⟨size, Stack.layered size user, flags⟩ storage).IsEffective size user storage where
  server := rfl
  replicationFactor := some_getD (Stack.isSome_replicationFactor_layered size user)
  limit limit := by
    have hset := GlobalLimit.isSome_get_layered size user limit
    have hfield := GlobalLimit.field_ofSet (Stack.layered size user).limits.globals limit
    rw [← GlobalLimit.get_layered, ← some_getD hset]
    exact congrArg some hfield
  maxStreamsPerUser := rfl
  endpoint := rfl
  buckets := rfl
  region := rfl
  accessKeyId := rfl
  accessKeySecret := rfl
  compactor := rfl

/-- The configuration of a stack that resolves is the one that holds what is in effect, and there is
only one. Whatever limits the user sets for single tenants, the stack resolves with them, and they
do not appear in its configuration. -/
theorem build_iff_isEffective {flags : Stack.Flags} {resolved : Resolved}
    (hresolved : Stack.resolve size user flags = .ok resolved) :
    (∀ config : Config,
      config = build resolved storage ↔ config.IsEffective size user storage) ∧
    ∀ tenants, ∃ other, Stack.resolve size (user.withTenants tenants) flags = .ok other ∧
      other.spec.limits.tenants = tenants ∧ build other storage = build resolved storage := by
  obtain ⟨hrequested, rfl⟩ := Stack.resolve_eq_ok_layered.mp hresolved
  have hbuild := isEffective_build size user flags storage
  constructor
  · intro config
    constructor
    · rintro rfl
      exact hbuild
    · intro heffective
      exact heffective.unique hbuild
  · intro tenants
    have hother : Stack.resolve size (user.withTenants tenants) flags =
        .ok ⟨size, Stack.layered size (user.withTenants tenants), flags⟩ :=
      Stack.resolve_eq_ok_layered.mpr ⟨hrequested, rfl⟩
    have hsettles : (Stack.layered size (user.withTenants tenants)).Settles size
        (user.withTenants tenants) := Stack.layered_settles hrequested
    exact ⟨_, hother, hsettles.tenants, rfl⟩

end Stacks

end Config

/-- A user who changes one limit of all tenants, and the same one for a single tenant. -/
def Stack.Spec.ownRate : Stack.Spec where
  limits := {
    globals := { ingestionLimits := { ingestionRate := some 15 } }
    tenants := .ofList [("ops", { ingestionLimits := { ingestionRate := some 90 } })] }

theorem Config.build_iff_isEffective_ownRate :
    ∃ resolved, Stack.resolve .medium .ownRate {} = .ok resolved ∧
      (build resolved {}).limits.ingestionRate = 15 ∧
      (build resolved {}).limits.ingestionBurstSize = 20 ∧
      (build resolved {}).ingester.lifecycler.ring.replicationFactor = 3 ∧
      ∃ other, Stack.resolve .medium (Stack.Spec.ownRate.withTenants .empty) {} = .ok other ∧
        build other {} = build resolved {} := by
  have hresolved : Stack.resolve .medium .ownRate {} = .ok _ := rfl
  obtain ⟨hconfig, htenants⟩ := @build_iff_isEffective _ _ {} _ _ hresolved
  have heffective := (hconfig _).mp rfl
  obtain ⟨other, hother, -, hbuild⟩ := htenants .empty
  exact ⟨_, hresolved, Option.some.inj (heffective.limit .ingestionRate),
    Option.some.inj (heffective.limit .ingestionBurstSize),
    Option.some.inj heffective.replicationFactor, other, hother, hbuild⟩

end Rollout
