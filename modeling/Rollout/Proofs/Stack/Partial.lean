import Rollout.Proofs.Codec.Partial
import Rollout.Proofs.Codec.Text
import Rollout.Proofs.CustomResources

/-!
Layers of a stack in part. Whoever writes a layer leaves out what the layer does not say: settings
that are open, tenants when there are none, and sections that are as they are by default. However
much of this is left out, in whatever order the rest stands and whatever else stands beside it, the
layer is the same.
-/

namespace Rollout

open Fields (admits_object admits_strict)

/-- A setting, which is null when it is open. -/
def RecordMember.setting (key : String) (form : Form := Eq) : RecordMember where
  key := key
  unset := some .null
  form := form

/-- A record, which may have nothing but defaults. -/
def RecordMember.section (key : String) (unset : Json) (members : List RecordMember) :
    RecordMember where
  key := key
  unset := some unset
  form := RecordForm members

namespace Kube.Toleration

/-- What a toleration does not ask for is not written. -/
def members : List RecordMember :=
  [{ key := "effect" }, { key := "key" }, { key := "operator" }, { key := "tolerationSeconds" },
    { key := "value" }]

instance : codec.Admits (RecordForm members) := admits_object rfl rfl (by decide) (by simp)

end Kube.Toleration

namespace Stack

open Kube (Toleration)

instance : Size.codec.Admits Eq := .scalar

instance : ManagementState.codec.Admits Eq := .scalar

namespace SecretRef

def members : List RecordMember := [.setting "name"]

instance : codec.Admits (RecordForm members) := admits_strict rfl rfl (by decide) (by simp)

end SecretRef

namespace StorageSpec

def members : List RecordMember := [.section "secret" (SecretRef.codec.write {}) SecretRef.members]

instance : codec.Admits (RecordForm members) := admits_strict rfl rfl (by decide) (by simp)

end StorageSpec

namespace IngestionLimits

def members : List RecordMember :=
  [.setting "ingestionRate", .setting "ingestionBurstSize", .setting "maxLabelNameLength",
    .setting "maxLabelValueLength", .setting "maxLabelNamesPerSeries",
    .setting "maxGlobalStreamsPerTenant", .setting "maxLineSize"]

instance : codec.Admits (RecordForm members) := admits_strict rfl rfl (by decide) (by simp)

end IngestionLimits

namespace QueryLimits

def members : List RecordMember :=
  [.setting "maxEntriesLimitPerQuery", .setting "maxChunksPerQuery", .setting "maxQuerySeries"]

instance : codec.Admits (RecordForm members) := admits_strict rfl rfl (by decide) (by simp)

end QueryLimits

namespace LimitSet

def members : List RecordMember :=
  [.section "ingestionLimits" (IngestionLimits.codec.write {}) IngestionLimits.members,
    .section "queryLimits" (QueryLimits.codec.write {}) QueryLimits.members]

instance : codec.Admits (RecordForm members) := admits_strict rfl rfl (by decide) (by simp)

end LimitSet

namespace Limits

/-- Tenants may only be left out when there are none; the limits of each may be given in part. -/
def members : List RecordMember :=
  [.section "global" (LimitSet.codec.write {}) LimitSet.members,
    { key := "tenants", unset := some .emptyObject, form := MapForm (RecordForm LimitSet.members) }]

instance : codec.Admits (RecordForm members) := admits_strict rfl rfl (by decide) (by simp)

end Limits

namespace ComponentSpec

def members : List RecordMember :=
  [.setting "replicas", .setting "nodeSelector" (MapForm Eq),
    .setting "tolerations" (ListForm (RecordForm Toleration.members))]

instance : codec.Admits (RecordForm members) := admits_strict rfl rfl (by decide) (by simp)

end ComponentSpec

namespace Template

def members : List RecordMember :=
  ["compactor", "distributor", "ingester", "querier", "queryFrontend"].map fun key =>
    .section key (ComponentSpec.codec.write {}) ComponentSpec.members

instance : codec.Admits (RecordForm members) := admits_strict rfl rfl (by decide) (by simp)

end Template

namespace Spec

def members : List RecordMember :=
  [.setting "size", .setting "managementState",
    .section "storage" (StorageSpec.codec.write {}) StorageSpec.members,
    .setting "replicationFactor", .section "limits" (Limits.codec.write {}) Limits.members,
    .section "template" (Template.codec.write {}) Template.members]

instance : codec.Admits (RecordForm members) := admits_strict rfl rfl (by decide) (by simp)

/-- A spec is read from what is left of its written form when any of the unset fields are left out,
in any order and beside any unknown fields, and so it is from every text of that. -/
theorem read_partial {spec : Spec} {given : Json}
    (hform : RecordForm members (codec.write spec) given) :
    codec.read given = some spec ∧
      ∀ text, Json.ofBytes? text = some given → codec.readText? text = some spec := by
  have hread : codec.read given = some spec := Codec.Admits.read_eq (.inr hform)
  refine ⟨hread, fun text htext => ?_⟩
  rw [Codec.readText?, htext]
  exact hread

/-- One limit of a tenant. -/
def acmeLimits : LimitSet where
  queryLimits := { maxQuerySeries := some 4 }

/-- A small stack with one tenant. -/
def acme : Spec where
  size := some .small
  limits := { tenants := .ofList [("acme", acmeLimits)] }

/-- What the small stack says about its tenant. -/
def acmePart : Json :=
  .object [("queryLimits", .object [("maxQuerySeries", .integer 4)])]

/-- The tenant stands behind the size and a field that specs do not have. -/
theorem read_partial_acme :
    let given := Json.object [("note", .bool true), ("size", .string "1x.small"),
      ("limits", .object [("tenants", .object [("acme", acmePart)])])]
    RecordForm members (codec.write acme) given ∧ codec.read given = some acme := by
  intro given
  have hquery : RecordForm QueryLimits.members (QueryLimits.codec.write acmeLimits.queryLimits)
      (.object [("maxQuerySeries", .integer 4)]) := by
    have hwritten : QueryLimits.codec.write acmeLimits.queryLimits =
      .object [("maxChunksPerQuery", .null), ("maxEntriesLimitPerQuery", .null),
        ("maxQuerySeries", .integer 4)] := rfl
    rw [hwritten]
    apply RecordForm.of_thinned
    apply Thinned.dropped (.setting "maxChunksPerQuery") (by simp [QueryLimits.members]) rfl
    apply Thinned.dropped (.setting "maxEntriesLimitPerQuery") (by simp [QueryLimits.members]) rfl
    apply Thinned.kept (.setting "maxQuerySeries") (by simp [QueryLimits.members]) (.inl rfl)
    exact .nil
  have htenant : RecordForm LimitSet.members (LimitSet.codec.write acmeLimits) acmePart := by
    have hwritten : LimitSet.codec.write acmeLimits =
      .object [("ingestionLimits", IngestionLimits.codec.write {}),
        ("queryLimits", QueryLimits.codec.write acmeLimits.queryLimits)] := rfl
    rw [hwritten]
    apply RecordForm.of_thinned
    apply Thinned.dropped LimitSet.members[0] (List.getElem_mem _) rfl
    apply Thinned.kept LimitSet.members[1] (List.getElem_mem _) (.inr hquery)
    exact .nil
  have htenants : MapForm (RecordForm LimitSet.members)
      (.object [("acme", LimitSet.codec.write acmeLimits)]) (.object [("acme", acmePart)]) := by
    refine .intro ?entries (.refl _)
    exact .cons ⟨rfl, .inr htenant⟩ .nil
  have hlimits : RecordForm Limits.members (Limits.codec.write acme.limits)
      (.object [("tenants", .object [("acme", acmePart)])]) := by
    have hwritten : Limits.codec.write acme.limits =
      .object [("global", LimitSet.codec.write {}),
        ("tenants", .object [("acme", LimitSet.codec.write acmeLimits)])] := rfl
    rw [hwritten]
    apply RecordForm.of_thinned
    apply Thinned.dropped Limits.members[0] (List.getElem_mem _) rfl
    apply Thinned.kept Limits.members[1] (List.getElem_mem _) (.inr htenants)
    exact .nil
  have hform : RecordForm members (codec.write acme) given := by
    have hwritten : codec.write acme = .object [("limits", Limits.codec.write acme.limits),
      ("managementState", .null), ("replicationFactor", .null), ("size", .string "1x.small"),
      ("storage", StorageSpec.codec.write {}), ("template", Template.codec.write {})] := rfl
    rw [hwritten]
    let kept := [("limits", Json.object [("tenants", .object [("acme", acmePart)])]),
      ("size", .string "1x.small")]
    let unknown := [("note", Json.bool true)]
    have hunknown : ∀ entry ∈ unknown, entry.1 ∉ members.map RecordMember.key :=
      List.forall_mem_singleton.mpr (by decide)
    refine .intro ?thinned hunknown (List.reverse_perm (kept ++ unknown))
    case thinned =>
      apply Thinned.kept members[4] (List.getElem_mem _) (.inr hlimits)
      apply Thinned.dropped members[1] (List.getElem_mem _) rfl
      apply Thinned.dropped members[3] (List.getElem_mem _) rfl
      apply Thinned.kept members[0] (List.getElem_mem _) (.inl rfl)
      apply Thinned.dropped members[2] (List.getElem_mem _) rfl
      apply Thinned.dropped members[5] (List.getElem_mem _) rfl
      exact .nil
  exact ⟨hform, (read_partial hform).1⟩

end Spec

end Stack

end Rollout
