import Rollout.Mutation.Typed

/-!
Who owns which field of a managed object. A change takes the fields of the operator from the desired
object and leaves every other field as it is, and changes one after another come to the same
division of fields between the live object and the last desired one.
-/

namespace Rollout.Kube

/-! ### The division of fields

For each record, the fields that come from the desired one are named. With these put back to what
they were, the live record is left. -/

structure ObjectMeta.Adopts (live desired result : ObjectMeta) : Prop where
  labels : result.labels = desired.labels
  annotations : result.annotations = desired.annotations
  others : { result with labels := live.labels, annotations := live.annotations } = live

structure ServiceSpec.Adopts (live desired result : ServiceSpec) : Prop where
  ports : result.ports = desired.ports
  selector : result.selector = desired.selector
  others : { result with ports := live.ports, selector := live.selector } = live

/-- The selector is that of the desired one only while the object has not been created. -/
structure DeploymentSpec.Adopts (creating : Bool) (live desired result : DeploymentSpec) :
    Prop where
  replicas : result.replicas = desired.replicas
  template : result.template = desired.template
  strategy : result.strategy = desired.strategy
  selector : result.selector = (if creating then desired else live).selector
  others : { result with
    replicas := live.replicas, template := live.template, strategy := live.strategy,
    selector := live.selector } = live

/-- Selector, pod management and claims are those of the desired one only while the object has not
been created. -/
structure StatefulSetSpec.Adopts (creating : Bool) (live desired result : StatefulSetSpec) :
    Prop where
  replicas : result.replicas = desired.replicas
  template : result.template = desired.template
  updateStrategy : result.updateStrategy = desired.updateStrategy
  selector : result.selector = (if creating then desired else live).selector
  podManagementPolicy :
    result.podManagementPolicy = (if creating then desired else live).podManagementPolicy
  volumeClaimTemplates :
    result.volumeClaimTemplates = (if creating then desired else live).volumeClaimTemplates
  others : { result with
    replicas := live.replicas, template := live.template, updateStrategy := live.updateStrategy,
    selector := live.selector, podManagementPolicy := live.podManagementPolicy,
    volumeClaimTemplates := live.volumeClaimTemplates } = live

/-- A missing specification counts as one of defaults, on either side; there is one afterwards. -/
def AdoptsSpec {S : Type} (adopts : S → S → S → Prop) (zero : S)
    (live desired result : Option S) : Prop :=
  ∃ spec, result = some spec ∧ adopts (live.getD zero) (desired.getD zero) spec

structure ConfigMap.Adopts (live desired result : ConfigMap) : Prop where
  metadata : live.metadata.Adopts desired.metadata result.metadata
  data : result.data = desired.data
  binaryData : result.binaryData = desired.binaryData
  others : { result with
    metadata := live.metadata, data := live.data, binaryData := live.binaryData } = live

structure Service.Adopts (live desired result : Service) : Prop where
  metadata : live.metadata.Adopts desired.metadata result.metadata
  spec : AdoptsSpec ServiceSpec.Adopts {} live.spec desired.spec result.spec
  others : { result with metadata := live.metadata, spec := live.spec } = live

structure Deployment.Adopts (live desired result : Deployment) : Prop where
  metadata : live.metadata.Adopts desired.metadata result.metadata
  spec : AdoptsSpec (DeploymentSpec.Adopts live.metadata.creationTimestamp.isNone) {}
    live.spec desired.spec result.spec
  others : { result with metadata := live.metadata, spec := live.spec } = live

structure StatefulSet.Adopts (live desired result : StatefulSet) : Prop where
  metadata : live.metadata.Adopts desired.metadata result.metadata
  spec : AdoptsSpec (StatefulSetSpec.Adopts live.metadata.creationTimestamp.isNone) {}
    live.spec desired.spec result.spec
  others : { result with metadata := live.metadata, spec := live.spec } = live

structure ServiceMonitor.Adopts (live desired result : ServiceMonitor) : Prop where
  metadata : live.metadata.Adopts desired.metadata result.metadata
  others : { result with metadata := live.metadata } = live

/-- The result has the fields of the operator from the desired object and all others from the live
one, and all three are of one kind. -/
inductive Managed.Adopts : Managed → Managed → Managed → Prop
  | configMap {live desired result} (hadopts : live.Adopts desired result) :
    Adopts (.configMap live) (.configMap desired) (.configMap result)
  | service {live desired result} (hadopts : live.Adopts desired result) :
    Adopts (.service live) (.service desired) (.service result)
  | deployment {live desired result} (hadopts : live.Adopts desired result) :
    Adopts (.deployment live) (.deployment desired) (.deployment result)
  | statefulSet {live desired result} (hadopts : live.Adopts desired result) :
    Adopts (.statefulSet live) (.statefulSet desired) (.statefulSet result)
  | serviceMonitor {live desired result} (hadopts : live.Adopts desired result) :
    Adopts (.serviceMonitor live) (.serviceMonitor desired) (.serviceMonitor result)

/-! ### One change -/

theorem ObjectMeta.adopt_adopts (live desired : ObjectMeta) :
    live.Adopts desired (live.adopt desired) := ⟨rfl, rfl, rfl⟩

theorem ServiceSpec.mutate_adopts (live desired : ServiceSpec) :
    live.Adopts desired (live.mutate desired) := ⟨rfl, rfl, rfl⟩

theorem DeploymentSpec.mutate_adopts (creating : Bool) (live desired : DeploymentSpec) :
    live.Adopts creating desired (live.mutate creating desired) := by
  cases creating <;> exact ⟨rfl, rfl, rfl, rfl, rfl⟩

theorem StatefulSetSpec.mutate_adopts (creating : Bool) (live desired : StatefulSetSpec) :
    live.Adopts creating desired (live.mutate creating desired) := by
  cases creating <;> exact ⟨rfl, rfl, rfl, rfl, rfl, rfl, rfl⟩

namespace Managed

/-- Objects of one kind can be changed towards each other, and a change divides the fields. -/
theorem mutate_of_kind_eq {live desired : Managed} (hkind : desired.kind = live.kind) :
    ∃ result, live.mutate desired = .ok result ∧ live.Adopts desired result := by
  cases live <;> cases desired <;> try cases hkind
  case configMap.configMap live desired =>
    exact ⟨_, rfl, .configMap ⟨live.metadata.adopt_adopts _, rfl, rfl, rfl⟩⟩
  case service.service live desired =>
    have hspec := ServiceSpec.mutate_adopts (live.spec.getD {}) (desired.spec.getD {})
    exact ⟨_, rfl, .service ⟨live.metadata.adopt_adopts _, ⟨_, rfl, hspec⟩, rfl⟩⟩
  case deployment.deployment live desired =>
    have hspec := DeploymentSpec.mutate_adopts live.metadata.isBeingCreated (live.spec.getD {})
      (desired.spec.getD {})
    exact ⟨_, rfl, .deployment ⟨live.metadata.adopt_adopts _, ⟨_, rfl, hspec⟩, rfl⟩⟩
  case statefulSet.statefulSet live desired =>
    have hspec := StatefulSetSpec.mutate_adopts live.metadata.isBeingCreated (live.spec.getD {})
      (desired.spec.getD {})
    exact ⟨_, rfl, .statefulSet ⟨live.metadata.adopt_adopts _, ⟨_, rfl, hspec⟩, rfl⟩⟩
  case serviceMonitor.serviceMonitor live desired =>
    exact ⟨_, rfl, .serviceMonitor ⟨live.metadata.adopt_adopts _, rfl⟩⟩

theorem mutate_of_kind_ne {live desired : Managed} (hkind : desired.kind ≠ live.kind) :
    live.mutate desired = .error (.mismatchedKind live.kind desired.kind) := by
  cases live <;> cases desired <;> first | rfl | exact absurd rfl hkind

end Managed

/-! ### One change after another

Of two changes, the second one alone decides about the fields of the operator. What it keeps, the
first one has kept or, where it is final after creation, has decided in the same way. -/

section Changes

/-- What tells an object from others, and to whom it belongs, is no field of the operator. -/
theorem ObjectMeta.Adopts.identity {live desired result : ObjectMeta}
    (hadopts : live.Adopts desired result) :
    result.name = live.name ∧ result.uid = live.uid ∧
      result.ownerReferences = live.ownerReferences ∧
      result.creationTimestamp = live.creationTimestamp := by
  rw [← hadopts.others]
  exact ⟨rfl, rfl, rfl, rfl⟩

theorem ObjectMeta.Adopts.trans {live first between second result : ObjectMeta}
    (hfirst : live.Adopts first between) (hsecond : between.Adopts second result) :
    live.Adopts second result := by
  refine ⟨hsecond.labels, hsecond.annotations, ?_⟩
  rw [← hfirst.others, ← hsecond.others]

theorem ServiceSpec.Adopts.trans {live first between second result : ServiceSpec}
    (hfirst : live.Adopts first between) (hsecond : between.Adopts second result) :
    live.Adopts second result := by
  refine ⟨hsecond.ports, hsecond.selector, ?_⟩
  rw [← hfirst.others, ← hsecond.others]

theorem DeploymentSpec.Adopts.trans {creating : Bool}
    {live first between second result : DeploymentSpec}
    (hfirst : live.Adopts creating first between)
    (hsecond : between.Adopts creating second result) : live.Adopts creating second result := by
  refine ⟨hsecond.replicas, hsecond.template, hsecond.strategy, ?selector, ?others⟩
  case selector =>
    have hselector := hsecond.selector
    cases creating with
    | false => exact hselector.trans hfirst.selector
    | true => exact hselector
  case others => rw [← hfirst.others, ← hsecond.others]

theorem StatefulSetSpec.Adopts.trans {creating : Bool}
    {live first between second result : StatefulSetSpec}
    (hfirst : live.Adopts creating first between)
    (hsecond : between.Adopts creating second result) : live.Adopts creating second result := by
  refine ⟨hsecond.replicas, hsecond.template, hsecond.updateStrategy, ?selector, ?policy, ?claims,
    ?others⟩
  case selector =>
    have hselector := hsecond.selector
    cases creating with
    | false => exact hselector.trans hfirst.selector
    | true => exact hselector
  case policy =>
    have hpolicy := hsecond.podManagementPolicy
    cases creating with
    | false => exact hpolicy.trans hfirst.podManagementPolicy
    | true => exact hpolicy
  case claims =>
    have hclaims := hsecond.volumeClaimTemplates
    cases creating with
    | false => exact hclaims.trans hfirst.volumeClaimTemplates
    | true => exact hclaims
  case others => rw [← hfirst.others, ← hsecond.others]

/-- After a change the specification is there, so that the next one does not fall back on
defaults. -/
theorem AdoptsSpec.trans {S : Type} {adopts : S → S → S → Prop} {zero : S}
    {live first between second result : Option S}
    (hfirst : AdoptsSpec adopts zero live first between)
    (hsecond : AdoptsSpec adopts zero between second result)
    (htrans : ∀ {live first between second result : S},
      adopts live first between → adopts between second result → adopts live second result) :
    AdoptsSpec adopts zero live second result := by
  obtain ⟨spec, rfl, hspec⟩ := hfirst
  obtain ⟨next, hnext, hnextSpec⟩ := hsecond
  exact ⟨next, hnext, htrans hspec hnextSpec⟩

theorem ConfigMap.Adopts.trans {live first between second result : ConfigMap}
    (hfirst : live.Adopts first between) (hsecond : between.Adopts second result) :
    live.Adopts second result := by
  refine ⟨hfirst.metadata.trans hsecond.metadata, hsecond.data, hsecond.binaryData, ?_⟩
  rw [← hfirst.others, ← hsecond.others]

theorem Service.Adopts.trans {live first between second result : Service}
    (hfirst : live.Adopts first between) (hsecond : between.Adopts second result) :
    live.Adopts second result := by
  have hspec := hfirst.spec.trans hsecond.spec ServiceSpec.Adopts.trans
  refine ⟨hfirst.metadata.trans hsecond.metadata, hspec, ?_⟩
  rw [← hfirst.others, ← hsecond.others]

theorem Deployment.Adopts.trans {live first between second result : Deployment}
    (hfirst : live.Adopts first between) (hsecond : between.Adopts second result) :
    live.Adopts second result := by
  obtain ⟨-, -, -, hcreation⟩ := hfirst.metadata.identity
  have hnext := hsecond.spec
  rw [hcreation] at hnext
  have hspec := hfirst.spec.trans hnext DeploymentSpec.Adopts.trans
  refine ⟨hfirst.metadata.trans hsecond.metadata, hspec, ?_⟩
  rw [← hfirst.others, ← hsecond.others]

theorem StatefulSet.Adopts.trans {live first between second result : StatefulSet}
    (hfirst : live.Adopts first between) (hsecond : between.Adopts second result) :
    live.Adopts second result := by
  obtain ⟨-, -, -, hcreation⟩ := hfirst.metadata.identity
  have hnext := hsecond.spec
  rw [hcreation] at hnext
  have hspec := hfirst.spec.trans hnext StatefulSetSpec.Adopts.trans
  refine ⟨hfirst.metadata.trans hsecond.metadata, hspec, ?_⟩
  rw [← hfirst.others, ← hsecond.others]

theorem ServiceMonitor.Adopts.trans {live first between second result : ServiceMonitor}
    (hfirst : live.Adopts first between) (hsecond : between.Adopts second result) :
    live.Adopts second result := by
  refine ⟨hfirst.metadata.trans hsecond.metadata, ?_⟩
  rw [← hfirst.others, ← hsecond.others]

end Changes

namespace Managed

theorem Adopts.kind_eq {live desired result : Managed} (hadopts : live.Adopts desired result) :
    result.kind = live.kind := by
  cases hadopts <;> rfl

theorem Adopts.metadata {live desired result : Managed} (hadopts : live.Adopts desired result) :
    live.metadata.Adopts desired.metadata result.metadata := by
  cases hadopts <;> next hadopts => exact hadopts.metadata

theorem Adopts.trans {live first between second result : Managed}
    (hfirst : live.Adopts first between) (hsecond : between.Adopts second result) :
    live.Adopts second result := by
  cases hfirst with
  | configMap hfirst => cases hsecond with
    | configMap hsecond => exact .configMap (hfirst.trans hsecond)
  | service hfirst => cases hsecond with
    | service hsecond => exact .service (hfirst.trans hsecond)
  | deployment hfirst => cases hsecond with
    | deployment hsecond => exact .deployment (hfirst.trans hsecond)
  | statefulSet hfirst => cases hsecond with
    | statefulSet hsecond => exact .statefulSet (hfirst.trans hsecond)
  | serviceMonitor hfirst => cases hsecond with
    | serviceMonitor hsecond => exact .serviceMonitor (hfirst.trans hsecond)

/-! ### Runs -/

/-- What is left of an object after changes towards others, one after another. A change that fails
leaves the object as it is. -/
def after (live : Managed) : List Managed → Managed
  | [] => live
  | desired :: rest =>
    match live.mutate desired with
    | .ok result => result.after rest
    | .error _ => live.after rest

/-- The last of some objects that is of the kind of the live one. -/
def lastOfKind? (live : Managed) (run : List Managed) : Option Managed :=
  (run.filter fun desired => decide (desired.kind = live.kind)).getLast?

theorem after_cons_of_kind_ne {live desired : Managed} (hkind : desired.kind ≠ live.kind)
    (rest : List Managed) : live.after (desired :: rest) = live.after rest := by
  rw [after, mutate_of_kind_ne hkind]

theorem after_append (live : Managed) (earlier later : List Managed) :
    live.after (earlier ++ later) = (live.after earlier).after later := by
  induction earlier generalizing live with
  | nil => rfl
  | cons desired rest ih =>
      rw [List.cons_append, after, after]
      cases live.mutate desired with
      | error cause => exact ih live
      | ok result => exact ih result

/-- A run either has no object of the right kind and changes nothing, or its last one of the right
kind divides the fields with the live object. -/
theorem after_cases (live : Managed) (run : List Managed) :
    (live.lastOfKind? run = none ∧ live.after run = live) ∨
      ∃ last, live.lastOfKind? run = some last ∧ live.Adopts last (live.after run) := by
  induction run generalizing live with
  | nil => exact .inl ⟨rfl, rfl⟩
  | cons desired rest ih =>
      by_cases hkind : desired.kind = live.kind
      · obtain ⟨result, hmutate, hadopts⟩ := mutate_of_kind_eq hkind
        have hafter : live.after (desired :: rest) = result.after rest := by rw [after, hmutate]
        have hlast : live.lastOfKind? (desired :: rest) =
            some ((result.lastOfKind? rest).getD desired) := by
          simp [lastOfKind?, hkind, hadopts.kind_eq, List.getLast?_cons]
        rw [hafter, hlast]
        right
        rcases ih result with ⟨hnone, hrest⟩ | ⟨last, hsome, hrest⟩
        · rw [hnone, hrest]
          exact ⟨desired, rfl, hadopts⟩
        · rw [hsome]
          exact ⟨last, rfl, hadopts.trans hrest⟩
      · have hlast : live.lastOfKind? (desired :: rest) = live.lastOfKind? rest := by
          simp [lastOfKind?, hkind]
        rw [after_cons_of_kind_ne hkind, hlast]
        exact ih live

theorem kind_after (live : Managed) (run : List Managed) : (live.after run).kind = live.kind := by
  rcases live.after_cases run with ⟨-, hsame⟩ | ⟨last, -, hadopts⟩
  · rw [hsame]
  · exact hadopts.kind_eq

/-- Whatever objects a live one is changed towards, those of another kind fail and change nothing,
and those of its kind succeed. In the end the fields of the operator are those of the last object of
the same kind, and all other fields are as they were; a selector, the pod management and the claims
of a stateful set are among the others once the object has been created. Name, UID, owners and time
of creation stay in any case. -/
theorem run_adopts_last (live : Managed) :
    (∀ earlier other, other.kind ≠ live.kind →
      (live.after earlier).mutate other = .error (.mismatchedKind live.kind other.kind) ∧
        live.after (earlier ++ [other]) = live.after earlier) ∧
    (∀ earlier desired, desired.kind = live.kind →
      ∃ result, (live.after earlier).mutate desired = .ok result) ∧
    ∀ run,
      (live.lastOfKind? run = none → live.after run = live) ∧
      (∀ last, live.lastOfKind? run = some last → live.Adopts last (live.after run)) ∧
      (live.after run).metadata.name = live.metadata.name ∧
      (live.after run).metadata.uid = live.metadata.uid ∧
      (live.after run).metadata.ownerReferences = live.metadata.ownerReferences ∧
      (live.after run).metadata.creationTimestamp = live.metadata.creationTimestamp := by
  refine ⟨?other, ?same, ?run⟩
  case other =>
    intro earlier other hkind
    rw [← live.kind_after earlier] at hkind ⊢
    refine ⟨mutate_of_kind_ne hkind, ?_⟩
    rw [after_append, after_cons_of_kind_ne hkind, after]
  case same =>
    intro earlier desired hkind
    rw [← live.kind_after earlier] at hkind
    obtain ⟨result, hmutate, -⟩ := mutate_of_kind_eq hkind
    exact ⟨result, hmutate⟩
  case run =>
    intro run
    rcases live.after_cases run with ⟨hnone, hsame⟩ | ⟨last, hsome, hadopts⟩
    · rw [hsame, hnone]
      simp
    · rw [hsome]
      refine ⟨by simp, ?_, hadopts.metadata.identity⟩
      intro other hother
      cases hother
      exact hadopts

/-- Ingesters that the cluster has created. -/
def ingesters : StatefulSet where
  metadata :=
    { name := some "loki-ingester"
      creationTimestamp :=
        some ⟨2023, 3, 14, 9, 26, 53, 0, by decide, by decide, by decide, Time.isFraction_zero⟩ }
  spec := some { podManagementPolicy := some "OrderedReady", replicas := some 1 }

/-- More of them are wanted, and all of them started at once. -/
def moreIngesters : StatefulSet where
  spec := some { podManagementPolicy := some "Parallel", replicas := some 3 }

theorem run_adopts_last_ingesters :
    (Managed.statefulSet ingesters).mutate (.configMap {}) =
        .error (.mismatchedKind .statefulSet .configMap) ∧
      (∃ result, (statefulSet ingesters).mutate (.statefulSet moreIngesters) = .ok result) ∧
      (statefulSet ingesters).Adopts (.statefulSet moreIngesters)
        ((statefulSet ingesters).after
          [.service {}, .statefulSet {}, .statefulSet moreIngesters, .configMap {}]) ∧
      (statefulSet ingesters).after
          [.service {}, .statefulSet {}, .statefulSet moreIngesters, .configMap {}] =
        .statefulSet { ingesters with
          spec := some { podManagementPolicy := some "OrderedReady", replicas := some 3 } } := by
  obtain ⟨hother, hsame, hrun⟩ := run_adopts_last (.statefulSet ingesters)
  have hlast := (hrun [.service {}, .statefulSet {}, .statefulSet moreIngesters,
    .configMap {}]).2.1 (.statefulSet moreIngesters) rfl
  exact ⟨(hother [] (.configMap {}) (by decide)).1, hsame [] (.statefulSet moreIngesters) rfl,
    hlast, rfl⟩

end Managed

end Rollout.Kube
