import Rollout.Proofs.Mutation.Refinement

/-!
Runs of changes towards one desired object after another, where a change that fails is passed over.
The last change that succeeds decides what is left, and no earlier one can be told from it. Only a
time that cannot be read back stays behind: the object that it was written to is not changed any
more.
-/

namespace Rollout.Kube

open Json (lookup?)

namespace Managed

/-- Of two typed objects the same is written back. -/
structure HandsOverAlike (creating : Bool) (first second : Managed) : Prop where
  kind : first.kind = second.kind
  labels : first.metadata.labels = second.metadata.labels
  annotations : first.metadata.annotations = second.metadata.annotations
  owned : ∀ key ∈ second.kind.ownedKeys creating, first.owned key = second.owned key
  times : first.HandsOverReadableTimes creating ↔ second.HandsOverReadableTimes creating

end Managed

section Kinds

variable {creating : Bool}

theorem ConfigMap.handsOverAlike {first second : ConfigMap}
    (hlabels : first.metadata.labels = second.metadata.labels)
    (hannotations : first.metadata.annotations = second.metadata.annotations)
    (hdata : first.data = second.data) (hbinaryData : first.binaryData = second.binaryData) :
    (Managed.configMap first).HandsOverAlike creating (.configMap second) where
  kind := rfl
  labels := hlabels
  annotations := hannotations
  owned key hkey := by
    change lookup? [key] (codec.write first) = lookup? [key] (codec.write second)
    simp only [Managed.kind, Kind.ownedKeys, List.mem_cons, List.not_mem_nil, or_false] at hkey
    rcases hkey with rfl | rfl
    · rw [first.lookup?_write.1, second.lookup?_write.1, hdata]
    · rw [first.lookup?_write.2, second.lookup?_write.2, hbinaryData]
  times := .rfl

theorem Service.handsOverAlike {first second : Service}
    (hlabels : first.metadata.labels = second.metadata.labels)
    (hannotations : first.metadata.annotations = second.metadata.annotations)
    (hspec : first.spec = second.spec) :
    (Managed.service first).HandsOverAlike creating (.service second) where
  kind := rfl
  labels := hlabels
  annotations := hannotations
  owned key _ := by
    change lookup? ["spec", key] (codec.write first) = lookup? ["spec", key] (codec.write second)
    rw [codec_eq, lookup?_specified_write, lookup?_specified_write, hspec]
  times := .rfl

theorem Deployment.handsOverAlike {first second : Deployment}
    (hlabels : first.metadata.labels = second.metadata.labels)
    (hannotations : first.metadata.annotations = second.metadata.annotations)
    (hspec : first.spec = second.spec) :
    (Managed.deployment first).HandsOverAlike creating (.deployment second) where
  kind := rfl
  labels := hlabels
  annotations := hannotations
  owned key _ := by
    change lookup? ["spec", key] (codec.write first) = lookup? ["spec", key] (codec.write second)
    rw [codec_eq, lookup?_specified_write, lookup?_specified_write, hspec]
  times := by simp only [Managed.HandsOverReadableTimes, hspec]

theorem StatefulSet.handsOverAlike {first second : StatefulSet}
    (hlabels : first.metadata.labels = second.metadata.labels)
    (hannotations : first.metadata.annotations = second.metadata.annotations)
    {spec other : StatefulSetSpec} (hfirst : first.spec = some spec)
    (hsecond : second.spec = some other)
    (howned : ∀ key ∈ Kind.statefulSet.ownedKeys creating,
      lookup? [key] (StatefulSetSpec.codec.write spec) =
        lookup? [key] (StatefulSetSpec.codec.write other))
    (htemplate : spec.template = other.template)
    (hclaims : (creating → spec.HasReadableClaims) ↔ (creating → other.HasReadableClaims)) :
    (Managed.statefulSet first).HandsOverAlike creating (.statefulSet second) where
  kind := rfl
  labels := hlabels
  annotations := hannotations
  owned key hkey := by
    rw [owned_eq hfirst, owned_eq hsecond]
    exact howned key hkey
  times := by simp [Managed.HandsOverReadableTimes, hfirst, hsecond, htemplate, hclaims]

end Kinds

namespace Managed

/-- What is read of a changed object is of the kind of the live one. -/
theorem kind_overwrite (live changed : Managed) (creating : Bool) (metadata : ObjectMeta) :
    (live.overwrite creating metadata changed).kind = live.kind := by
  cases live <;> cases changed <;> rfl

/-- What is read of a changed object has the metadata that it is read with. -/
theorem metadata_overwrite {live target changed : Managed}
    (hchanged : live.mutate target = .ok changed) (creating : Bool) (metadata : ObjectMeta) :
    (live.overwrite creating metadata changed).metadata = metadata := by
  cases changes_of_mutate hchanged <;> rfl

/-- What is read of a changed object takes the next change like the live object. -/
theorem handsOverAlike_overwrite {live first changed second other again : Managed}
    (hchanged : live.mutate first = .ok changed) {creating : Bool} {metadata : ObjectMeta}
    (hmetadata : metadata.isBeingCreated = live.metadata.isBeingCreated)
    (hother : live.mutate second = .ok other)
    (hagain : (live.overwrite creating metadata changed).mutate second = .ok again) :
    again.HandsOverAlike creating other := by
  cases changes_of_mutate hother with
  | configMap live second =>
      cases changes_of_mutate hchanged
      cases hagain
      exact ConfigMap.handsOverAlike rfl rfl rfl rfl
  | service live second =>
      cases changes_of_mutate hchanged
      cases hagain
      exact Service.handsOverAlike rfl rfl rfl
  | deployment live second =>
      cases changes_of_mutate hchanged
      cases hagain
      refine Deployment.handsOverAlike rfl rfl (congrArg some ?_)
      rw [hmetadata]
      exact DeploymentSpec.mutate_repeated _ _ _ _ _
  | statefulSet live second =>
      cases changes_of_mutate hchanged
      cases hagain
      refine StatefulSet.handsOverAlike rfl rfl rfl rfl ?_ rfl ?_
      · rw [hmetadata]
        exact StatefulSetSpec.lookup?_write_repeated _ _ _ _ _
      · rw [hmetadata]
        exact StatefulSetSpec.hasReadableClaims_repeated_iff _ _ _ _ _
  | serviceMonitor live second =>
      cases changes_of_mutate hchanged
      cases hagain
      exact ⟨rfl, rfl, rfl, fun _ hkey => (nomatch hkey), .rfl⟩

end Managed

namespace DynamicObject

/-- A change of the object towards another one, if there is one, writes back no times that cannot be
read back. -/
def HandsOverReadableTimes (existing desired : DynamicObject) : Prop :=
  ∀ live target changed, Managed.ofDynamic existing = .ok live →
    Managed.ofDynamic desired = .ok target → live.mutate target = .ok changed →
      changed.HandsOverReadableTimes existing.metadata.isBeingCreated

/-- What is left of an object after changes towards others, one after another. -/
def after (existing : DynamicObject) : List DynamicObject → DynamicObject
  | [] => existing
  | desired :: rest =>
    match existing.mutate desired with
    | .ok result => result.after rest
    | .error _ => existing.after rest

/-- The desired objects that the object was changed towards. -/
def taken (existing : DynamicObject) : List DynamicObject → List DynamicObject
  | [] => []
  | desired :: rest =>
    match existing.mutate desired with
    | .ok result => desired :: result.taken rest
    | .error _ => existing.taken rest

/-! ### One change -/

theorem accept_congr {object : DynamicObject} {first second : Managed}
    (halike : first.HandsOverAlike object.metadata.isBeingCreated second) :
    object.accept first = object.accept second := by
  obtain ⟨hkind, hlabels, hannotations, howned, -⟩ := halike
  have hadopt : object.metadata.adopt first.metadata = object.metadata.adopt second.metadata := by
    rw [ObjectMeta.adopt, ObjectMeta.adopt, hlabels, hannotations]
  have hoverlay : Entries.overlay (second.kind.ownedKeys object.metadata.isBeingCreated)
      first.owned = Entries.overlay (second.kind.ownedKeys object.metadata.isBeingCreated)
        second.owned :=
    funext fun entries => Entries.overlay_congr howned
  rw [accept, accept, hkind, hadopt, hoverlay]

section Step

variable {existing first result : DynamicObject} (hordered : existing.IsOrdered)
  (hmutate : existing.mutate first = .ok result)

include hordered hmutate

/-- A change leaves an ordered object, and one that has not been created remains so. -/
theorem mutate_invariant : result.IsOrdered ∧
    result.metadata.isBeingCreated = existing.metadata.isBeingCreated := by
  obtain ⟨_, _, changed, -, -, -, -, rfl⟩ := exists_of_mutate hordered.data hmutate
  exact ⟨hordered.accept changed, rfl⟩

/-- A changed object is read as one that takes the next change like the object before. -/
theorem exists_again (htimes : existing.HandsOverReadableTimes first) :
    ∃ live again, Managed.ofDynamic existing = .ok live ∧ Managed.ofDynamic result = .ok again ∧
      ∀ second,
        (∃ other next, live.mutate second = .ok other ∧ again.mutate second = .ok next ∧
          next.HandsOverAlike existing.metadata.isBeingCreated other ∧
          (next.metadata.HasReadableTimes ↔ other.metadata.HasReadableTimes) ∧
          result.accept next = existing.accept other) ∨
        ∃ cause, live.mutate second = .error cause ∧ again.mutate second = .error cause := by
  obtain ⟨live, target, changed, hlive, htarget, hchanged, -, rfl⟩ :=
    exists_of_mutate hordered.data hmutate
  have hagain := (Managed.ofDynamic_accept_iff hordered hlive hchanged _).mpr
    ⟨htimes live target changed hlive htarget hchanged, rfl⟩
  obtain ⟨htargetKind, hchangedKind, -⟩ := Managed.of_mutate hchanged
  have hagainKind := Managed.kind_overwrite live changed existing.metadata.isBeingCreated
    (existing.metadataAfter live.metadata changed.metadata)
  refine ⟨live, _, hlive, hagain, fun second => ?_⟩
  rcases live.mutate_inv second with ⟨hkind, other, hother, -, hadopt⟩ | ⟨hkind, herror⟩
  · obtain ⟨-, next, hnext, hnextKind, hnextAdopt⟩ | ⟨hne, -⟩ :=
      (live.overwrite existing.metadata.isBeingCreated
        (existing.metadataAfter live.metadata changed.metadata) changed).mutate_inv second
    · have halike := Managed.handsOverAlike_overwrite hchanged
        (isBeingCreated_metadataAfter existing live.metadata changed.metadata) hother hnext
      refine .inl ⟨other, next, hother, hnext, halike, ?_, ?_⟩
      · rw [hnextAdopt, hadopt, Managed.metadata_overwrite hchanged]
        exact hasReadableTimes_metadataAfter_iff existing live.metadata changed.metadata
      · have hsame : changed.kind = next.kind :=
          (hchangedKind.trans htargetKind.symm).trans (hkind.trans hnextKind.symm)
        rw [accept_accept hordered hsame, accept_congr halike]
    · exact absurd (hagainKind.trans hkind) hne
  · obtain ⟨hsame, -⟩ | ⟨-, hagainError⟩ :=
      (live.overwrite existing.metadata.isBeingCreated
        (existing.metadataAfter live.metadata changed.metadata) changed).mutate_inv second
    · exact absurd (hagainKind.symm.trans hsame) hkind
    · exact .inr ⟨_, herror, hagainKind ▸ hagainError⟩

/-- Nothing of a change can be seen in the next one. -/
theorem mutate_mutate (htimes : existing.HandsOverReadableTimes first) (desired : DynamicObject) :
    result.mutate desired = existing.mutate desired := by
  obtain ⟨hresult, -⟩ := mutate_invariant hordered hmutate
  obtain ⟨live, again, hlive, hagain, hnext⟩ := exists_again hordered hmutate htimes
  rw [mutate_eq hresult.data, mutate_eq hordered.data, hlive, hagain]
  cases Managed.ofDynamic desired with
  | error error => rfl
  | ok second =>
      obtain ⟨other, next, hother, hnext, halike, htimes, haccept⟩ | ⟨cause, herror, hagainError⟩ :=
        hnext second
      · simp only [bind, Except.bind, pure, Except.pure, hother, hnext, haccept]
        by_cases hreadable : other.metadata.HasReadableTimes
        · rw [Managed.toDynamic_of_hasReadableTimes hreadable,
            Managed.toDynamic_of_hasReadableTimes (htimes.mpr hreadable)]
        · rw [Managed.toDynamic_of_not hreadable, Managed.toDynamic_of_not (mt htimes.mp hreadable),
            halike.kind]
      · simp only [bind, Except.bind, herror, hagainError]

/-- A change hands over the same times after another one as before it. -/
theorem handsOverReadableTimes_iff (htimes : existing.HandsOverReadableTimes first)
    (desired : DynamicObject) :
    result.HandsOverReadableTimes desired ↔ existing.HandsOverReadableTimes desired := by
  obtain ⟨-, hcreating⟩ := mutate_invariant hordered hmutate
  obtain ⟨live, again, hlive, hagain, hnext⟩ := exists_again hordered hmutate htimes
  simp only [HandsOverReadableTimes, hlive, hagain, hcreating, Except.ok.injEq]
  constructor
  · rintro hresult _ second other rfl hsecond hother
    obtain ⟨_, next, hsame, hnext, halike, -⟩ | ⟨_, herror, -⟩ := hnext second
    · cases hother.symm.trans hsame
      exact halike.times.mp (hresult again second next rfl hsecond hnext)
    · cases hother.symm.trans herror
  · rintro hexisting _ second next rfl hsecond hother
    obtain ⟨other, _, hother', hsame, halike, -⟩ | ⟨_, -, herror⟩ := hnext second
    · cases hother.symm.trans hsame
      exact halike.times.mpr (hexisting live second other rfl hsecond hother')
    · cases hother.symm.trans herror

/-- After a time that cannot be read back was written, nothing more is. -/
theorem mutate_of_not (htimes : ¬ existing.HandsOverReadableTimes first)
    (desired : DynamicObject) : ∃ kind, result.mutate desired = .error (.unreadable kind) := by
  obtain ⟨hresult, -⟩ := mutate_invariant hordered hmutate
  rw [mutate_eq hresult.data]
  obtain ⟨live, target, changed, hlive, htarget, hchanged, -, rfl⟩ :=
    exists_of_mutate hordered.data hmutate
  have hnot : ¬ changed.HandsOverReadableTimes existing.metadata.isBeingCreated := by
    refine fun hreadable => htimes fun _ _ _ hlive' htarget' hchanged' => ?_
    cases hlive.symm.trans hlive'
    cases htarget.symm.trans htarget'
    cases hchanged.symm.trans hchanged'
    exact hreadable
  rw [Managed.ofDynamic_accept_of_not hordered hlive hchanged hnot]
  exact ⟨live.kind, rfl⟩

end Step

/-! ### Runs -/

/-- A change after others is the change that it would be without them. -/
theorem mutate_after {existing : DynamicObject} (hordered : existing.IsOrdered)
    {earlier : List DynamicObject}
    (htimes : ∀ desired ∈ existing.taken earlier,
      existing.HandsOverReadableTimes desired)
    (desired : DynamicObject) :
    (existing.after earlier).mutate desired = existing.mutate desired := by
  induction earlier generalizing existing with
  | nil => rfl
  | cons first rest ih =>
      rw [taken] at htimes
      rw [after]
      cases hmutate : existing.mutate first with
      | error error =>
          rw [hmutate] at htimes
          exact ih hordered htimes
      | ok result =>
          simp only [hmutate, List.forall_mem_cons] at htimes
          obtain ⟨hfirst, hrest⟩ := htimes
          obtain ⟨hresult, -⟩ := mutate_invariant hordered hmutate
          have hlater : ∀ other ∈ result.taken rest, result.HandsOverReadableTimes other :=
            fun other hmem =>
              (handsOverReadableTimes_iff hordered hmutate hfirst other).mpr (hrest other hmem)
          exact (ih hresult hlater).trans (mutate_mutate hordered hmutate hfirst desired)

theorem after_of_taken_eq_nil {existing : DynamicObject} {desired : List DynamicObject}
    (hnone : existing.taken desired = []) : existing.after desired = existing := by
  induction desired with
  | nil => rfl
  | cons first rest ih =>
      rw [taken] at hnone
      rw [after]
      cases hmutate : existing.mutate first with
      | error error =>
          rw [hmutate] at hnone
          exact ih hnone
      | ok result =>
          rw [hmutate] at hnone
          cases hnone

/-- An object that is not changed any more takes nothing over. -/
theorem taken_eq_nil {existing : DynamicObject}
    (hfails : ∀ desired, ∃ kind, existing.mutate desired = .error (.unreadable kind))
    (desired : List DynamicObject) : existing.taken desired = [] := by
  induction desired with
  | nil => rfl
  | cons first rest ih =>
      obtain ⟨kind, herror⟩ := hfails first
      rw [taken, herror]
      exact ih

theorem mutate_last_taken {existing : DynamicObject} (hordered : existing.IsOrdered)
    {desired : List DynamicObject} {last : DynamicObject}
    (hlast : (existing.taken desired).getLast? = some last) :
    existing.mutate last = .ok (existing.after desired) := by
  induction desired generalizing existing with
  | nil => cases hlast
  | cons first rest ih =>
      rw [taken] at hlast
      rw [after]
      cases hmutate : existing.mutate first with
      | error error =>
          rw [hmutate] at hlast
          exact ih hordered hlast
      | ok result =>
          simp only [hmutate] at hlast ⊢
          -- Either nothing is taken over any more, or the first change left nothing to be seen.
          cases hrest : result.taken rest with
          | nil =>
              rw [hrest] at hlast
              cases hlast
              rw [after_of_taken_eq_nil hrest]
              exact hmutate
          | cons second others =>
              by_cases htimes : existing.HandsOverReadableTimes first
              · rw [hrest, List.getLast?_cons_cons, ← hrest] at hlast
                rw [← mutate_mutate hordered hmutate htimes]
                exact ih (mutate_invariant hordered hmutate).1 hlast
              · have hnone := taken_eq_nil (mutate_of_not hordered hmutate htimes) rest
                rw [hrest] at hnone
                cases hnone

theorem mutate_after_of_not {existing : DynamicObject} (hordered : existing.IsOrdered)
    {earlier : List DynamicObject} {stuck : DynamicObject} (hmem : stuck ∈ existing.taken earlier)
    (htimes : ¬ existing.HandsOverReadableTimes stuck)
    (desired : DynamicObject) :
    ∃ kind, (existing.after earlier).mutate desired = .error (.unreadable kind) := by
  induction earlier generalizing existing with
  | nil => cases hmem
  | cons first rest ih =>
      rw [taken] at hmem
      rw [after]
      cases hmutate : existing.mutate first with
      | error error =>
          rw [hmutate] at hmem
          exact ih hordered hmem htimes
      | ok result =>
          simp only [hmutate] at hmem ⊢
          obtain ⟨hresult, -⟩ := mutate_invariant hordered hmutate
          by_cases hfirst : existing.HandsOverReadableTimes first
          · rcases List.mem_cons.mp hmem with rfl | hlater
            · exact absurd hfirst htimes
            · exact ih hresult hlater
                (mt (handsOverReadableTimes_iff hordered hmutate hfirst stuck).mp htimes)
          -- From the first such time on, the object stays what it is.
          · have hfails := mutate_of_not hordered hmutate hfirst
            rw [after_of_taken_eq_nil (taken_eq_nil hfails rest)]
            exact hfails desired

/-- Runs are settled by their last change. What is left is what the last desired object that was
taken over makes of the live one by itself, and nothing at all changes where none was taken over;
wanting the same once more changes nothing. Whether a change succeeds, and what comes of it, does
not depend on the changes before it, so that a change can be tried again, unless one of them took
over a time before the year zero; after that, every change fails. -/
theorem run_settled_by_last {existing : DynamicObject} (hordered : existing.IsOrdered) :
    (∀ desired,
      (existing.taken desired = [] → existing.after desired = existing) ∧
      ∀ last, (existing.taken desired).getLast? = some last →
        existing.mutate last = .ok (existing.after desired)) ∧
    (∀ desired, existing.after [desired, desired] = existing.after [desired]) ∧
    (∀ earlier desired,
      (∀ other ∈ existing.taken earlier,
          existing.HandsOverReadableTimes other) →
        (existing.after earlier).mutate desired = existing.mutate desired) ∧
    (∀ desired result, existing.mutate desired = .ok result →
      existing.HandsOverReadableTimes desired →
        result.mutate desired = .ok result) ∧
    ∀ earlier desired,
      (∃ other ∈ existing.taken earlier,
          ¬ existing.HandsOverReadableTimes other) →
        ∃ kind, (existing.after earlier).mutate desired = .error (.unreadable kind) := by
  refine ⟨fun desired => ⟨after_of_taken_eq_nil, fun last => mutate_last_taken hordered⟩,
    fun desired => ?twice, fun earlier desired htimes => mutate_after hordered htimes desired,
    fun desired result hmutate htimes => ?retry,
    fun earlier desired ⟨stuck, hmem, htimes⟩ => mutate_after_of_not hordered hmem htimes desired⟩
  case twice =>
    cases hmutate : existing.mutate desired with
    | error error => simp only [after, hmutate]
    | ok result =>
        simp only [after, hmutate]
        by_cases htimes : existing.HandsOverReadableTimes desired
        · rw [mutate_mutate hordered hmutate htimes, hmutate]
        · obtain ⟨kind, herror⟩ := mutate_of_not hordered hmutate htimes desired
          rw [herror]
  case retry => rw [mutate_mutate hordered hmutate htimes, hmutate]

theorem run_settled_by_last_newQuerier :
    newQuerier.mutate ancientQueriers = .ok (newQuerier.after [twoQueriers, ancientQueriers]) ∧
      (newQuerier.after [twoQueriers]).mutate ancientQueriers =
        newQuerier.mutate ancientQueriers ∧
      (∃ result, newQuerier.mutate twoQueriers = .ok result ∧
        result.mutate twoQueriers = .ok result) ∧
      ∃ kind, (newQuerier.after [ancientQueriers]).mutate twoQueriers =
        .error (.unreadable kind) := by
  obtain ⟨hfinal, -, hearlier, hretry, hstuck⟩ := run_settled_by_last (querier_isOrdered _)
  have htimes : ∀ other ∈ newQuerier.taken [twoQueriers],
      newQuerier.HandsOverReadableTimes other := by
    intro other hmem
    obtain rfl := List.mem_singleton.mp hmem
    exact twoQueriers_handsOver
  refine ⟨(hfinal [twoQueriers, ancientQueriers]).2 ancientQueriers rfl,
    hearlier [twoQueriers] ancientQueriers htimes,
    ⟨_, rfl, hretry twoQueriers _ rfl twoQueriers_handsOver⟩,
    hstuck [ancientQueriers] twoQueriers ⟨ancientQueriers, List.mem_singleton.mpr rfl, ?_⟩⟩
  intro hancient
  have hyear : (0 : Int) ≤ -1 :=
    ((hancient _ _ _ rfl rfl rfl _ rfl).1 _ rfl).1 _ rfl
  omega

/-- A change that succeeded fails when it is tried again, and fails a change that would succeed. -/
theorem ancientQueriers_not_retried : newQuerier.IsOrdered ∧
    (∃ result, newQuerier.mutate ancientQueriers = .ok result ∧
      result.mutate ancientQueriers = .error (.unreadable .deployment)) ∧
    (∃ result, newQuerier.mutate twoQueriers = .ok result) ∧
    (newQuerier.after [ancientQueriers]).mutate twoQueriers = .error (.unreadable .deployment) :=
  ⟨querier_isOrdered _, ⟨_, rfl, rfl⟩, ⟨_, rfl⟩, rfl⟩

end DynamicObject

end Rollout.Kube
