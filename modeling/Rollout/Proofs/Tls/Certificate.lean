import Rollout.Tls

/-!
The certificate that a service asks for, and the one that its pods mount. Both go by the secret that
is named after the service. An annotation, a mount or a volume that stands under the name of what
would be added is kept, so the certificate is mounted exactly if what is kept fits together.
-/

namespace Rollout.Tls

open Kube

/-! ### Adding what is missing -/

section Lists

variable {α : Type} {isPresent : α → Bool} {item x : α} {items : List α}

/-- An item is added if none is present. -/
theorem mem_addUnless : x ∈ addUnless isPresent item items ↔
    x ∈ items ∨ x = item ∧ ∀ other ∈ items, isPresent other = false := by
  unfold addUnless
  split
  · next hany =>
      obtain ⟨other, hother, hpresent⟩ := List.any_eq_true.mp hany
      have hnone : ¬ ∀ other ∈ items, isPresent other = false := fun hall => by
        rw [hall other hother] at hpresent
        cases hpresent
      simp [hnone]
  · next hany =>
      have hall : ∀ other ∈ items, isPresent other = false := by
        simpa using hany
      rw [List.mem_append, List.mem_singleton, and_iff_left hall]

/-- Each of some arguments is there once the missing ones are added. -/
theorem mem_foldl_addUnless (arguments args : List String) {x : String} :
    x ∈ arguments.foldl (fun args argument => addUnless (· == argument) argument args) args ↔
      x ∈ args ∨ x ∈ arguments := by
  induction arguments generalizing args with
  | nil => simp
  | cons argument rest ih =>
      have hadded : x ∈ addUnless (· == argument) argument args ↔ x ∈ args ∨ x = argument := by
        rw [mem_addUnless]
        constructor
        · exact Or.imp id And.left
        · rintro (hargs | rfl)
          · exact .inl hargs
          · by_cases hmem : x ∈ args
            · exact .inl hmem
            · refine .inr ⟨rfl, fun other hother => ?_⟩
              exact beq_eq_false_iff_ne.mpr fun heq => hmem (heq ▸ hother)
      rw [List.foldl_cons, ih, hadded, List.mem_cons, or_assoc]

end Lists

/-! ### Asking -/

/-- The secret that a service asks to have its certificate put into. -/
def askedSecret? (service : Service) : Option String :=
  service.metadata.annotations.bind (·.find? certificateAnnotation)

/-- A service keeps the secret that it asks for, and else asks for the one named after it. -/
theorem askedSecret?_requestCertificate (service : Service) (name : String) :
    askedSecret? (requestCertificate service name) =
      some ((askedSecret? service).getD (secretName name)) := by
  have hasked : askedSecret? service =
      (service.metadata.annotations.getD .empty).find? certificateAnnotation := by
    unfold askedSecret?
    cases service.metadata.annotations <;> rfl
  rw [hasked]
  cases hfind : (service.metadata.annotations.getD .empty).find? certificateAnnotation with
  | none => simp [askedSecret?, requestCertificate, hfind]
  | some secret => simp [askedSecret?, requestCertificate, hfind]

/-! ### Mounting -/

/-- A container mounts a volume in the directory of the certificate. -/
def Mounts (container : Container) (volume : String) : Prop :=
  ∃ mount ∈ container.volumeMounts.getD [], mount.name = volume ∧ mount.mountPath = secretDirectory

/-- A pod has a volume under a name that holds the files of a secret. -/
def Holds (pod : PodSpec) (volume secret : String) : Prop :=
  ∃ held ∈ pod.volumes.getD [], held.name = volume ∧
    held.secret.bind SecretVolume.secretName = some secret

/-- The first container of the pods behind a service has the secret that the service asks for where
its server looks for the certificate. -/
def HasCertificate (service : Service) (pod : PodSpec) : Prop :=
  ∃ container others secret volume, pod.containers = container :: others ∧
    askedSecret? service = some secret ∧ Mounts container volume ∧ Holds pod volume secret

/-- The volume of the secret is mounted unless something else is mounted under its name. -/
theorem mounts_equipContainer {secret volume : String} {container : Container} :
    Mounts (equipContainer secret container) volume ↔ Mounts container volume ∨
      volume = secret ∧ ∀ mount ∈ container.volumeMounts.getD [], mount.name ≠ secret := by
  simp only [Mounts, equipContainer, Option.getD_some, mem_addUnless, beq_eq_false_iff_ne]
  constructor
  · rintro ⟨mount, hmount | ⟨rfl, hfree⟩, hname, hpath⟩
    · exact .inl ⟨mount, hmount, hname, hpath⟩
    · exact .inr ⟨hname.symm, hfree⟩
  · rintro (⟨mount, hmount, hname, hpath⟩ | ⟨rfl, hfree⟩)
    · exact ⟨mount, .inl hmount, hname, hpath⟩
    · exact ⟨secretMount volume, .inr ⟨rfl, hfree⟩, rfl, rfl⟩

/-- The secret is held by a volume of its own unless another volume goes by its name. -/
theorem holds_addUnless {pod served : PodSpec} {own volume secret : String}
    (hvolumes : served.volumes = some (addUnless (·.name == own) (secretVolume own)
      (pod.volumes.getD []))) :
    Holds served volume secret ↔ Holds pod volume secret ∨
      (volume = own ∧ secret = own) ∧ ∀ held ∈ pod.volumes.getD [], held.name ≠ own := by
  simp only [Holds, hvolumes, Option.getD_some, mem_addUnless, beq_eq_false_iff_ne]
  constructor
  · rintro ⟨held, hheld | ⟨rfl, hfree⟩, hname, hsecret⟩
    · exact .inl ⟨held, hheld, hname, hsecret⟩
    · exact .inr ⟨⟨hname.symm, (Option.some.inj hsecret).symm⟩, hfree⟩
  · rintro (⟨held, hheld, hname, hsecret⟩ | ⟨⟨rfl, rfl⟩, hfree⟩)
    · exact ⟨held, .inl hheld, hname, hsecret⟩
    · exact ⟨secretVolume _, .inr ⟨rfl, hfree⟩, rfl, rfl⟩

/-- A server is told where its certificate and its key are. -/
theorem serverArguments_subset_equipContainer (secret : String) (container : Container) :
    serverArguments ⊆ (equipContainer secret container).args.getD [] := by
  intro argument hargument
  simp only [equipContainer, Option.getD_some]
  exact (mem_foldl_addUnless _ _).mpr (.inr hargument)

/-- Once a service asks for a certificate and TLS is enabled on its pods, the first container is
told to serve with what is in the directory of the certificate. The secret that the service asks for
is mounted there if and only if what stood under the names of the additions fits: some volume was
mounted there or is added there, and it held that secret or is added to hold it. -/
theorem hasCertificate_enable_iff (service : Service) {pod : PodSpec} {first : Container}
    {others : List Container} (hpod : pod.containers = first :: others) (name : String) :
    ∃ served container secret, enable pod name = .ok served ∧
      served.containers = container :: others ∧
      "-server.http-tls-cert-path=/etc/proxy/secrets/tls.crt" ∈ container.args.getD [] ∧
      "-server.http-tls-key-path=/etc/proxy/secrets/tls.key" ∈ container.args.getD [] ∧
      askedSecret? (requestCertificate service name) = some secret ∧
      secret = (askedSecret? service).getD (name ++ "-metrics") ∧
      (HasCertificate (requestCertificate service name) served ↔ ∃ volume,
        (Mounts first volume ∨ volume = name ++ "-metrics" ∧
          ∀ mount ∈ first.volumeMounts.getD [], mount.name ≠ name ++ "-metrics") ∧
        (Holds pod volume secret ∨ (volume = name ++ "-metrics" ∧ secret = name ++ "-metrics") ∧
          ∀ held ∈ pod.volumes.getD [], held.name ≠ name ++ "-metrics")) := by
  have harguments := serverArguments_subset_equipContainer (secretName name) first
  have hasked := askedSecret?_requestCertificate service name
  refine ⟨_, equipContainer (secretName name) first, _, by rw [enable, hpod], rfl,
    harguments (by decide), harguments (by decide), hasked, rfl, ?_⟩
  constructor
  · rintro ⟨container, rest, secret, volume, hcontainers, hsecret, hmounts, hholds⟩
    obtain ⟨rfl, -⟩ := List.cons.inj hcontainers
    obtain rfl := Option.some.inj (hasked.symm.trans hsecret)
    exact ⟨volume, mounts_equipContainer.mp hmounts, (holds_addUnless rfl).mp hholds⟩
  · rintro ⟨volume, hmounts, hholds⟩
    exact ⟨_, others, _, volume, rfl, hasked, mounts_equipContainer.mpr hmounts,
      (holds_addUnless rfl).mpr hholds⟩

/-! A pod whose container has arguments, mounts and volumes of its own, under other names. -/

def querierPod : PodSpec where
  containers := [{
    name := "loki"
    args := some ["-target=querier"]
    volumeMounts := some [{ name := "config", mountPath := "/etc/loki" }] }]
  volumes := some [{ name := "config", configMap := some { name := "loki-config" } }]

theorem hasCertificate_enable_querierPod : ∃ served, enable querierPod "loki-querier" = .ok served ∧
    HasCertificate (requestCertificate {} "loki-querier") served := by
  have hpod : querierPod.containers = [_] := rfl
  obtain ⟨served, container, secret, hserved, -, -, -, -, hsecret, hiff⟩ :=
    hasCertificate_enable_iff {} hpod "loki-querier"
  refine ⟨served, hserved, hiff.mpr ⟨"loki-querier-metrics", .inr ⟨rfl, ?_⟩, .inr ⟨⟨rfl, ?_⟩, ?_⟩⟩⟩
  · simp
  · exact hsecret
  · simp [querierPod]

/-! A pod that mounts the secret of its service, but in another directory. -/

def misplacedPod : PodSpec where
  containers := [{
    name := "loki", volumeMounts := some [{ name := "svc-metrics", mountPath := "/etc/certs" }] }]

/-- A mount that stands under the name of the one to add keeps the certificate out of its place. -/
theorem not_always_hasCertificate :
    ¬ ∀ (name : String) (service : Service) (pod : PodSpec), pod.containers ≠ [] →
      ∃ served, enable pod name = .ok served ∧
        HasCertificate (requestCertificate service name) served := by
  intro hall
  obtain ⟨served, hserved, container, others, secret, volume, hcontainers, -, hmounts, -⟩ :=
    hall "svc" {} misplacedPod (List.cons_ne_nil _ _)
  obtain rfl := Except.ok.inj hserved
  obtain ⟨rfl, -⟩ := List.cons.inj hcontainers
  rcases mounts_equipContainer.mp hmounts with ⟨mount, hmount, -, hpath⟩ | ⟨-, hfree⟩
  · obtain rfl := List.mem_singleton.mp hmount
    revert hpath
    decide
  · exact hfree _ (List.mem_singleton_self _) rfl

end Rollout.Tls
