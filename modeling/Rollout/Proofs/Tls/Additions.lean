import Rollout.Tls.InPlace

/-!
What enabling TLS adds to pods. Three lists are completed by what they miss, in a given order and
each item once, and all else stays as it was; pods that miss nothing stay as they are altogether.
Pods without containers are refused before anything is written to them.
-/

namespace Rollout.Tls

open Kube

/-! ### Completing lists -/

section Lists

variable {α κ : Type} [DecidableEq κ] (key : α → κ)

/-- The items of a list that no item of another one shares its key with. -/
def missing (wanted items : List α) : List α :=
  wanted.filter fun item => key item ∉ items.map key

theorem missing_cons (item : α) (rest items : List α) :
    missing key (item :: rest) items = missing key [item] items ++ missing key rest items :=
  List.filter_append [item] rest

/-- One item is added if it is missing. -/
theorem addUnless_eq (item : α) (items : List α) :
    addUnless (key · == key item) item items = items ++ missing key [item] items := by
  have hany : items.any (key · == key item) = true ↔ key item ∈ items.map key := by
    simp
  unfold addUnless missing
  by_cases hpresent : key item ∈ items.map key
  · rw [if_pos (hany.mpr hpresent), List.filter_cons_of_neg (by simpa using hpresent),
      List.filter_nil, List.append_nil]
  · rw [if_neg fun h => hpresent (hany.mp h), List.filter_cons_of_pos (by simpa using hpresent),
      List.filter_nil]

/-- What was added under another key is missed by nobody. -/
theorem missing_append {wanted items added : List α}
    (hapart : ∀ item ∈ wanted, key item ∉ added.map key) :
    missing key wanted (items ++ added) = missing key wanted items := by
  refine List.filter_congr fun item hitem => ?_
  have hadded := hapart item hitem
  simp only [List.map_append, List.mem_append, hadded, or_false]

/-- Items that are added one after another are those that were missing, in the same order. -/
theorem foldl_addUnless {wanted : List α} (hdistinct : (wanted.map key).Nodup) (items : List α) :
    wanted.foldl (fun items item => addUnless (key · == key item) item items) items =
      items ++ missing key wanted items := by
  induction wanted generalizing items with
  | nil => exact (List.append_nil items).symm
  | cons item rest ih =>
      rw [List.map_cons, List.nodup_cons] at hdistinct
      have hapart : ∀ other ∈ rest, key other ∉ (missing key [item] items).map key := by
        intro other hother hmem
        obtain ⟨same, hsame, heq⟩ := List.mem_map.mp hmem
        obtain rfl := List.mem_singleton.mp (List.mem_filter.mp hsame).1
        exact hdistinct.1 (heq ▸ List.mem_map_of_mem hother)
      rw [List.foldl_cons, addUnless_eq, ih hdistinct.2, missing_append key hapart,
        missing_cons key item rest, List.append_assoc]

/-- A list that was completed misses nothing. -/
theorem missing_completed (wanted items : List α) :
    missing key wanted (items ++ missing key wanted items) = [] := by
  refine List.filter_eq_nil_iff.mpr fun item hitem => ?_
  rw [decide_eq_true_iff, Decidable.not_not, List.map_append, List.mem_append]
  by_cases hpresent : key item ∈ items.map key
  · exact .inl hpresent
  · have hmissing : item ∈ missing key wanted items :=
      List.mem_filter.mpr ⟨hitem, decide_eq_true hpresent⟩
    exact .inr (List.mem_map_of_mem hmissing)

/-- A list, empty if unset, is followed by those of some items that it misses, and by nothing under
a key that it had. -/
structure Completes (wanted : List α) (before after : Option (List α)) : Prop where
  appended : after = some (before.getD [] ++ missing key wanted (before.getD []))
  count_eq : ∀ k ∈ (before.getD []).map key,
    ((after.getD []).map key).count k = ((before.getD []).map key).count k

variable {key}

theorem Completes.of_appended {wanted : List α} {before after : Option (List α)}
    (happended : after = some (before.getD [] ++ missing key wanted (before.getD []))) :
    Completes key wanted before after where
  appended := happended
  count_eq k hk := by
    have hnone : k ∉ (missing key wanted (before.getD [])).map key := by
      intro hmem
      obtain ⟨item, hitem, rfl⟩ := List.mem_map.mp hmem
      exact of_decide_eq_true (List.mem_filter.mp hitem).2 hk
    rw [happended, Option.getD_some, List.map_append, List.count_append,
      List.count_eq_zero_of_not_mem hnone, Nat.add_zero]

end Lists

/-! ### Completing pods -/

theorem run_enable (pod : PodSpec) (service : String) :
    (PodChange.enable service).run pod =
      match enable pod service with
      | .ok served => (.ok (), served)
      | .error cause => (.error cause, pod) := by
  obtain ⟨rest, containers, rfl⟩ : ∃ (rest : PodSpec) (containers : List Container),
      pod = { rest with containers } := ⟨pod, pod.containers, rfl⟩
  cases containers with
  | nil => rfl
  | cons first others => rfl

/-- The first container mounts the secret and serves with it. -/
theorem equipContainer_eq (secret : String) (container : Container) :
    equipContainer secret container = { container with
      volumeMounts := some (container.volumeMounts.getD [] ++
        missing VolumeMount.name [secretMount secret] (container.volumeMounts.getD []))
      args := some (container.args.getD [] ++
        missing id serverArguments (container.args.getD [])) } := by
  have hmounts := addUnless_eq VolumeMount.name (secretMount secret)
    (container.volumeMounts.getD [])
  have hdistinct : (serverArguments.map id).Nodup := by decide
  have hargs := foldl_addUnless id hdistinct (container.args.getD [])
  rw [← hmounts, ← hargs]
  rfl

/-- Enabling TLS completes three lists of pods that have a container, and keeps the rest. -/
theorem enable_cons {pod : PodSpec} {first : Container} {others : List Container}
    (hpod : pod.containers = first :: others) (service : String) :
    enable pod service = .ok { pod with
      containers := equipContainer (secretName service) first :: others
      volumes := some (pod.volumes.getD [] ++
        missing Volume.name [secretVolume (secretName service)] (pod.volumes.getD [])) } := by
  have hvolumes := addUnless_eq Volume.name (secretVolume (secretName service))
    (pod.volumes.getD [])
  rw [← hvolumes, enable, hpod]
  rfl

theorem enable_nil {pod : PodSpec} (hpod : pod.containers = []) (service : String) :
    enable pod service = .error (.missingContainer service) := by
  rw [enable, hpod]

/-- Pods whose lists were completed are left as they are. -/
theorem enable_enable {pod served : PodSpec} {service : String}
    (hserved : enable pod service = .ok served) : enable served service = .ok served := by
  cases hpod : pod.containers with
  | nil =>
      rw [enable_nil hpod] at hserved
      cases hserved
  | cons first others =>
      rw [enable_cons hpod] at hserved
      obtain rfl := Except.ok.inj hserved
      rw [enable_cons rfl]
      simp only [equipContainer_eq, Option.getD_some, missing_completed, List.append_nil]

/-- Enabling TLS only adds what is missing. It fails exactly for pods without containers, which it
leaves as they are. Otherwise the mounts and the arguments of the first container and the volumes of
the pods are completed by the secret of the service and the two arguments, in this order, each of
them only where it is missing; nothing that was there is added again, all else is kept, and enabling
TLS once more changes nothing. -/
theorem enable_completes (pod : PodSpec) (service : String) :
    ((∃ cause, enable pod service = .error cause) ↔ pod.containers = []) ∧
    (∀ cause, enable pod service = .error cause → cause = .missingContainer service ∧
      (PodChange.enable service).run pod = (.error cause, pod)) ∧
    ∀ served, enable pod service = .ok served →
      (PodChange.enable service).run pod = (.ok (), served) ∧
      (∃ first others mounts args volumes, pod.containers = first :: others ∧
        served = { pod with
          containers := { first with volumeMounts := mounts, args := args } :: others
          volumes := volumes } ∧
        Completes VolumeMount.name
          [{ name := service ++ "-metrics", mountPath := "/etc/proxy/secrets",
             readOnly := some false }] first.volumeMounts mounts ∧
        Completes id
          ["-server.http-tls-cert-path=/etc/proxy/secrets/tls.crt",
           "-server.http-tls-key-path=/etc/proxy/secrets/tls.key"] first.args args ∧
        Completes Volume.name
          [{ name := service ++ "-metrics",
             secret := some { secretName := some (service ++ "-metrics") } }]
          pod.volumes volumes) ∧
      enable served service = .ok served ∧
      (PodChange.enable service).run served = (.ok (), served) := by
  have hrun := run_enable pod service
  cases hpod : pod.containers with
  | nil =>
      have hfails := enable_nil hpod service
      rw [hfails] at hrun
      refine
        ⟨⟨fun _ => rfl, fun _ => ⟨_, hfails⟩⟩, fun cause hcause => ?_, fun served hserved => ?_⟩
      · obtain rfl := Except.error.inj (hfails.symm.trans hcause)
        exact ⟨rfl, hrun⟩
      · cases hfails.symm.trans hserved
  | cons first others =>
      have hsucceeds := enable_cons hpod service
      refine ⟨⟨fun ⟨cause, hcause⟩ => ?_, fun hnil => ?_⟩, fun cause hcause => ?_,
        fun served hserved => ?_⟩
      · cases hsucceeds.symm.trans hcause
      · cases hnil
      · cases hsucceeds.symm.trans hcause
      · have hagain := enable_enable hserved
        have hrunAgain := run_enable served service
        rw [hserved] at hrun
        rw [hagain] at hrunAgain
        obtain rfl := Except.ok.inj (hsucceeds.symm.trans hserved)
        rw [equipContainer_eq] at hrun hagain hrunAgain ⊢
        have harguments : serverArguments =
          ["-server.http-tls-cert-path=/etc/proxy/secrets/tls.crt",
           "-server.http-tls-key-path=/etc/proxy/secrets/tls.key"] := by decide
        exact ⟨hrun, ⟨first, others, _, _, _, rfl, rfl, .of_appended rfl,
          .of_appended (harguments ▸ rfl), .of_appended rfl⟩, hagain, hrunAgain⟩

/-- Pods that hold a volume under the name of the secret, and whose first container is told where
its key is, twice, but not where its certificate is. -/
def keyedPod : PodSpec where
  containers := [
    { name := "loki"
      args := some ["-server.http-tls-key-path=/etc/proxy/secrets/tls.key", "-target=querier",
        "-server.http-tls-key-path=/etc/proxy/secrets/tls.key"] },
    { name := "sidecar" }]
  volumes := some [{ name := "svc-metrics" }]

theorem enable_completes_keyedPod :
    (∃ cause, enable {} "svc" = .error cause ∧
      (PodChange.enable "svc").run {} = (.error cause, {})) ∧
    ∃ served, enable keyedPod "svc" = .ok served ∧
      (PodChange.enable "svc").run keyedPod = (.ok (), served) ∧
      served.volumes = some [{ name := "svc-metrics" }] ∧
      (∃ first, served.containers = [first, { name := "sidecar" }] ∧
        first.args = some ["-server.http-tls-key-path=/etc/proxy/secrets/tls.key",
          "-target=querier", "-server.http-tls-key-path=/etc/proxy/secrets/tls.key",
          "-server.http-tls-cert-path=/etc/proxy/secrets/tls.crt"]) ∧
      enable served "svc" = .ok served := by
  obtain ⟨hfails, hkept, -⟩ := enable_completes {} "svc"
  obtain ⟨cause, hcause⟩ := hfails.mpr rfl
  have hserved : enable keyedPod "svc" = .ok _ := rfl
  obtain
    ⟨hrun, ⟨first, others, mounts, args, volumes, hpod, hpods, -, hargs, hvolumes⟩, hagain, -⟩ :=
    (enable_completes keyedPod "svc").2.2 _ hserved
  obtain ⟨rfl, rfl⟩ := List.cons.inj hpod
  refine ⟨⟨cause, hcause, (hkept cause hcause).2⟩, _, hserved, hrun, ?_, ?_, hagain⟩
  · rw [hpods]
    exact hvolumes.appended
  · rw [hpods]
    exact ⟨_, rfl, hargs.appended⟩

end Rollout.Tls
