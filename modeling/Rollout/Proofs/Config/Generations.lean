import Mathlib.Data.List.Chain
import Rollout.Proofs.Config.Comparison

/-!
Chains of configuration files. Each file that can be compared with the current one becomes the
current one and is a new generation: the file, and the hashes that pods carry from then on. A
component carries the hash of the current file or of the one before it, and the latter only if no
section that it reads differs between the two.
-/

namespace Rollout

/-- Two readable files differ in a section that a component reads. -/
def Touches (component : Component) (old new : ByteArray) : Prop :=
  ∃ oldConfig newConfig, Config.ofBytes? old = some oldConfig ∧
    Config.ofBytes? new = some newConfig ∧ Config.Concerns oldConfig newConfig component

namespace Touches

variable {component : Component} {old new : ByteArray}

theorem iff_concerns {oldConfig newConfig : Config} (hold : Config.ofBytes? old = some oldConfig)
    (hnew : Config.ofBytes? new = some newConfig) :
    Touches component old new ↔ Config.Concerns oldConfig newConfig component := by
  simp [Touches, hold, hnew]

theorem symm (htouches : Touches component old new) : Touches component new old := by
  obtain ⟨oldConfig, newConfig, hold, hnew, part, hchanged, hread⟩ := htouches
  refine ⟨newConfig, oldConfig, hnew, hold, part, ?_, hread⟩
  cases part <;> exact Ne.symm hchanged

theorem irrefl (file : ByteArray) : ¬ Touches component file file := by
  rintro ⟨oldConfig, newConfig, hold, hnew, hconcerns⟩
  obtain rfl : oldConfig = newConfig := Option.some.inj (hold.symm.trans hnew)
  exact Config.not_concerns_self oldConfig component hconcerns

end Touches

namespace Comparison

theorem exists_between_of_compare {old new : ByteArray} {hashes : Comparison}
    (hcompare : compare old new = .ok hashes) :
    ∃ oldConfig newConfig, Config.ofBytes? old = some oldConfig ∧
      Config.ofBytes? new = some newConfig := by
  unfold compare ConfigChange.between at hcompare
  cases hold : Config.ofBytes? old with
  | none => simp [hold, Except.map] at hcompare
  | some oldConfig =>
      cases hnew : Config.ofBytes? new with
      | none => simp [hold, hnew, Except.map] at hcompare
      | some newConfig => exact ⟨oldConfig, newConfig, rfl, rfl⟩

/-- What a successful comparison gives a component, without a look into the files. -/
theorem get_of_compare {old new : ByteArray} {hashes : Comparison}
    (hcompare : compare old new = .ok hashes) (component : Component) :
    (Touches component old new → hashes.get component = Config.hash new) ∧
      (¬ Touches component old new → hashes.get component = Config.hash old) := by
  obtain ⟨oldConfig, newConfig, hold, hnew⟩ := exists_between_of_compare hcompare
  obtain ⟨change, hchange, hget, -⟩ := ConfigChange.between_readable hold hnew
  have heq : hashes = change.comparison :=
    Except.ok.inj (hcompare.symm.trans (compare_of_between hchange))
  rw [heq, hget, Touches.iff_concerns hold hnew]
  exact ⟨fun hconcerns => if_pos hconcerns, fun hconcerns => if_neg hconcerns⟩

end Comparison

/-- A file that has become the current one, with the hashes that pods carry from then on. -/
structure Generation where
  file : ByteArray
  hashes : Comparison

namespace Generation

/-- The first file. Nothing runs yet, so every component starts with its hash. -/
def first (file : ByteArray) : Generation := ⟨file, .uniform (Config.hash file)⟩

/-- The generations after the current file, when further files are compared one after the other. A
file that cannot be compared leaves everything as it is. -/
def successors (current : ByteArray) : List ByteArray → List Generation
  | [] => []
  | next :: rest =>
    match Comparison.compare current next with
    | .ok hashes => ⟨next, hashes⟩ :: successors next rest
    | .error _ => successors current rest

def generations (start : ByteArray) (files : List ByteArray) : List Generation :=
  first start :: successors start files

/-- The generations are the successes of the chain of comparisons. -/
theorem successors_hashes (current : ByteArray) (files : List ByteArray) :
    (successors current files).map Generation.hashes =
      (ConfigChange.chain current files).filterMap fun outcome =>
        outcome.toOption.map ConfigChange.comparison := by
  induction files generalizing current with
  | nil => rfl
  | cons next rest ih =>
      simp only [successors, ConfigChange.chain, Comparison.compare]
      cases ConfigChange.between current next with
      | error cause => simpa [Except.map, Except.toOption] using ih current
      | ok change => simpa [Except.map, Except.toOption] using ih next

/-- The step from a generation to the next one is a comparison of the two files. -/
def Follows (before after : Generation) : Prop :=
  Comparison.compare before.file after.file = .ok after.hashes

theorem isChain_cons_successors (current : Generation) (files : List ByteArray) :
    (current :: successors current.file files).IsChain Follows := by
  induction files generalizing current with
  | nil => exact List.isChain_singleton current
  | cons next rest ih =>
      simp only [successors]
      cases hcompare : Comparison.compare current.file next with
      | error cause => exact ih current
      | ok hashes => exact List.isChain_cons_cons.mpr ⟨hcompare, ih ⟨next, hashes⟩⟩

theorem isChain_generations (start : ByteArray) (files : List ByteArray) :
    (generations start files).IsChain Follows := isChain_cons_successors (first start) files

theorem file_mem_of_mem_generations {start : ByteArray} {files : List ByteArray}
    {generation : Generation} (hmem : generation ∈ generations start files) :
    generation.file ∈ start :: files := by
  have hsuccessors : ∀ (files : List ByteArray) (current : ByteArray) (generation : Generation),
      generation ∈ successors current files → generation.file ∈ files := by
    intro files
    induction files with
    | nil => simp [successors]
    | cons next rest ih =>
        intro current generation hmem
        simp only [successors] at hmem
        cases hcompare : Comparison.compare current next with
        | error cause =>
            rw [hcompare] at hmem
            exact List.mem_cons_of_mem next (ih current generation hmem)
        | ok hashes =>
            rw [hcompare] at hmem
            rcases List.mem_cons.mp hmem with rfl | hlater
            · exact List.mem_cons_self
            · exact List.mem_cons_of_mem next (ih next generation hlater)
  rcases List.mem_cons.mp hmem with rfl | hlater
  · exact List.mem_cons_self
  · exact List.mem_cons_of_mem start (hsuccessors files start generation hlater)

theorem generations_files {start : ByteArray} {files : List ByteArray}
    (hreadable : ∀ file ∈ start :: files, (Config.ofBytes? file).isSome) :
    (generations start files).map Generation.file = start :: files := by
  have hsuccessors : ∀ (files : List ByteArray) (current : ByteArray),
      (∀ file ∈ current :: files, (Config.ofBytes? file).isSome) →
        (successors current files).map Generation.file = files := by
    intro files
    induction files with
    | nil => intros; rfl
    | cons next rest ih =>
        intro current hreadable
        obtain ⟨oldConfig, hold⟩ := Option.isSome_iff_exists.mp (hreadable current (by simp))
        obtain ⟨newConfig, hnew⟩ := Option.isSome_iff_exists.mp (hreadable next (by simp))
        obtain ⟨change, hchange, -, -⟩ := ConfigChange.between_readable hold hnew
        simp only [successors, Comparison.compare_of_between hchange, List.map_cons]
        rw [ih next fun file hfile => hreadable file (List.mem_cons_of_mem current hfile)]
  exact congrArg (start :: ·) (hsuccessors files start hreadable)

/-- Two readable files after a first one make three generations. -/
theorem exists_generations_pair {start next last : ByteArray}
    (hreadable : ∀ file ∈ [start, next, last], (Config.ofBytes? file).isSome) :
    ∃ first second third, generations start [next, last] = [first, second, third] ∧
      first.file = start ∧ second.file = next ∧ third.file = last := by
  obtain ⟨first, rest, hrun, hfirst, hrest⟩ :=
    List.map_eq_cons_iff.mp (generations_files hreadable)
  obtain ⟨second, rest, rfl, hsecond, hrest⟩ := List.map_eq_cons_iff.mp hrest
  obtain ⟨third, rest, rfl, hthird, hrest⟩ := List.map_eq_cons_iff.mp hrest
  obtain rfl := List.map_eq_nil_iff.mp hrest
  exact ⟨first, second, third, hrun, hfirst, hsecond, hthird⟩

/-! ### Three files -/

def lowLimit : ByteArray := "limits_config: \x7bmax_line_size: 1\x7d".toUTF8

def highLimit : ByteArray := "limits_config: \x7bmax_line_size: 2\x7d".toUTF8

/-- The higher limit, and a replication factor that only the ingesters read. -/
def replicated : ByteArray :=
  ("limits_config: \x7bmax_line_size: 2\x7d\n" ++
    "ingester: \x7blifecycler: \x7bring: \x7breplication_factor: 3\x7d\x7d\x7d").toUTF8

theorem files_config :
    Config.ofBytes? lowLimit = some { limits := { maxLineSize := 1 } } ∧
      Config.ofBytes? highLimit = some { limits := { maxLineSize := 2 } } ∧
      Config.ofBytes? replicated = some {
        ingester := { lifecycler := { ring := { replicationFactor := 3 } } },
        limits := { maxLineSize := 2 } } := by
  decide +kernel

theorem lowLimit_config : Config.ofBytes? lowLimit = some { limits := { maxLineSize := 1 } } :=
  files_config.1

theorem highLimit_config : Config.ofBytes? highLimit = some { limits := { maxLineSize := 2 } } :=
  files_config.2.1

theorem replicated_config :
    Config.ofBytes? replicated = some {
      ingester := { lifecycler := { ring := { replicationFactor := 3 } } },
      limits := { maxLineSize := 2 } } :=
  files_config.2.2

theorem lowLimit_hash_ne : Config.hash lowLimit ≠ Config.hash highLimit := by decide +kernel

theorem touches_ingester : Touches .ingester lowLimit highLimit := by
  rw [Touches.iff_concerns lowLimit_config highLimit_config]
  refine ⟨.limits, by simp [Config.Section.Changed], ?_⟩
  simp [Config.Section.IsReadBy, Config.Section.name, Impact.readers]

theorem not_touches_compactor :
    ¬ Touches .compactor lowLimit highLimit ∧ ¬ Touches .compactor highLimit replicated := by
  rw [Touches.iff_concerns lowLimit_config highLimit_config,
    Touches.iff_concerns highLimit_config replicated_config]
  constructor
  · rintro ⟨part, hchanged, hread⟩
    cases part with
    | limits => simp [Config.Section.IsReadBy, Config.Section.name, Impact.readers] at hread
    | _ => exact hchanged rfl
  · rintro ⟨part, hchanged, hread⟩
    cases part with
    | ingester => simp [Config.Section.IsReadBy, Config.Section.name, Impact.readers] at hread
    | _ => exact hchanged rfl

theorem generations_replicated :
    ∃ first second third, generations lowLimit [highLimit, replicated] = [first, second, third] ∧
      first.file = lowLimit ∧ second.file = highLimit ∧ third.file = replicated := by
  apply exists_generations_pair
  simp [lowLimit_config, highLimit_config, replicated_config]

theorem generations_back :
    ∃ first second third, generations lowLimit [highLimit, lowLimit] = [first, second, third] ∧
      first.file = lowLimit ∧ second.file = highLimit ∧ third.file = lowLimit := by
  apply exists_generations_pair
  simp [lowLimit_config, highLimit_config]

/-! ### The token of a component that has to restart -/

section Restarted

variable {component : Component} {known : ByteArray → Prop} {before after : Generation}

/-- The hash that a component carries is that of a known file, which differs from the current one in
no section that the component reads. -/
def Carries (known : ByteArray → Prop) (component : Component) (generation : Generation) : Prop :=
  ∃ seen, known seen ∧ generation.hashes.get component = Config.hash seen ∧
    ¬ Touches component seen generation.file

theorem carries_first {file : ByteArray} (hknown : known file) :
    Carries known component (first file) :=
  ⟨file, hknown, Comparison.get_uniform _ _, Touches.irrefl file⟩

/-- A step hands out the hash of one of its two files, so it keeps the invariant whatever was
carried before. -/
theorem Follows.carries (hfollows : Follows before after) (hbefore : known before.file)
    (hafter : known after.file) : Carries known component after := by
  obtain ⟨htouched, huntouched⟩ := Comparison.get_of_compare hfollows component
  by_cases htouches : Touches component before.file after.file
  · exact ⟨after.file, hafter, htouched htouches, Touches.irrefl after.file⟩
  · exact ⟨before.file, hbefore, huntouched htouches, htouches⟩

/-- A component that reads a changed section gets a hash that it did not carry: its old one belongs
to a file that agrees with the current file on all that it reads, the new one to a file that
does not. -/
theorem Follows.token_ne (hfollows : Follows before after)
    (hcollision : ∀ first second, known first → known second →
      Config.hash first = Config.hash second → first = second)
    (hcarries : Carries known component before) (hafter : known after.file)
    (htouches : Touches component before.file after.file) :
    after.hashes.get component ≠ before.hashes.get component := by
  obtain ⟨seen, hseen, htoken, huntouched⟩ := hcarries
  have hnew := (Comparison.get_of_compare hfollows component).1 htouches
  intro hkept
  have hhash : Config.hash after.file = Config.hash seen := by
    rw [← hnew, hkept, htoken]
  have hsame : after.file = seen := hcollision _ _ hafter hseen hhash
  exact huntouched (hsame ▸ htouches.symm)

theorem isChain_token_ne
    (hcollision : ∀ first second, known first → known second →
      Config.hash first = Config.hash second → first = second)
    (later : List Generation) (current : Generation)
    (hrun : (current :: later).IsChain Follows)
    (hknown : ∀ generation ∈ current :: later, known generation.file)
    (hcarries : Carries known component current) :
    (current :: later).IsChain fun before after =>
      Touches component before.file after.file →
        after.hashes.get component ≠ before.hashes.get component := by
  induction later generalizing current with
  | nil => exact List.isChain_singleton current
  | cons next rest ih =>
      obtain ⟨hfollows, hrest⟩ := List.isChain_cons_cons.mp hrun
      have hcurrent := hknown current List.mem_cons_self
      have hlater : ∀ generation ∈ next :: rest, known generation.file :=
        fun generation hmem => hknown generation (List.mem_cons_of_mem current hmem)
      have hnext := hlater next List.mem_cons_self
      refine List.isChain_cons_cons.mpr ⟨?_, ?_⟩
      · exact hfollows.token_ne hcollision hcarries hnext
      · exact ih next hrest hlater (hfollows.carries hcurrent hnext)

end Restarted

/-- No restart is missed: as long as the hashes of the files that have been current tell them
apart, a component that reads a section which changes between two generations gets a hash that
it did not carry. -/
theorem token_changes (start : ByteArray) (files : List ByteArray)
    (hcollision : ∀ first ∈ generations start files, ∀ second ∈ generations start files,
      Config.hash first.file = Config.hash second.file → first.file = second.file)
    (component : Component) :
    (generations start files).IsChain fun before after =>
      Touches component before.file after.file →
        after.hashes.get component ≠ before.hashes.get component := by
  let current (file : ByteArray) : Prop := ∃ generation ∈ generations start files,
    generation.file = file
  refine @isChain_token_ne component current ?_ _ (first start) (isChain_generations start files)
    ?_ ?_
  · rintro _ _ ⟨first, hfirst, rfl⟩ ⟨second, hsecond, rfl⟩ hhash
    exact hcollision first hfirst second hsecond hhash
  · intro generation hmem
    exact ⟨generation, hmem, rfl⟩
  · exact carries_first ⟨first start, List.mem_cons_self, rfl⟩

/-- Raising the limit and going back to the first file makes three generations, and restarts the
ingesters twice. -/
theorem token_changes_back :
    ∃ first second third, generations lowLimit [highLimit, lowLimit] = [first, second, third] ∧
      first.file = lowLimit ∧ second.file = highLimit ∧ third.file = lowLimit ∧
      Touches .ingester lowLimit highLimit ∧ Touches .ingester highLimit lowLimit ∧
      second.hashes.get .ingester ≠ first.hashes.get .ingester ∧
      third.hashes.get .ingester ≠ second.hashes.get .ingester := by
  have hcollision : ∀ first ∈ generations lowLimit [highLimit, lowLimit],
      ∀ second ∈ generations lowLimit [highLimit, lowLimit],
        Config.hash first.file = Config.hash second.file → first.file = second.file := by
    intro first hfirst second hsecond hhash
    have hfirst := file_mem_of_mem_generations hfirst
    have hsecond := file_mem_of_mem_generations hsecond
    simp only [List.mem_cons, List.not_mem_nil, or_false] at hfirst hsecond
    rcases hfirst with hfirst | hfirst | hfirst <;>
      rcases hsecond with hsecond | hsecond | hsecond <;>
      simp_all [lowLimit_hash_ne, lowLimit_hash_ne.symm]
  have hrun := token_changes lowLimit [highLimit, lowLimit] hcollision .ingester
  obtain ⟨first, second, third, heq, hfirst, hsecond, hthird⟩ := generations_back
  rw [heq] at hrun
  obtain ⟨hraised, hrest⟩ := List.isChain_cons_cons.mp hrun
  obtain ⟨hlowered, -⟩ := List.isChain_cons_cons.mp hrest
  rw [hfirst, hsecond] at hraised
  rw [hsecond, hthird] at hlowered
  exact ⟨first, second, third, heq, hfirst, hsecond, hthird, touches_ingester,
    touches_ingester.symm, hraised touches_ingester, hlowered touches_ingester.symm⟩

/-! ### The token of a component that does not have to restart -/

/-- A component that reads no changed section gets the hash of the file before, which is the one
it carries if that file was the first, or changed something for the component in its turn, or has
the hash of its predecessor. In all other cases the component restarts without a reason. -/
theorem token_kept_iff (start : ByteArray) (files : List ByteArray) (component : Component)
    (index : Nat) (before after : Generation)
    (hbefore : (generations start files)[index]? = some before)
    (hafter : (generations start files)[index + 1]? = some after)
    (huntouched : ¬ Touches component before.file after.file) :
    after.hashes.get component = before.hashes.get component ↔
      index = 0 ∨ ∃ earlier, (generations start files)[index - 1]? = some earlier ∧
        (Touches component earlier.file before.file ∨
          Config.hash earlier.file = Config.hash before.file) := by
  have hstep : ∀ (index : Nat) (old new : Generation),
      (generations start files)[index]? = some old →
      (generations start files)[index + 1]? = some new → Follows old new := by
    intro index old new hold hnew
    obtain ⟨hbound, rfl⟩ := List.getElem?_eq_some_iff.mp hnew
    obtain ⟨_, rfl⟩ := List.getElem?_eq_some_iff.mp hold
    exact List.isChain_iff_getElem.mp (isChain_generations start files) index hbound
  have htoken : after.hashes.get component = Config.hash before.file :=
    (Comparison.get_of_compare (hstep index before after hbefore hafter) component).2 huntouched
  rw [htoken]
  cases index with
  | zero =>
      obtain rfl : first start = before := Option.some.inj hbefore
      simp [first]
  | succ previous =>
      have hlength : previous < (generations start files).length := by
        obtain ⟨hbound, -⟩ := List.getElem?_eq_some_iff.mp hbefore
        omega
      have hearlier := List.getElem?_eq_getElem hlength
      obtain ⟨htouched, hkept⟩ :=
        Comparison.get_of_compare (hstep previous _ before hearlier hbefore) component
      simp only [Nat.add_sub_cancel, hearlier, Option.some.injEq, exists_eq_left',
        Nat.add_one_ne_zero, false_or]
      by_cases htouches : Touches component (generations start files)[previous].file before.file
      · simp [htouches, htouched htouches]
      · simp only [htouches, hkept htouches, false_or]
        exact eq_comm

/-- The compactor restarts when only the replication factor changes, because the limit had changed
before. -/
theorem token_kept_iff_replicated :
    ∃ before after, (generations lowLimit [highLimit, replicated])[1]? = some before ∧
      (generations lowLimit [highLimit, replicated])[2]? = some after ∧
      ¬ Touches .compactor before.file after.file ∧
      after.hashes.get .compactor ≠ before.hashes.get .compactor := by
  obtain ⟨first, second, third, hrun, hfirst, hsecond, hthird⟩ := generations_replicated
  have huntouched : ¬ Touches .compactor second.file third.file := by
    rw [hsecond, hthird]
    exact not_touches_compactor.2
  have hkept := token_kept_iff lowLimit [highLimit, replicated] .compactor 1 second third
    (by simp [hrun]) (by simp [hrun]) huntouched
  refine ⟨second, third, by simp [hrun], by simp [hrun], huntouched, ?_⟩
  rw [ne_eq, hkept]
  simp [hrun, hfirst, hsecond, not_touches_compactor.1, lowLimit_hash_ne]

/-- It is not so that a component which reads no changed section always keeps its hash. -/
theorem token_not_always_kept :
    ¬ ∀ (start : ByteArray) (files : List ByteArray),
      (∀ file ∈ start :: files, (Config.ofBytes? file).isSome) →
      ∀ component, (generations start files).IsChain fun before after =>
        ¬ Touches component before.file after.file →
          after.hashes.get component = before.hashes.get component := by
  intro hkept
  have hrun := hkept lowLimit [highLimit, replicated]
    (by simp [lowLimit_config, highLimit_config, replicated_config]) .compactor
  have hsteps := isChain_generations lowLimit [highLimit, replicated]
  obtain ⟨first, second, third, heq, hfirst, hsecond, hthird⟩ := generations_replicated
  rw [heq] at hrun hsteps
  simp only [List.isChain_cons_cons] at hrun hsteps
  have hraised := (Comparison.get_of_compare hsteps.1 .compactor).2
  have hreplicated := (Comparison.get_of_compare hsteps.2.1 .compactor).2
  rw [hfirst, hsecond] at hraised
  rw [hsecond, hthird] at hreplicated
  have hsame := hrun.2.1
  rw [hsecond, hthird, hraised not_touches_compactor.1, hreplicated not_touches_compactor.2]
    at hsame
  exact lowLimit_hash_ne (hsame not_touches_compactor.2).symm

end Generation

end Rollout
