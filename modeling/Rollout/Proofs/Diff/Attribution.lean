import Rollout.Proofs.Config.Sections
import Rollout.Proofs.Diff.Leaf
import Rollout.Proofs.Diff.Symmetry

/-!
The sections that a comparison names. They are found through the paths of all differences, of which
only the first segments are kept, yet they are what a comparison section by section would name: the
members or keys at the top under which two documents differ, each once and in their order.
-/

namespace Rollout

namespace Tree

/-! ### Repeated names -/

/-- Repeats can be erased before a selection or after it. -/
theorem eraseDups_filter (p : String → Bool) (names : List String) :
    (names.filter p).eraseDups = names.eraseDups.filter p := by
  match names with
  | [] => rfl
  | name :: rest =>
      have hlater := eraseDups_filter p (rest.filter fun other => !other == name)
      rw [List.eraseDups_cons]
      cases hp : p name with
      | true =>
          rw [List.filter_cons_of_pos hp, List.filter_cons_of_pos hp, List.eraseDups_cons,
            List.filter_comm, hlater]
      | false =>
          have hsame : (rest.filter fun other => !other == name).filter p = rest.filter p := by
            rw [List.filter_filter]
            refine List.filter_congr fun other _ => ?_
            by_cases heq : other = name
            · simp [heq, hp]
            · simp [heq]
          have hno : ¬ p name = true := by simp [hp]
          rw [List.filter_cons_of_neg hno, List.filter_cons_of_neg hno, ← hlater, hsame]
termination_by names.length
decreasing_by exact Nat.lt_succ_of_le (List.length_filter_le _ _)

theorem eraseDups_of_nodup {names : List String} (hnodup : names.Nodup) :
    names.eraseDups = names := by
  induction names with
  | nil => rfl
  | cons name rest ih =>
      obtain ⟨hfresh, hrest⟩ := List.nodup_cons.mp hnodup
      have hkept : rest.filter (fun other => !other == name) = rest := by
        refine List.filter_eq_self.mpr fun other hother => ?_
        simpa using fun heq : other = name => hfresh (heq ▸ hother)
      rw [List.eraseDups_cons, hkept, ih hrest]

/-- Names that are repeated in a row stand for one occurrence, and those repeated zero times for
none. -/
theorem eraseDups_flatMap_replicate {α : Type} (items : List α) (count : α → Nat)
    (name : α → String) :
    (items.flatMap fun item => List.replicate (count item) (name item)).eraseDups =
      ((items.filter fun item => count item ≠ 0).map name).eraseDups := by
  induction items with
  | nil => rfl
  | cons item rest ih =>
      rw [List.flatMap_cons]
      cases hcount : count item with
      | zero =>
          rw [List.filter_cons_of_neg (by simp [hcount]), ← ih]
          rfl
      | succ more =>
          have hrepeats : (List.replicate more (name item)).filter
              (fun other => !other == name item) = [] :=
            List.filter_eq_nil_iff.mpr (by simp [List.mem_replicate])
          rw [List.filter_cons_of_pos (by simp [hcount]), List.map_cons, List.eraseDups_cons,
            List.replicate_succ, List.cons_append, List.eraseDups_cons, List.filter_append,
            hrepeats, List.nil_append, eraseDups_filter, eraseDups_filter, ih]

/-! ### Sections by branches -/

/-- Every report of a branch begins with its segment. -/
theorem filterMap_root_reports (branch : Branch) :
    branch.reports.filterMap FieldPath.root? =
      List.replicate branch.reports.length branch.segment := by
  cases branch with
  | both segment old new =>
      rw [Branch.reports, filterMap_root_below, List.length_map]
      rfl
  | removed segment old => rfl
  | added segment new => rfl

/-- The sections are the branches that report something, however much they report. -/
theorem changedSections_eq_branches {old new : Tree} {branches : List Branch}
    (hdifferences : old.differences new = branches.flatMap Branch.reports) :
    old.changedSections new =
      ((branches.filter fun branch => branch.reports.length ≠ 0).map Branch.segment).eraseDups := by
  change ((old.differences new).filterMap FieldPath.root?).eraseDups = _
  rw [hdifferences, List.filterMap_flatMap, ← eraseDups_flatMap_replicate]
  simp only [filterMap_root_reports]

/-! ### Documents that agree -/

/-- Branches report nothing exactly if they agree, when this holds of what both documents have. -/
theorem flatMap_reports_eq_nil_iff {branches : List Branch}
    (hboth : ∀ segment old new, Branch.both segment old new ∈ branches →
      (old.differences new = [] ↔ Agree old new)) :
    branches.flatMap Branch.reports = [] ↔ ∀ branch ∈ branches, branch.Agree := by
  rw [List.flatMap_eq_nil_iff]
  refine forall₂_congr fun branch hmem => ?_
  cases branch with
  | both segment old new =>
      rw [Branch.reports, List.map_eq_nil_iff]
      exact hboth segment old new hmem
  | removed segment old => exact iff_of_false (List.cons_ne_nil _ _) id
  | added segment new => exact iff_of_false (List.cons_ne_nil _ _) id

/-- A comparison of two documents of one type finds nothing exactly if they agree. -/
theorem HasShape.differences_eq_nil_iff {declared : String → List (Member Shape)} {shape : Shape}
    {old new : Tree} (hold : HasShape declared shape old) (hnew : HasShape declared shape new) :
    old.differences new = [] ↔ Agree old new := by
  refine pair_induction (motive := fun old new => old.differences new = [] ↔ Agree old new)
    ?leaf ?absent ?removed ?added ?present ?lengths ?list ?map ?record hold hnew
  case leaf =>
    intro old new
    rw [differences_leaf_eq_nil, Agree]
  case absent => simp [Agree]
  case removed => simp [Agree]
  case added => simp [Agree]
  case present =>
    intro old new hinner
    rw [differences_present, hinner, Agree]
  case lengths =>
    intro olds news hlength
    rw [differences_of_length_ne hlength, Agree]
    exact iff_of_false (List.cons_ne_nil _ _) fun hagree =>
      hlength (length_eq_of_agreeItems hagree)
  case list =>
    intro olds news hlength hitems
    rw [(branches_list hlength).differences, (branches_list hlength).agree]
    exact flatMap_reports_eq_nil_iff hitems
  case map =>
    intro olds news hordered hothers hvalues
    obtain ⟨branches, hbranches⟩ := exists_branches_map hordered hothers
    rw [hbranches.differences, hbranches.agree]
    refine flatMap_reports_eq_nil_iff fun segment first second hmem => ?_
    obtain ⟨hfirst, hsecond⟩ := hbranches.children _ hmem
    exact hvalues segment first second hfirst hsecond
  case record =>
    intro name olds news _ hdecl hmembers
    rw [differences_record_eq_flatMap, Agree, agreeMembers_iff hdecl]
    exact flatMap_reports_eq_nil_iff hmembers

mutual

def decideAgree : (old new : Tree) → Decidable (Agree old new)
  | .leaf old, .leaf new => decidable_of_iff (old.same new = true) (by rw [Agree])
  | .optional none, .optional none => isTrue (by simp [Agree])
  | .optional (some old), .optional (some new) =>
    have := decideAgree old new
    decidable_of_iff (Agree old new) (by rw [Agree])
  | .list olds, .list news =>
    have := decideAgreeItems olds news
    decidable_of_iff (AgreeItems olds news) (by rw [Agree])
  | .map olds, .map news =>
    have := decideAgreeEntries olds news
    decidable_of_iff (AgreeEntries olds news) (by rw [Agree])
  | .record olds, .record news =>
    have := decideAgreeMembers olds news
    decidable_of_iff (AgreeMembers olds news) (by rw [Agree])
  | .optional none, .optional (some _) | .optional (some _), .optional none
  | .leaf _, .optional _ | .leaf _, .list _ | .leaf _, .map _ | .leaf _, .record _
  | .optional _, .leaf _ | .optional _, .list _ | .optional _, .map _ | .optional _, .record _
  | .list _, .leaf _ | .list _, .optional _ | .list _, .map _ | .list _, .record _
  | .map _, .leaf _ | .map _, .optional _ | .map _, .list _ | .map _, .record _
  | .record _, .leaf _ | .record _, .optional _ | .record _, .list _ | .record _, .map _ =>
    isFalse (by simp [Agree])

def decideAgreeItems : (olds news : List Tree) → Decidable (AgreeItems olds news)
  | [], [] => isTrue (by simp [AgreeItems])
  | old :: olds, new :: news =>
    have := decideAgree old new
    have := decideAgreeItems olds news
    decidable_of_iff (Agree old new ∧ AgreeItems olds news) (by rw [AgreeItems])
  | [], _ :: _ | _ :: _, [] => isFalse (by simp [AgreeItems])

def decideAgreeEntries : (olds news : List (String × Tree)) → Decidable (AgreeEntries olds news)
  | [], [] => isTrue (by simp [AgreeEntries])
  | (key, old) :: olds, (other, new) :: news =>
    have := decideAgree old new
    have := decideAgreeEntries olds news
    decidable_of_iff (key = other ∧ Agree old new ∧ AgreeEntries olds news) (by rw [AgreeEntries])
  | [], _ :: _ | _ :: _, [] => isFalse (by simp [AgreeEntries])

def decideAgreeMembers : (olds news : List (Member Tree)) → Decidable (AgreeMembers olds news)
  | [], [] => isTrue (by simp [AgreeMembers])
  | ⟨name, compared, old⟩ :: olds, new :: news =>
    have := decideAgree old new.value
    have := decideAgreeMembers olds news
    decidable_of_iff ((name = new.name ∧ compared = new.compared) ∧
      (compared → Agree old new.value) ∧ AgreeMembers olds news) (by rw [AgreeMembers])
  | [], _ :: _ | _ :: _, [] => isFalse (by simp [AgreeMembers])

end

instance (old new : Tree) : Decidable (Agree old new) := decideAgree old new

/-! ### Sections that differ -/

/-- The names of the compared members of two records whose values differ, in the order of
declaration. -/
def differingNames (olds news : List (Member Tree)) : List String :=
  ((olds.zip news).filter fun pair =>
    pair.1.compared && decide ¬ Agree pair.1.value pair.2.value).map fun pair => pair.1.name

theorem differingNames_sublist (olds news : List (Member Tree)) :
    (differingNames olds news).Sublist (comparedNames olds) := by
  induction olds generalizing news with
  | nil => exact List.Sublist.refl _
  | cons old olds ih =>
      cases news with
      | nil => exact List.nil_sublist _
      | cons new news =>
          have hrest := ih news
          unfold differingNames comparedNames at hrest ⊢
          rw [List.zip_cons_cons]
          cases hcompared : old.compared with
          | false =>
              rw [List.filter_cons_of_neg (by simp [hcompared]),
                List.filter_cons_of_neg (by simp [hcompared])]
              exact hrest
          | true =>
              rw [List.filter_cons_of_pos hcompared, List.map_cons]
              by_cases hagree : Agree old.value new.value
              · rw [List.filter_cons_of_neg (by simp [hagree])]
                exact hrest.cons _
              · rw [List.filter_cons_of_pos (by simp [hcompared, hagree]), List.map_cons]
                exact hrest.cons_cons _

/-- The members that report something are those that differ. -/
theorem segments_reporting_members {olds news : List (Member Tree)}
    (hboth : ∀ segment old new, Branch.both segment old new ∈ branchesOfMembers olds news →
      (old.differences new = [] ↔ Agree old new)) :
    ((branchesOfMembers olds news).filter fun branch => branch.reports.length ≠ 0).map
      Branch.segment = differingNames olds news := by
  induction olds generalizing news with
  | nil => rfl
  | cons old olds ih =>
      obtain ⟨name, compared, old⟩ := old
      cases news with
      | nil => rfl
      | cons new news =>
          unfold differingNames at ih ⊢
          rw [List.zip_cons_cons]
          cases compared with
          | false =>
              rw [branchesOfMembers, if_neg (by decide)] at hboth ⊢
              rw [List.filter_cons_of_neg (by simp), ih hboth]
          | true =>
              rw [branchesOfMembers, if_pos rfl] at hboth ⊢
              have hhere := hboth name old new.value List.mem_cons_self
              have hrest := ih fun segment first second hmem =>
                hboth segment first second (List.mem_cons_of_mem _ hmem)
              by_cases hagree : Agree old new.value
              · rw [List.filter_cons_of_neg (by simp [Branch.reports, hhere, hagree]),
                  List.filter_cons_of_neg (by simp [hagree]), hrest]
              · rw [List.filter_cons_of_pos (by simp [Branch.reports, hhere, hagree]),
                  List.filter_cons_of_pos (by simp [hagree]), List.map_cons, List.map_cons, hrest]
                rfl

section Typed

variable {declared : String → List (Member Shape)}

/-- The sections of two records are the members that differ. -/
theorem HasShape.changedSections_record_eq {name : String} {olds news : List (Member Tree)}
    (hold : HasShape declared (.record name) (.record olds))
    (hnew : HasShape declared (.record name) (.record news)) :
    changedSections (.record olds) (.record news) = (differingNames olds news).eraseDups := by
  rw [changedSections_eq_branches (differences_record_eq_flatMap olds news),
    segments_reporting_members]
  intro segment first second hmem
  obtain ⟨field, -, hfirst, hsecond⟩ := hold.exists_field hnew hmem
  exact hfirst.differences_eq_nil_iff hsecond

/-- A branch reports something exactly if the documents differ at its segment. -/
theorem reports_ne_nil_iff {old new : Tree} {branches : List Branch}
    (hbranches : Branches old new branches) {branch : Branch} (hmem : branch ∈ branches)
    (hboth : ∀ segment first second, branch = .both segment first second →
      (first.differences second = [] ↔ Agree first second)) :
    branch.reports.length ≠ 0 ↔ ¬ AgreeAt old new [branch.segment] := by
  obtain ⟨hold, hnew⟩ := hbranches.children branch hmem
  cases branch with
  | both segment first second =>
      have hagree : AgreeAt old new [segment] ↔ Agree first second :=
        (agreeAt_cons hold hnew []).trans (agreeAt_root first second)
      have hreports := hboth segment first second rfl
      simp [Branch.reports, Branch.segment, hagree, hreports]
  | removed segment first => exact iff_of_true Nat.one_ne_zero (not_agreeAt_removed hold hnew)
  | added segment second => exact iff_of_true Nat.one_ne_zero (not_agreeAt_added hold hnew)

/-- The sections of two maps are the keys under which they differ, in ascending order. -/
theorem HasShape.changedSections_map {value : Shape} {olds news : List (String × Tree)}
    (hold : HasShape declared (.map value) (.map olds))
    (hnew : HasShape declared (.map value) (.map news)) :
    (changedSections (.map olds) (.map news)).Pairwise (· < ·) ∧
      ∀ key, key ∈ changedSections (.map olds) (.map news) ↔
        ¬ AgreeAt (.map olds) (.map news) [key] := by
  obtain ⟨holds, holdValues⟩ := hasShape_map.mp hold
  obtain ⟨hnews, hnewValues⟩ := hasShape_map.mp hnew
  obtain ⟨branches, hbranches⟩ := exists_branches_map holds hnews
  have hreports : ∀ branch ∈ branches,
      (branch.reports.length ≠ 0 ↔ ¬ AgreeAt (.map olds) (.map news) [branch.segment]) := by
    intro branch hmem
    refine reports_ne_nil_iff hbranches hmem ?_
    rintro segment first second rfl
    obtain ⟨hfirst, hsecond⟩ := hbranches.children _ hmem
    exact (holdValues _ (Entries.mem_of_find? hfirst)).differences_eq_nil_iff
      (hnewValues _ (Entries.mem_of_find? hsecond))
  have hordered : ((branches.filter fun branch => branch.reports.length ≠ 0).map
      Branch.segment).Pairwise (· < ·) :=
    List.pairwise_map.mpr ((hbranches.ordered.filter _).imp And.right)
  have hnodup : ((branches.filter fun branch => branch.reports.length ≠ 0).map
      Branch.segment).Nodup := by
    refine hordered.imp ?_
    rintro first _ hlt rfl
    exact String.lt_irrefl first hlt
  rw [changedSections_eq_branches hbranches.differences, eraseDups_of_nodup hnodup]
  refine ⟨hordered, fun key => ?_⟩
  rw [List.mem_map]
  constructor
  · rintro ⟨branch, hmem, rfl⟩
    obtain ⟨hbranch, hsome⟩ := List.mem_filter.mp hmem
    exact (hreports branch hbranch).mp (of_decide_eq_true hsome)
  · intro hdiffer
    by_cases hkey : key ∈ branches.map Branch.segment
    · obtain ⟨branch, hbranch, rfl⟩ := List.mem_map.mp hkey
      exact ⟨branch, List.mem_filter.mpr ⟨hbranch, decide_eq_true ((hreports branch hbranch).mpr
        hdiffer)⟩, rfl⟩
    · obtain ⟨hfirst, hsecond⟩ := hbranches.exhaustive key hkey
      exact absurd (agreeAt_of_none hfirst hsecond []) hdiffer

end Typed

/-- The sections that a comparison finds are those under which two documents differ. Of two records
these are the compared members whose values differ, each name once and in the order of declaration;
of two maps the keys under which one side lacks a value or the values differ, each once and in
ascending order. A configuration has none exactly if it is equal. -/
theorem changedSections_attribution :
    (∀ (declared : String → List (Member Shape)) (name : String) (olds news : List (Member Tree)),
      HasShape declared (.record name) (.record olds) →
      HasShape declared (.record name) (.record news) →
        changedSections (.record olds) (.record news) = (differingNames olds news).eraseDups ∧
        ((comparedNames olds).Nodup →
          changedSections (.record olds) (.record news) = differingNames olds news)) ∧
    (∀ (declared : String → List (Member Shape)) (value : Shape)
      (olds news : List (String × Tree)),
      HasShape declared (.map value) (.map olds) → HasShape declared (.map value) (.map news) →
        (changedSections (.map olds) (.map news)).Pairwise (· < ·) ∧
        ∀ key, key ∈ changedSections (.map olds) (.map news) ↔
          ¬ AgreeAt (.map olds) (.map news) [key]) ∧
    ∀ old new : Config, old.changedSections new = [] ↔ old = new := by
  refine ⟨fun declared name olds news hold hnew => ?_,
    fun declared value olds news hold hnew => hold.changedSections_map hnew, fun old new => ?_⟩
  · have hsections := hold.changedSections_record_eq hnew
    refine ⟨hsections, fun hdistinct => ?_⟩
    have hnodup := (differingNames_sublist olds news).nodup hdistinct
    rw [hsections, eraseDups_of_nodup hnodup]
  · rw [Config.changedSections_eq, List.map_eq_nil_iff, List.filter_eq_nil_iff,
      Config.eq_iff_unchanged]
    simp [Config.Section.mem_all]

theorem changedSections_attribution_sites :
    siteBefore.changedSections siteAfter = ["zones", "backup"] ∧
      (∀ key, key ∈ changedSections (.map zonesBefore) (.map zonesAfter) ↔
        ¬ AgreeAt (.map zonesBefore) (.map zonesAfter) [key]) ∧
      "north" ∈ changedSections (.map zonesBefore) (.map zonesAfter) ∧
      Config.changedSections {} { limits := { maxLineSize := 1 } } ≠ [] := by
  obtain ⟨hrecords, hmaps, hconfigs⟩ := changedSections_attribution
  obtain ⟨hsections, -⟩ := hrecords siteTypes "site" _ _ hasShape_siteBefore hasShape_siteAfter
  obtain ⟨-, hkeys⟩ := hmaps siteTypes _ _ _ hasShape_zonesBefore hasShape_zonesAfter
  have hdiffering : (differingNames [⟨"note", false, text "first"⟩,
      ⟨"zones", true, .map zonesBefore⟩, ⟨"backup", true, .optional none⟩]
      [⟨"note", false, text ""⟩, ⟨"zones", true, .map zonesAfter⟩,
        ⟨"backup", true, .optional (some (text "west"))⟩]).eraseDups = ["zones", "backup"] := by
    decide +kernel
  have hnone : child? "north" (.map zonesBefore) = none := by decide
  have hsome : child? "north" (.map zonesAfter) = some (.list []) := rfl
  have hnorth : ¬ AgreeAt (.map zonesBefore) (.map zonesAfter) ["north"] :=
    not_agreeAt_added hnone hsome
  refine ⟨hsections.trans hdiffering, hkeys, (hkeys "north").mpr hnorth, fun hnone => ?_⟩
  have hequal := (hconfigs _ _).mp hnone
  revert hequal
  decide

end Tree

end Rollout
