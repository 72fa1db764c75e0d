import Rollout.Proofs.Diff.Cover

/-!
A comparison of two documents of one type reports the same paths in the same order whichever of the
two comes first. The branches that a walk goes through in one order are those that it goes through
in the other, seen from the other side.
-/

namespace Rollout

namespace Tree

/-- A branch seen from the other document. -/
def Branch.swap : Branch → Branch
  | .both segment old new => .both segment new old
  | .removed segment old => .added segment old
  | .added segment new => .removed segment new

/-- Branches report the same from both sides if what both documents have does. -/
theorem flatMap_reports_swap {branches : List Branch}
    (hboth : ∀ segment old new, Branch.both segment old new ∈ branches →
      old.differences new = new.differences old) :
    (branches.map Branch.swap).flatMap Branch.reports = branches.flatMap Branch.reports := by
  rw [List.flatMap_map]
  refine List.flatMap_congr fun branch hmem => ?_
  cases branch with
  | both segment old new =>
      change (new.differences old).map _ = (old.differences new).map _
      rw [hboth segment old new hmem]
  | removed segment old => rfl
  | added segment new => rfl

/-! ### Lists -/

section Items

variable {olds news : List Tree}

theorem branchesOfItems_swap (position : Nat) (olds news : List Tree) :
    branchesOfItems position news olds = (branchesOfItems position olds news).map Branch.swap := by
  induction olds generalizing position news with
  | nil => cases news <;> rfl
  | cons old olds ih =>
      cases news with
      | nil => rfl
      | cons new news =>
          rw [branchesOfItems, branchesOfItems, List.map_cons, ih]
          rfl

theorem differences_comm_list (hlength : olds.length = news.length)
    (hitems : ∀ segment old new, Branch.both segment old new ∈ branchesOfItems 0 olds news →
      old.differences new = new.differences old) :
    differences (.list olds) (.list news) = differences (.list news) (.list olds) := by
  rw [(branches_list hlength).differences, (branches_list hlength.symm).differences,
    branchesOfItems_swap 0 olds news, flatMap_reports_swap hitems]

end Items

/-! ### Records -/

section Members

variable {olds news : List (Member Tree)}

theorem branchesOfMembers_swap (hdecl : declarations olds = declarations news) :
    branchesOfMembers news olds = (branchesOfMembers olds news).map Branch.swap := by
  induction olds generalizing news with
  | nil =>
      cases news with
      | nil => rfl
      | cons new news => simp [declarations] at hdecl
  | cons old olds ih =>
      obtain ⟨name, compared, old⟩ := old
      cases news with
      | nil => simp [declarations] at hdecl
      | cons new news =>
          obtain ⟨other, flag, new⟩ := new
          obtain ⟨⟨rfl, rfl⟩, hrest⟩ := declarations_cons hdecl
          cases compared with
          | false => exact ih hrest
          | true =>
              rw [branchesOfMembers, branchesOfMembers, if_pos rfl, if_pos rfl, List.map_cons,
                ih hrest]
              rfl

/-- A walk through two records goes through their compared members, whether or not these have
distinct names. -/
theorem differences_record_eq_flatMap (olds news : List (Member Tree)) :
    differences (.record olds) (.record news) =
      (branchesOfMembers olds news).flatMap Branch.reports :=
  differences_eq fun w => by rw [walk, walkMembers_eq]

theorem differences_comm_record (hdecl : declarations olds = declarations news)
    (hmembers : ∀ segment old new, Branch.both segment old new ∈ branchesOfMembers olds news →
      old.differences new = new.differences old) :
    differences (.record olds) (.record news) = differences (.record news) (.record olds) := by
  rw [differences_record_eq_flatMap, differences_record_eq_flatMap, branchesOfMembers_swap hdecl,
    flatMap_reports_swap hmembers]

end Members

/-! ### Maps -/

section Entries

open Entries (Ordered find?)

variable {olds news : List (String × Tree)} {branches others : List Branch}

theorem Merged.swap (hmerged : Merged olds news branches) :
    Merged news olds (branches.map Branch.swap) := by
  induction hmerged with
  | nil => exact .nil
  | removed holds hnews _ ih => exact .added hnews holds ih
  | added holds hnews _ ih => exact .removed hnews holds ih
  | both holds hnews _ ih => exact .both hnews holds ih

/-- Two maps are side by side in one way only, since the least key comes first. -/
theorem Merged.unique (hmerged : Merged olds news branches) (hother : Merged olds news others) :
    branches = others := by
  induction hmerged generalizing others with
  | nil =>
      cases hother
      rfl
  | removed _ hnews _ ih =>
      cases hother with
      | removed _ _ hrest => rw [ih hrest]
      | added holds _ _ =>
          have hlt := holds _ List.mem_cons_self
          exact absurd (hnews _ List.mem_cons_self) (String.lt_asymm hlt)
      | both _ _ _ => exact absurd (hnews _ List.mem_cons_self) (String.lt_irrefl _)
  | added holds _ _ ih =>
      cases hother with
      | removed _ hnews _ =>
          have hlt := hnews _ List.mem_cons_self
          exact absurd (holds _ List.mem_cons_self) (String.lt_asymm hlt)
      | added _ _ hrest => rw [ih hrest]
      | both _ _ _ => exact absurd (holds _ List.mem_cons_self) (String.lt_irrefl _)
  | both holds hnews _ ih =>
      cases hother with
      | removed _ hlater _ => exact absurd (hlater _ List.mem_cons_self) (String.lt_irrefl _)
      | added hlater _ _ => exact absurd (hlater _ List.mem_cons_self) (String.lt_irrefl _)
      | both _ _ hrest => rw [ih hrest]

theorem differences_comm_map (holds : Ordered olds) (hnews : Ordered news)
    (hvalues : ∀ key old new, find? key olds = some old → find? key news = some new →
      old.differences new = new.differences old) :
    differences (.map olds) (.map news) = differences (.map news) (.map olds) := by
  obtain ⟨branches, hmerged, hwalk⟩ := walkEntries_merged holds hnews
  obtain ⟨others, hothers, hback⟩ := walkEntries_merged hnews holds
  obtain rfl := hothers.unique hmerged.swap
  have hforth : differences (.map olds) (.map news) = branches.flatMap Branch.reports :=
    differences_eq fun w => by rw [walk, hwalk]
  have hreverse : differences (.map news) (.map olds) =
      (branches.map Branch.swap).flatMap Branch.reports :=
    differences_eq fun w => by rw [walk, hback]
  rw [hforth, hreverse, flatMap_reports_swap]
  intro segment old new hmem
  obtain ⟨hold, hnew⟩ := hmerged.find? _ hmem
  exact hvalues segment old new hold hnew

end Entries

/-! ### Documents of one type -/

theorem same_comm (old new : Leaf) : old.same new = new.same old := by
  cases old <;> cases new <;> simp [Leaf.same, Binary64.same_comm, Bool.beq_comm]

theorem differences_comm_leaf (old new : Leaf) :
    differences (.leaf old) (.leaf new) = differences (.leaf new) (.leaf old) := by
  by_cases hsame : old.same new
  · have hback : new.same old := same_comm old new ▸ hsame
    rw [(differences_leaf_eq_nil old new).mpr hsame, (differences_leaf_eq_nil new old).mpr hback]
  · have hback : ¬ new.same old := same_comm old new ▸ hsame
    rw [differences_leaf_of_not hsame, differences_leaf_of_not hback]

/-- Two documents of one type have the same differences from both sides. -/
theorem HasShape.differences_comm {declared : String → List (Member Shape)} {shape : Shape}
    {old new : Tree} (hold : HasShape declared shape old) (hnew : HasShape declared shape new) :
    old.differences new = new.differences old := by
  refine pair_induction (motive := fun old new => old.differences new = new.differences old)
    ?leaf ?absent ?removed ?added ?present ?lengths ?list ?map ?record hold hnew
  case leaf => exact differences_comm_leaf
  case absent => rfl
  case removed =>
    intro old
    rw [differences_removed, differences_added]
  case added =>
    intro new
    rw [differences_removed, differences_added]
  case present =>
    intro old new hcomm
    rw [differences_present, differences_present, hcomm]
  case lengths =>
    intro olds news hlength
    rw [differences_of_length_ne hlength, differences_of_length_ne (Ne.symm hlength)]
  case list => exact fun olds news => differences_comm_list
  case map => exact fun olds news => differences_comm_map
  case record => exact fun name olds news _ => differences_comm_record

/-- From wherever it starts, a walk through two documents of one type goes the same way and reports
the same paths in the same order whichever of them comes first, and so finds the same sections. -/
theorem walk_comm {declared : String → List (Member Shape)} {shape : Shape} {old new : Tree}
    (hold : HasShape declared shape old) (hnew : HasShape declared shape new) :
    (∀ w, walk old new w = walk new old w) ∧ old.differences new = new.differences old ∧
      old.changedSections new = new.changedSections old := by
  have hcomm := hold.differences_comm hnew
  have hwalk (w : Walk) : walk old new w = walk new old w := by
    rw [walk_eq_append, walk_eq_append, hcomm]
  exact ⟨hwalk, hcomm, congrArg Walk.roots (hwalk {})⟩

/-! The zones of a site by region, and where its backup is. -/

def siteTypes : String → List (Member Shape)
  | "site" => [⟨"note", false, .leaf .text⟩, ⟨"zones", true, .map (.list (.leaf .text))⟩,
      ⟨"backup", true, .optional (.leaf .text)⟩]
  | _ => []

def site (note : String) (zones : List (String × Tree)) (backup : Option Tree) : Tree :=
  .record [⟨"note", false, text note⟩, ⟨"zones", true, .map zones⟩,
    ⟨"backup", true, .optional backup⟩]

/-- Zones change places, a region goes while another one comes, and a backup is added. -/
def zonesBefore : List (String × Tree) :=
  [("east", .list [text "a", text "b"]), ("west", .list [text "c"])]

def zonesAfter : List (String × Tree) := [("east", .list [text "b", text "a"]), ("north", .list [])]

def siteBefore : Tree := site "first" zonesBefore none

def siteAfter : Tree := site "" zonesAfter (some (text "west"))

theorem hasShape_zonesBefore :
    HasShape siteTypes (.map (.list (.leaf .text))) (.map zonesBefore) := by
  have hordered (first second : Tree) : Entries.Ordered [("east", first), ("west", second)] :=
    List.pairwise_pair.mpr (show "east" < "west" by decide)
  simp [zonesBefore, text, leafKind, hordered]

theorem hasShape_zonesAfter :
    HasShape siteTypes (.map (.list (.leaf .text))) (.map zonesAfter) := by
  have hordered (first second : Tree) : Entries.Ordered [("east", first), ("north", second)] :=
    List.pairwise_pair.mpr (show "east" < "north" by decide)
  simp [zonesAfter, text, leafKind, hordered]

theorem hasShape_site (note : String) {zones : List (String × Tree)} {backup : Option Tree}
    (hzones : HasShape siteTypes (.map (.list (.leaf .text))) (.map zones))
    (hbackup : HasShape siteTypes (.optional (.leaf .text)) (.optional backup)) :
    HasShape siteTypes (.record "site") (site note zones backup) := by
  rw [site, hasShape_record]
  refine ⟨rfl, ?_⟩
  simp only [siteTypes, haveShapes_cons, haveShapes_nil, hzones, hbackup]
  simp

theorem hasShape_siteBefore : HasShape siteTypes (.record "site") siteBefore :=
  hasShape_site "first" hasShape_zonesBefore hasShape_absent

theorem hasShape_siteAfter : HasShape siteTypes (.record "site") siteAfter :=
  hasShape_site "" hasShape_zonesAfter (hasShape_present.mpr (hasShape_leaf.mpr rfl))

theorem walk_comm_sites : siteAfter.differences siteBefore = [⟨["zones", "east", "[0]"]⟩,
      ⟨["zones", "east", "[1]"]⟩, ⟨["zones", "north"]⟩, ⟨["zones", "west"]⟩, ⟨["backup"]⟩] ∧
    siteAfter.changedSections siteBefore = ["zones", "backup"] := by
  obtain ⟨-, hdifferences, hsections⟩ := walk_comm hasShape_siteAfter hasShape_siteBefore
  rw [hdifferences, hsections]
  decide +kernel

end Tree

end Rollout
