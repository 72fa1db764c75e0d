import Mathlib.Data.List.Nodup
import Mathlib.Data.List.TakeDrop
import Mathlib.Data.List.TakeWhile
import Rollout.Proofs.Diff.Location
import Rollout.Proofs.Diff.Walk
import Rollout.Proofs.Entries

/-!
The parts of two documents side by side. Below two records, two maps or two lists of one length, a
walk goes through branches, each of a segment and the values that one or both of the documents have
there. What the walk reports is what the branches report, one after the other.
-/

namespace Rollout

namespace Tree

/-- A segment below two documents with the values that they have there. -/
inductive Branch where
  | both (segment : String) (old new : Tree)
  | removed (segment : String) (old : Tree)
  | added (segment : String) (new : Tree)

namespace Branch

def segment : Branch → String
  | .both segment _ _ => segment
  | .removed segment _ => segment
  | .added segment _ => segment

def old? : Branch → Option Tree
  | .both _ old _ => some old
  | .removed _ old => some old
  | .added _ _ => none

def new? : Branch → Option Tree
  | .both _ _ new => some new
  | .removed _ _ => none
  | .added _ new => some new

/-- What a walk reports of a branch. -/
def reports : Branch → List FieldPath
  | .both segment old new => (old.differences new).map (FieldPath.below ⟨[segment]⟩)
  | .removed segment _ => [⟨[segment]⟩]
  | .added segment _ => [⟨[segment]⟩]

def Agree : Branch → Prop
  | .both _ old new => Tree.Agree old new
  | .removed _ _ => False
  | .added _ _ => False

end Branch

/-- The branches below two documents, in the order of a walk. -/
structure Branches (old new : Tree) (branches : List Branch) : Prop where
  differences : old.differences new = branches.flatMap Branch.reports
  agree : Agree old new ↔ ∀ branch ∈ branches, branch.Agree
  head : SameHead old new
  children : ∀ branch ∈ branches,
    old.child? branch.segment = branch.old? ∧ new.child? branch.segment = branch.new?
  exhaustive : ∀ segment, segment ∉ branches.map Branch.segment →
    old.child? segment = none ∧ new.child? segment = none
  ordered : branches.Pairwise fun first second =>
    first.segment ≠ second.segment ∧ old.Earlier first.segment second.segment

/-- A walk that adds the reports of branches finds these. -/
theorem differences_eq {old new : Tree} {branches : List Branch}
    (hwalk : ∀ w, walk old new w = w.append (branches.flatMap Branch.reports)) :
    old.differences new = branches.flatMap Branch.reports := by
  rw [differences, hwalk]
  simp [Walk.append]

theorem append_both (w : Walk) (segment : String) (old new : Tree) :
    (walk old new (w.push segment)).pop = w.append (Branch.both segment old new).reports := by
  rw [walk_eq_append, Walk.pop_append_push]
  rfl

/-! ### Lists -/

def branchesOfItems : Nat → List Tree → List Tree → List Branch
  | position, old :: olds, new :: news =>
    .both (FieldPath.index position) old new :: branchesOfItems (position + 1) olds news
  | _, _, _ => []

section Items

variable {olds news : List Tree} {position : Nat}

theorem walkItems_eq (position : Nat) (olds news : List Tree) (w : Walk) :
    walkItems position olds news w =
      w.append ((branchesOfItems position olds news).flatMap Branch.reports) := by
  induction olds generalizing position news w with
  | nil => simp [walkItems, branchesOfItems]
  | cons old olds ih =>
      cases news with
      | nil => simp [walkItems, branchesOfItems]
      | cons new news =>
          rw [walkItems, append_both, ih, Walk.append_append, branchesOfItems, List.flatMap_cons]

theorem length_eq_of_agreeItems (hagree : AgreeItems olds news) : olds.length = news.length := by
  induction olds generalizing news with
  | nil =>
      cases news with
      | nil => rfl
      | cons new news => simp [AgreeItems] at hagree
  | cons old olds ih =>
      cases news with
      | nil => simp [AgreeItems] at hagree
      | cons new news =>
          rw [AgreeItems] at hagree
          exact congrArg (· + 1) (ih hagree.2)

theorem agreeItems_iff (hlength : olds.length = news.length) (position : Nat) :
    AgreeItems olds news ↔ ∀ branch ∈ branchesOfItems position olds news, branch.Agree := by
  induction olds generalizing position news with
  | nil =>
      obtain rfl := List.eq_nil_of_length_eq_zero hlength.symm
      simp [AgreeItems, branchesOfItems]
  | cons old olds ih =>
      cases news with
      | nil => cases hlength
      | cons new news =>
          rw [AgreeItems, branchesOfItems, List.forall_mem_cons, ih (Nat.succ.inj hlength)]
          rfl

/-- A branch of two lists stands at a position, with items of the lists. -/
theorem mem_branchesOfItems {branch : Branch} (hmem : branch ∈ branchesOfItems position olds news) :
    ∃ i old new, position ≤ i ∧ old ∈ olds ∧ new ∈ news ∧
      branch = .both (FieldPath.index i) old new := by
  induction olds generalizing position news with
  | nil => simp [branchesOfItems] at hmem
  | cons old olds ih =>
      cases news with
      | nil => simp [branchesOfItems] at hmem
      | cons new news =>
          rw [branchesOfItems] at hmem
          rcases List.mem_cons.mp hmem with rfl | hrest
          · exact ⟨position, old, new, Nat.le_refl _, List.mem_cons_self, List.mem_cons_self, rfl⟩
          · obtain ⟨i, inner, other, hi, hold, hnew, rfl⟩ := ih hrest
            exact ⟨i, inner, other, Nat.le_of_succ_le hi, List.mem_cons_of_mem _ hold,
              List.mem_cons_of_mem _ hnew, rfl⟩

theorem itemAt?_of_ne {segment : String} {item : Tree} {rest : List Tree}
    (hne : FieldPath.index position ≠ segment) :
    itemAt? segment position (item :: rest) = itemAt? segment (position + 1) rest :=
  if_neg hne

theorem itemAt?_of_mem {branch : Branch} (hmem : branch ∈ branchesOfItems position olds news) :
    itemAt? branch.segment position olds = branch.old? ∧
      itemAt? branch.segment position news = branch.new? := by
  induction olds generalizing position news with
  | nil => simp [branchesOfItems] at hmem
  | cons old olds ih =>
      cases news with
      | nil => simp [branchesOfItems] at hmem
      | cons new news =>
          rw [branchesOfItems] at hmem
          rcases List.mem_cons.mp hmem with rfl | hrest
          · exact ⟨if_pos rfl, if_pos rfl⟩
          · have hne : FieldPath.index position ≠ branch.segment := by
              obtain ⟨i, _, _, hi, -, -, rfl⟩ := mem_branchesOfItems hrest
              intro heq
              have hposition := FieldPath.index_inj heq
              omega
            rw [itemAt?_of_ne hne, itemAt?_of_ne hne]
            exact ih hrest

theorem itemAt?_eq_none (hlength : olds.length = news.length) {segment : String}
    (hfresh : segment ∉ (branchesOfItems position olds news).map Branch.segment) :
    itemAt? segment position olds = none ∧ itemAt? segment position news = none := by
  induction olds generalizing position news with
  | nil =>
      obtain rfl := List.eq_nil_of_length_eq_zero hlength.symm
      exact ⟨rfl, rfl⟩
  | cons old olds ih =>
      cases news with
      | nil => cases hlength
      | cons new news =>
          rw [branchesOfItems, List.map_cons, List.mem_cons, not_or] at hfresh
          have hne : FieldPath.index position ≠ segment := fun heq => hfresh.1 heq.symm
          rw [itemAt?_of_ne hne, itemAt?_of_ne hne]
          exact ih (Nat.succ.inj hlength) hfresh.2

theorem branchesOfItems_ordered (position : Nat) (olds news : List Tree) :
    (branchesOfItems position olds news).Pairwise fun first second =>
      ∃ i j, i < j ∧ first.segment = FieldPath.index i ∧ second.segment = FieldPath.index j := by
  induction olds generalizing position news with
  | nil => simp [branchesOfItems]
  | cons old olds ih =>
      cases news with
      | nil => simp [branchesOfItems]
      | cons new news =>
          rw [branchesOfItems]
          refine List.pairwise_cons.mpr ⟨?_, ih (position + 1) news⟩
          intro branch hmem
          obtain ⟨i, _, _, hi, -, -, rfl⟩ := mem_branchesOfItems hmem
          exact ⟨position, i, hi, rfl, rfl⟩

theorem branches_list (hlength : olds.length = news.length) :
    Branches (.list olds) (.list news) (branchesOfItems 0 olds news) where
  differences := differences_eq fun w => by rw [walk, if_pos hlength, walkItems_eq]
  agree := by
    rw [Agree]
    exact agreeItems_iff hlength 0
  head := hlength
  children := fun branch hmem => itemAt?_of_mem hmem
  exhaustive := fun segment hfresh => itemAt?_eq_none hlength hfresh
  ordered := by
    refine (branchesOfItems_ordered 0 olds news).imp ?_
    rintro first second ⟨i, j, hlt, hfirst, hsecond⟩
    refine ⟨?_, i, j, hlt, hfirst, hsecond⟩
    rw [hfirst, hsecond]
    exact fun heq => Nat.ne_of_lt hlt (FieldPath.index_inj heq)

end Items

/-! ### Records -/

def branchesOfMembers : List (Member Tree) → List (Member Tree) → List Branch
  | ⟨name, compared, old⟩ :: olds, new :: news =>
    if compared then .both name old new.value :: branchesOfMembers olds news
    else branchesOfMembers olds news
  | _, _ => []

/-- The declaration of a record without the types of its members: their names, and which of them
are compared. -/
def declarations {α : Type} (members : List (Member α)) : List (String × Bool) :=
  members.map fun member => (member.name, member.compared)

theorem comparedNames_eq {α : Type} (members : List (Member α)) :
    comparedNames members = ((declarations members).filter Prod.snd).map Prod.fst := by
  rw [comparedNames, declarations, List.filter_map, List.map_map]
  rfl

theorem comparedNames_congr {α β : Type} {olds : List (Member α)} {news : List (Member β)}
    (hdecl : declarations olds = declarations news) : comparedNames olds = comparedNames news := by
  rw [comparedNames_eq, comparedNames_eq, hdecl]

section Members

variable {olds news : List (Member Tree)}

theorem walkMembers_eq (olds news : List (Member Tree)) (w : Walk) :
    walkMembers olds news w = w.append ((branchesOfMembers olds news).flatMap Branch.reports) := by
  induction olds generalizing news w with
  | nil => simp [walkMembers, branchesOfMembers]
  | cons old olds ih =>
      obtain ⟨name, compared, old⟩ := old
      cases news with
      | nil => simp [walkMembers, branchesOfMembers]
      | cons new news =>
          cases compared with
          | false =>
              rw [walkMembers, branchesOfMembers, if_neg (by decide), if_neg (by decide), ih]
          | true =>
              rw [walkMembers, branchesOfMembers, if_pos rfl, if_pos rfl, append_both, ih,
                Walk.append_append, List.flatMap_cons]

/-- Two records of one type, member by member. -/
theorem declarations_cons {old new : Member Tree}
    (hdecl : declarations (old :: olds) = declarations (new :: news)) :
    (old.name = new.name ∧ old.compared = new.compared) ∧
      declarations olds = declarations news := by
  simpa [declarations] using hdecl

/-- The branches below two records of one type are its compared members. -/
theorem segments_branchesOfMembers (hdecl : declarations olds = declarations news) :
    (branchesOfMembers olds news).map Branch.segment = comparedNames olds := by
  induction olds generalizing news with
  | nil => rfl
  | cons old olds ih =>
      obtain ⟨name, compared, old⟩ := old
      cases news with
      | nil => simp [declarations] at hdecl
      | cons new news =>
          have htail := ih (declarations_cons hdecl).2
          cases compared with
          | false => exact htail
          | true => exact congrArg (List.cons name) htail

theorem agreeMembers_iff (hdecl : declarations olds = declarations news) :
    AgreeMembers olds news ↔ ∀ branch ∈ branchesOfMembers olds news, branch.Agree := by
  induction olds generalizing news with
  | nil =>
      cases news with
      | nil => simp [AgreeMembers, branchesOfMembers]
      | cons new news => simp [declarations] at hdecl
  | cons old olds ih =>
      obtain ⟨name, compared, old⟩ := old
      cases news with
      | nil => simp [declarations] at hdecl
      | cons new news =>
          obtain ⟨hmember, hrest⟩ := declarations_cons hdecl
          rw [AgreeMembers, ih hrest, branchesOfMembers, and_iff_right hmember]
          cases compared with
          | false => simp
          | true => simp [Branch.Agree]

theorem memberAt?_of_ne {segment name : String} {compared : Bool} {value : Tree}
    {rest : List (Member Tree)} (hne : ¬ (compared = true ∧ name = segment)) :
    memberAt? segment (⟨name, compared, value⟩ :: rest) = memberAt? segment rest :=
  if_neg hne

theorem memberAt?_eq_none {segment : String} {members : List (Member Tree)}
    (hfresh : segment ∉ comparedNames members) : memberAt? segment members = none := by
  induction members with
  | nil => rfl
  | cons member rest ih =>
      obtain ⟨name, compared, value⟩ := member
      cases compared with
      | false => exact ih hfresh
      | true =>
          obtain ⟨hne, hrest⟩ := not_or.mp fun hmem => hfresh (List.mem_cons.mpr hmem)
          rw [memberAt?_of_ne fun hsame => hne hsame.2.symm]
          exact ih hrest

theorem memberAt?_of_mem (hdecl : declarations olds = declarations news)
    (hnodup : (comparedNames olds).Nodup) {branch : Branch}
    (hmem : branch ∈ branchesOfMembers olds news) :
    memberAt? branch.segment olds = branch.old? ∧ memberAt? branch.segment news = branch.new? := by
  induction olds generalizing news with
  | nil => cases hmem
  | cons old olds ih =>
      obtain ⟨name, compared, old⟩ := old
      cases news with
      | nil => cases hmem
      | cons new news =>
          obtain ⟨other, flag, new⟩ := new
          obtain ⟨⟨rfl, rfl⟩, hrest⟩ := declarations_cons hdecl
          cases compared with
          | false =>
              rw [memberAt?_of_ne (by simp), memberAt?_of_ne (by simp)]
              exact ih hrest hnodup hmem
          | true =>
              obtain ⟨hfresh, hnodup⟩ := List.nodup_cons.mp hnodup
              rcases List.mem_cons.mp hmem with rfl | hlater
              · exact ⟨if_pos ⟨rfl, rfl⟩, if_pos ⟨rfl, rfl⟩⟩
              · have hsegment : branch.segment ∈ comparedNames olds := by
                  rw [← segments_branchesOfMembers hrest]
                  exact List.mem_map_of_mem hlater
                have hne : ¬ (true = true ∧ name = branch.segment) := by
                  rintro ⟨-, rfl⟩
                  exact hfresh hsegment
                rw [memberAt?_of_ne hne, memberAt?_of_ne hne]
                exact ih hrest hnodup hlater

theorem branches_record (hdecl : declarations olds = declarations news)
    (hnodup : (comparedNames olds).Nodup) :
    Branches (.record olds) (.record news) (branchesOfMembers olds news) where
  differences := differences_eq fun w => by rw [walk, walkMembers_eq]
  agree := by
    rw [Agree]
    exact agreeMembers_iff hdecl
  head := trivial
  children := fun branch hmem => memberAt?_of_mem hdecl hnodup hmem
  exhaustive := by
    intro segment hfresh
    rw [segments_branchesOfMembers hdecl] at hfresh
    exact ⟨memberAt?_eq_none hfresh, memberAt?_eq_none (comparedNames_congr hdecl ▸ hfresh)⟩
  ordered := by
    have hsegments : (comparedNames olds).Pairwise fun first second =>
        first ≠ second ∧ [first, second].Sublist (comparedNames olds) :=
      hnodup.and (List.pairwise_iff_forall_sublist.mpr fun hsublist => hsublist)
    rw [← segments_branchesOfMembers hdecl, List.pairwise_map] at hsegments
    rw [segments_branchesOfMembers hdecl] at hsegments
    exact hsegments

end Members

/-! ### Maps -/

/-- Two maps side by side, the least key first. -/
inductive Merged : List (String × Tree) → List (String × Tree) → List Branch → Prop
  | nil : Merged [] [] []
  | removed {key : String} {old : Tree} {olds news : List (String × Tree)}
      {branches : List Branch} :
      (∀ entry ∈ olds, key < entry.1) → (∀ entry ∈ news, key < entry.1) →
      Merged olds news branches → Merged ((key, old) :: olds) news (.removed key old :: branches)
  | added {key : String} {new : Tree} {olds news : List (String × Tree)}
      {branches : List Branch} :
      (∀ entry ∈ olds, key < entry.1) → (∀ entry ∈ news, key < entry.1) →
      Merged olds news branches → Merged olds ((key, new) :: news) (.added key new :: branches)
  | both {key : String} {old new : Tree} {olds news : List (String × Tree)}
      {branches : List Branch} :
      (∀ entry ∈ olds, key < entry.1) → (∀ entry ∈ news, key < entry.1) →
      Merged olds news branches →
      Merged ((key, old) :: olds) ((key, new) :: news) (.both key old new :: branches)

section Entries

open Entries (find? Ordered)

variable {olds news : List (String × Tree)} {branches : List Branch}

/-- Every branch stands for a key of one of the maps. -/
theorem Merged.mem_keys (hmerged : Merged olds news branches) {branch : Branch}
    (hmem : branch ∈ branches) :
    (∃ entry ∈ olds, entry.1 = branch.segment) ∨ ∃ entry ∈ news, entry.1 = branch.segment := by
  induction hmerged with
  | nil => cases hmem
  | removed _ _ _ ih =>
      rcases List.mem_cons.mp hmem with rfl | hlater
      · exact .inl ⟨_, List.mem_cons_self, rfl⟩
      · rcases ih hlater with ⟨entry, hentry, heq⟩ | hnew
        · exact .inl ⟨entry, List.mem_cons_of_mem _ hentry, heq⟩
        · exact .inr hnew
  | added _ _ _ ih =>
      rcases List.mem_cons.mp hmem with rfl | hlater
      · exact .inr ⟨_, List.mem_cons_self, rfl⟩
      · rcases ih hlater with hold | ⟨entry, hentry, heq⟩
        · exact .inl hold
        · exact .inr ⟨entry, List.mem_cons_of_mem _ hentry, heq⟩
  | both _ _ _ ih =>
      rcases List.mem_cons.mp hmem with rfl | hlater
      · exact .inl ⟨_, List.mem_cons_self, rfl⟩
      · rcases ih hlater with ⟨entry, hentry, heq⟩ | ⟨entry, hentry, heq⟩
        · exact .inl ⟨entry, List.mem_cons_of_mem _ hentry, heq⟩
        · exact .inr ⟨entry, List.mem_cons_of_mem _ hentry, heq⟩

/-- A key below those of both maps comes before all of their branches. -/
theorem Merged.lt_segment (hmerged : Merged olds news branches) {key : String}
    (holds : ∀ entry ∈ olds, key < entry.1) (hnews : ∀ entry ∈ news, key < entry.1) :
    ∀ branch ∈ branches, key < branch.segment := by
  intro branch hmem
  rcases hmerged.mem_keys hmem with ⟨entry, hentry, heq⟩ | ⟨entry, hentry, heq⟩
  · exact heq ▸ holds entry hentry
  · exact heq ▸ hnews entry hentry

theorem Merged.ordered (hmerged : Merged olds news branches) :
    branches.Pairwise fun first second => first.segment < second.segment := by
  induction hmerged with
  | nil => exact .nil
  | removed holds hnews hrest ih =>
      exact List.pairwise_cons.mpr ⟨hrest.lt_segment holds hnews, ih⟩
  | added holds hnews hrest ih =>
      exact List.pairwise_cons.mpr ⟨hrest.lt_segment holds hnews, ih⟩
  | both holds hnews hrest ih =>
      exact List.pairwise_cons.mpr ⟨hrest.lt_segment holds hnews, ih⟩

/-- A key below all others is not bound by them. -/
theorem find?_of_lt {key : String} {entries : List (String × Tree)}
    (hbelow : ∀ entry ∈ entries, key < entry.1) : find? key entries = none := by
  apply Entries.find?_eq_none
  intro hmem
  obtain ⟨entry, hentry, rfl⟩ := List.mem_map.mp hmem
  exact String.lt_irrefl _ (hbelow entry hentry)

theorem find?_cons_of_ne {key other : String} {value : Tree} {rest : List (String × Tree)}
    (hne : key ≠ other) : find? other ((key, value) :: rest) = find? other rest :=
  if_neg hne

theorem find?_cons_of_lt {key other : String} {value : Tree} {rest : List (String × Tree)}
    (hlt : key < other) : find? other ((key, value) :: rest) = find? other rest := by
  apply find?_cons_of_ne
  rintro rfl
  exact String.lt_irrefl _ hlt

theorem Merged.find? (hmerged : Merged olds news branches) :
    ∀ branch ∈ branches, Entries.find? branch.segment olds = branch.old? ∧
      Entries.find? branch.segment news = branch.new? := by
  induction hmerged with
  | nil =>
      intro branch hmem
      cases hmem
  | removed holds hnews hrest ih =>
      intro branch hmem
      rcases List.mem_cons.mp hmem with rfl | hlater
      · exact ⟨if_pos rfl, find?_of_lt hnews⟩
      · rw [find?_cons_of_lt (hrest.lt_segment holds hnews branch hlater)]
        exact ih branch hlater
  | added holds hnews hrest ih =>
      intro branch hmem
      rcases List.mem_cons.mp hmem with rfl | hlater
      · exact ⟨find?_of_lt holds, if_pos rfl⟩
      · rw [find?_cons_of_lt (hrest.lt_segment holds hnews branch hlater)]
        exact ih branch hlater
  | both holds hnews hrest ih =>
      intro branch hmem
      rcases List.mem_cons.mp hmem with rfl | hlater
      · exact ⟨if_pos rfl, if_pos rfl⟩
      · have hlt := hrest.lt_segment holds hnews branch hlater
        rw [find?_cons_of_lt hlt, find?_cons_of_lt hlt]
        exact ih branch hlater

theorem Merged.find?_eq_none (hmerged : Merged olds news branches) {key : String}
    (hfresh : key ∉ branches.map Branch.segment) :
    Entries.find? key olds = none ∧ Entries.find? key news = none := by
  induction hmerged with
  | nil => exact ⟨rfl, rfl⟩
  | @removed other old olds news branches _ _ _ ih =>
      have hne : other ≠ key := fun heq => hfresh (heq ▸ List.mem_cons_self)
      rw [find?_cons_of_ne hne]
      exact ih fun hmem => hfresh (List.mem_cons_of_mem _ hmem)
  | @added other new olds news branches _ _ _ ih =>
      have hne : other ≠ key := fun heq => hfresh (heq ▸ List.mem_cons_self)
      rw [find?_cons_of_ne hne]
      exact ih fun hmem => hfresh (List.mem_cons_of_mem _ hmem)
  | @both other old new olds news branches _ _ _ ih =>
      have hne : other ≠ key := fun heq => hfresh (heq ▸ List.mem_cons_self)
      rw [find?_cons_of_ne hne, find?_cons_of_ne hne]
      exact ih fun hmem => hfresh (List.mem_cons_of_mem _ hmem)

theorem Merged.agree_iff (hmerged : Merged olds news branches) :
    AgreeEntries olds news ↔ ∀ branch ∈ branches, branch.Agree := by
  induction hmerged with
  | nil => simp [AgreeEntries]
  | @removed key old olds news branches _ hnews _ _ =>
      have hno : ¬ AgreeEntries ((key, old) :: olds) news := by
        cases news with
        | nil => simp [AgreeEntries]
        | cons new news =>
            rw [AgreeEntries]
            rintro ⟨rfl, -⟩
            exact String.lt_irrefl _ (hnews new List.mem_cons_self)
      exact iff_of_false hno fun hall => hall _ List.mem_cons_self
  | @added key new olds news branches holds _ _ _ =>
      have hno : ¬ AgreeEntries olds ((key, new) :: news) := by
        cases olds with
        | nil => simp [AgreeEntries]
        | cons old olds =>
            rw [AgreeEntries]
            rintro ⟨rfl, -⟩
            exact String.lt_irrefl _ (holds old List.mem_cons_self)
      exact iff_of_false hno fun hall => hall _ List.mem_cons_self
  | both _ _ _ ih =>
      rw [AgreeEntries, List.forall_mem_cons, ih, and_iff_right rfl]
      rfl

/-- Keys below those of both maps come first. -/
theorem Merged.append {before : List (String × Tree)} (hmerged : Merged olds news branches)
    (hordered : Ordered (before ++ news))
    (hbelow : ∀ entry ∈ before, ∀ old ∈ olds, entry.1 < old.1) :
    Merged olds (before ++ news)
      (before.map (fun entry => Branch.added entry.1 entry.2) ++ branches) := by
  induction before with
  | nil => exact hmerged
  | cons entry rest ih =>
      obtain ⟨hfirst, hrest⟩ := List.pairwise_cons.mp hordered
      have htail := ih hrest fun other hother => hbelow other (List.mem_cons_of_mem _ hother)
      exact .added (hbelow entry List.mem_cons_self) hfirst htail

theorem foldl_reportAt_eq (entries : List (String × Tree)) (w : Walk) :
    entries.foldl (fun w entry => w.reportAt entry.1) w =
      w.append
        ((entries.map fun entry => Branch.added entry.1 entry.2).flatMap Branch.reports) := by
  induction entries generalizing w with
  | nil => simp
  | cons entry rest ih =>
      rw [List.foldl_cons, ih, Walk.reportAt_eq_append, Walk.append_append]
      rfl

theorem span_lt {key : String} {before rest : List (String × Tree)}
    (hspan : news.span (fun entry => decide (entry.1 < key)) = (before, rest)) :
    news = before ++ rest ∧ (∀ entry ∈ before, entry.1 < key) ∧
      ∀ entry ∈ rest.head?, ¬ entry.1 < key := by
  rw [List.span_eq_takeWhile_dropWhile] at hspan
  obtain ⟨rfl, rfl⟩ := Prod.mk.inj hspan
  refine ⟨List.takeWhile_append_dropWhile.symm, ?_, ?_⟩
  · intro entry hmem
    simpa using List.mem_takeWhile_imp hmem
  · intro entry hhead
    have hstop := List.head?_dropWhile_not (fun entry => decide (entry.1 < key)) news
    rw [Option.mem_def.mp hhead] at hstop
    simpa using hstop

/-- The walk through two maps goes through their branches. -/
theorem walkEntries_merged (holds : Ordered olds) (hnews : Ordered news) :
    ∃ branches, Merged olds news branches ∧
      ∀ w, walkEntries olds news w = w.append (branches.flatMap Branch.reports) := by
  induction olds generalizing news with
  | nil =>
      have hmerged := @Merged.append [] [] [] news .nil (by rwa [List.append_nil]) (by simp)
      rw [List.append_nil, List.append_nil] at hmerged
      refine ⟨_, hmerged, fun w => ?_⟩
      rw [walkEntries, foldl_reportAt_eq]
  | cons entry olds ih =>
      obtain ⟨key, old⟩ := entry
      obtain ⟨hkey, hothers⟩ := List.pairwise_cons.mp holds
      rcases hspan : news.span (fun entry => decide (entry.1 < key)) with ⟨before, rest⟩
      obtain ⟨rfl, hbefore, hstop⟩ := span_lt hspan
      have hrest : Ordered rest := (List.pairwise_append.mp hnews).2.1
      have hbelow : ∀ entry ∈ before, ∀ other ∈ (key, old) :: olds, entry.1 < other.1 := by
        intro entry hentry other hother
        rcases List.mem_cons.mp hother with rfl | hlater
        · exact hbefore entry hentry
        · exact String.lt_trans (hbefore entry hentry) (hkey other hlater)
      -- What is left of the second map begins with the key at hand or a later one.
      suffices hlast : ∃ branches, Merged ((key, old) :: olds) rest branches ∧
          ∀ w, walkEntries ((key, old) :: olds) (before ++ rest) w =
            (before.foldl (fun w entry => w.reportAt entry.1) w).append
              (branches.flatMap Branch.reports) by
        obtain ⟨branches, hmerged, hwalk⟩ := hlast
        refine ⟨_, hmerged.append hnews hbelow, fun w => ?_⟩
        rw [hwalk, foldl_reportAt_eq, Walk.append_append, List.flatMap_append]
      cases rest with
      | nil =>
          obtain ⟨branches, hmerged, hwalk⟩ := ih hothers hrest
          refine ⟨_, .removed hkey (by simp) hmerged, fun w => ?_⟩
          simp only [walkEntries, hspan]
          rw [hwalk, Walk.reportAt_eq_append, Walk.append_append]
          rfl
      | cons next news =>
          obtain ⟨next, new⟩ := next
          obtain ⟨hnext, hlater⟩ := List.pairwise_cons.mp hrest
          by_cases heq : next = key
          · subst heq
            obtain ⟨branches, hmerged, hwalk⟩ := ih hothers hlater
            refine ⟨_, .both hkey hnext hmerged, fun w => ?_⟩
            simp only [walkEntries, hspan, ↓reduceIte]
            rw [hwalk, append_both, Walk.append_append, List.flatMap_cons]
          · obtain ⟨branches, hmerged, hwalk⟩ := ih hothers hrest
            have hlt : key < next := by
              have hle := String.not_lt.mp (hstop (next, new) rfl)
              by_contra hnot
              exact heq (String.le_antisymm (String.not_lt.mp hnot) hle)
            have habove : ∀ entry ∈ (next, new) :: news, key < entry.1 := by
              intro entry hentry
              rcases List.mem_cons.mp hentry with rfl | hmem
              · exact hlt
              · exact String.lt_trans hlt (hnext entry hmem)
            refine ⟨_, .removed hkey habove hmerged, fun w => ?_⟩
            simp only [walkEntries, hspan, heq, ↓reduceIte]
            rw [hwalk, Walk.reportAt_eq_append, Walk.append_append]
            rfl

theorem exists_branches_map (holds : Ordered olds) (hnews : Ordered news) :
    ∃ branches, Branches (.map olds) (.map news) branches := by
  obtain ⟨branches, hmerged, hwalk⟩ := walkEntries_merged holds hnews
  refine ⟨branches, ?_, ?_, trivial, hmerged.find?, fun _ => hmerged.find?_eq_none, ?_⟩
  · exact differences_eq fun w => by rw [walk, hwalk]
  · rw [Agree]
    exact hmerged.agree_iff
  · apply hmerged.ordered.imp
    intro first second hlt
    refine ⟨?_, hlt⟩
    intro heq
    exact String.lt_irrefl _ (heq ▸ hlt)

end Entries

end Tree

end Rollout
