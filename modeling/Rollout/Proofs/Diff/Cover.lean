import Rollout.Proofs.Diff.Branch

/-!
A comparison of two documents of one type is an exact list of their differences: nothing is missed,
nothing is reported that does not differ, and nothing is reported twice or below something that is
reported. This holds for every type that is built from leaves, optional values, lists, maps and
records, also where a record holds values of its own type.
-/

namespace Rollout

namespace Tree

/-! ### Types of documents -/

/-- The type of a leaf. -/
inductive LeafKind where
  | bool
  | integer
  | real
  | letter
  | text

def leafKind : Leaf → LeafKind
  | .bool _ => .bool
  | .integer _ => .integer
  | .real _ => .real
  | .letter _ => .letter
  | .text _ => .text

/-- The type of a document. A record goes by its name, so that its members may hold values of its
own type. -/
inductive Shape where
  | leaf (kind : LeafKind)
  | optional (inner : Shape)
  /-- A value behind a pointer, which no document shows. -/
  | boxed (inner : Shape)
  | list (item : Shape)
  | map (value : Shape)
  | record (name : String)

/-- Documents of a type, where each name of a record stands for its members. What a member holds
that is not compared is left open. -/
inductive HasShape (declared : String → List (Member Shape)) : Shape → Tree → Prop
  | leaf (value : Leaf) : HasShape declared (.leaf (leafKind value)) (.leaf value)
  | absent {inner : Shape} : HasShape declared (.optional inner) (.optional none)
  | present {inner : Shape} {value : Tree} : HasShape declared inner value →
      HasShape declared (.optional inner) (.optional (some value))
  | boxed {inner : Shape} {value : Tree} : HasShape declared inner value →
      HasShape declared (.boxed inner) value
  | list {item : Shape} {items : List Tree} : (∀ value ∈ items, HasShape declared item value) →
      HasShape declared (.list item) (.list items)
  | map {value : Shape} {entries : List (String × Tree)} : Entries.Ordered entries →
      (∀ entry ∈ entries, HasShape declared value entry.2) →
      HasShape declared (.map value) (.map entries)
  | record {name : String} {members : List (Member Tree)} :
      declarations (declared name) = declarations members →
      (∀ (i : Nat) (field : Member Shape) (member : Member Tree), (declared name)[i]? = some field →
        members[i]? = some member → field.compared →
          HasShape declared field.value member.value) →
      HasShape declared (.record name) (.record members)

section Readable

variable {declared : String → List (Member Shape)}

/-- The compared members of a record have the types of their fields. -/
def HaveShapes (declared : String → List (Member Shape)) (fields : List (Member Shape))
    (members : List (Member Tree)) : Prop :=
  ∀ (i : Nat) (field : Member Shape) (member : Member Tree), fields[i]? = some field →
    members[i]? = some member → field.compared → HasShape declared field.value member.value

@[simp] theorem hasShape_leaf {kind : LeafKind} {value : Leaf} :
    HasShape declared (.leaf kind) (.leaf value) ↔ leafKind value = kind := by
  constructor
  · rintro ⟨⟩
    rfl
  · rintro rfl
    exact .leaf value

@[simp] theorem hasShape_absent {inner : Shape} :
    HasShape declared (.optional inner) (.optional none) :=
  .absent

@[simp] theorem hasShape_present {inner : Shape} {value : Tree} :
    HasShape declared (.optional inner) (.optional (some value)) ↔
      HasShape declared inner value := by
  constructor
  · intro hshape
    cases hshape with
    | present hvalue => exact hvalue
  · exact .present

@[simp] theorem hasShape_boxed {inner : Shape} {value : Tree} :
    HasShape declared (.boxed inner) value ↔ HasShape declared inner value := by
  constructor
  · intro hshape
    cases hshape with
    | boxed hvalue => exact hvalue
  · exact .boxed

@[simp] theorem hasShape_list {item : Shape} {items : List Tree} :
    HasShape declared (.list item) (.list items) ↔
      ∀ value ∈ items, HasShape declared item value := by
  constructor
  · intro hshape
    cases hshape with
    | list hitems => exact hitems
  · exact .list

@[simp] theorem hasShape_map {value : Shape} {entries : List (String × Tree)} :
    HasShape declared (.map value) (.map entries) ↔
      Entries.Ordered entries ∧ ∀ entry ∈ entries, HasShape declared value entry.2 := by
  constructor
  · intro hshape
    cases hshape with
    | map hordered hentries => exact ⟨hordered, hentries⟩
  · rintro ⟨hordered, hentries⟩
    exact .map hordered hentries

@[simp] theorem hasShape_record {name : String} {members : List (Member Tree)} :
    HasShape declared (.record name) (.record members) ↔
      declarations (declared name) = declarations members ∧
        HaveShapes declared (declared name) members := by
  constructor
  · intro hshape
    cases hshape with
    | record hdecl hmembers => exact ⟨hdecl, hmembers⟩
  · rintro ⟨hdecl, hmembers⟩
    exact .record hdecl hmembers

@[simp] theorem haveShapes_nil (members : List (Member Tree)) :
    HaveShapes declared [] members := by
  intro i field member hfield
  simp at hfield

@[simp] theorem haveShapes_cons {field : Member Shape} {fields : List (Member Shape)}
    {member : Member Tree} {members : List (Member Tree)} :
    HaveShapes declared (field :: fields) (member :: members) ↔
      (field.compared → HasShape declared field.value member.value) ∧
        HaveShapes declared fields members := by
  constructor
  · intro hshapes
    exact ⟨hshapes 0 field member rfl rfl, fun i => hshapes (i + 1)⟩
  · rintro ⟨hfirst, hrest⟩ i other value hfield hmember
    cases i with
    | zero =>
        obtain rfl := Option.some.inj hfield
        obtain rfl := Option.some.inj hmember
        exact hfirst
    | succ i => exact hrest i other value hfield hmember

end Readable

/-! ### The ways in which two documents of one type compare -/

/-- Pairs of documents by what a walk does with them: it looks at two leaves, at which sides are
present, at two lengths that differ, or goes through branches. -/
inductive Comparable : Tree → Tree → Prop
  | leaf (old new : Leaf) : Comparable (.leaf old) (.leaf new)
  | absent : Comparable (.optional none) (.optional none)
  | removed (old : Tree) : Comparable (.optional (some old)) (.optional none)
  | added (new : Tree) : Comparable (.optional none) (.optional (some new))
  | present {old new : Tree} : Comparable old new →
      Comparable (.optional (some old)) (.optional (some new))
  | lengths {olds news : List Tree} : olds.length ≠ news.length →
      Comparable (.list olds) (.list news)
  | branches {old new : Tree} {branches : List Branch} : Branches old new branches →
      (∀ segment first second, Branch.both segment first second ∈ branches →
        Comparable first second) → Comparable old new

/-- A branch below two records holds their members at one position, which are compared. -/
theorem mem_branchesOfMembers {olds news : List (Member Tree)} {segment : String} {old new : Tree}
    (hmem : Branch.both segment old new ∈ branchesOfMembers olds news) :
    ∃ (i : Nat) (first second : Member Tree), olds[i]? = some first ∧ news[i]? = some second ∧
      first.compared ∧ first.value = old ∧ second.value = new := by
  induction olds generalizing news with
  | nil => cases hmem
  | cons first olds ih =>
      obtain ⟨name, compared, value⟩ := first
      cases news with
      | nil => cases hmem
      | cons second news =>
          rw [branchesOfMembers] at hmem
          split at hmem
          · next hcompared =>
              rcases List.mem_cons.mp hmem with hhere | hlater
              · obtain ⟨-, rfl, rfl⟩ := Branch.both.inj hhere
                exact ⟨0, _, second, rfl, rfl, hcompared, rfl, rfl⟩
              · obtain ⟨i, hlater⟩ := ih hlater
                exact ⟨i + 1, hlater⟩
          · obtain ⟨i, hlater⟩ := ih hmem
            exact ⟨i + 1, hlater⟩

/-- A member is compared if its field is declared so. -/
theorem exists_field {fields : List (Member Shape)} {members : List (Member Tree)}
    (hdecl : declarations fields = declarations members) {i : Nat} {member : Member Tree}
    (hmember : members[i]? = some member) :
    ∃ field, fields[i]? = some field ∧ field.compared = member.compared := by
  have hposition := congrArg (fun entries => entries[i]?) hdecl
  simp only [declarations, List.getElem?_map, hmember, Option.map_some,
    Option.map_eq_some_iff, Prod.mk.injEq] at hposition
  obtain ⟨field, hfield, -, hcompared⟩ := hposition
  exact ⟨field, hfield, hcompared⟩

section Typed

variable {declared : String → List (Member Shape)}

/-- What holds of two documents of one type if it holds of those right below them: the contents of
two optional values, the items of two lists of one length, the values of a key of two maps, and the
compared members of two records. -/
theorem HasShape.pair_induction {motive : Tree → Tree → Prop}
    (leaf : ∀ old new, motive (.leaf old) (.leaf new))
    (absent : motive (.optional none) (.optional none))
    (removed : ∀ old, motive (.optional (some old)) (.optional none))
    (added : ∀ new, motive (.optional none) (.optional (some new)))
    (present : ∀ old new, motive old new → motive (.optional (some old)) (.optional (some new)))
    (lengths : ∀ olds news, olds.length ≠ news.length → motive (.list olds) (.list news))
    (list : ∀ olds news, olds.length = news.length →
      (∀ segment old new, Branch.both segment old new ∈ branchesOfItems 0 olds news →
        motive old new) → motive (.list olds) (.list news))
    (map : ∀ olds news, Entries.Ordered olds → Entries.Ordered news →
      (∀ key old new, Entries.find? key olds = some old → Entries.find? key news = some new →
        motive old new) → motive (.map olds) (.map news))
    (record : ∀ name olds news, declarations (declared name) = declarations olds →
      declarations olds = declarations news →
      (∀ segment old new, Branch.both segment old new ∈ branchesOfMembers olds news →
        motive old new) → motive (.record olds) (.record news))
    {shape : Shape} {old new : Tree} (hold : HasShape declared shape old)
    (hnew : HasShape declared shape new) : motive old new := by
  induction hold generalizing new with
  | leaf value =>
      generalize hshape : Shape.leaf (leafKind value) = shape at hnew
      cases hnew with
      | leaf other => exact leaf value other
      | _ => cases hshape
  | absent =>
      cases hnew with
      | absent => exact absent
      | present _ => exact added _
  | present _ ih =>
      cases hnew with
      | absent => exact removed _
      | present hnew => exact present _ _ (ih hnew)
  | boxed _ ih =>
      cases hnew with
      | boxed hnew => exact ih hnew
  | @list item olds _ ih =>
      cases hnew with
      | @list _ news hnews =>
          by_cases hlength : olds.length = news.length
          · refine list olds news hlength ?_
            intro segment first second hmem
            obtain ⟨i, old, new, -, hold, hnew, heq⟩ := mem_branchesOfItems hmem
            obtain ⟨-, rfl, rfl⟩ := Branch.both.inj heq
            exact ih first hold (hnews second hnew)
          · exact lengths olds news hlength
  | map hordered _ ih =>
      cases hnew with
      | map hothers hnews =>
          refine map _ _ hordered hothers fun key old new hfirst hsecond => ?_
          exact ih _ (Entries.mem_of_find? hfirst) (hnews _ (Entries.mem_of_find? hsecond))
  | @record name olds hdecl _ ih =>
      cases hnew with
      | @record _ news hother hnews =>
          refine record name olds news hdecl (hdecl.symm.trans hother) ?_
          intro segment first second hmem
          obtain ⟨i, old, new, hold, hnew, hcompared, rfl, rfl⟩ := mem_branchesOfMembers hmem
          obtain ⟨field, hfield, hflag⟩ := exists_field hdecl hold
          have hcompares : field.compared = true := hflag.trans hcompared
          exact ih i field old hfield hold hcompares (hnews i field new hfield hnew hcompares)

/-- Two documents of one type compare in one of the ways. -/
theorem HasShape.comparable (hdistinct : ∀ name, (comparedNames (declared name)).Nodup)
    {shape : Shape} {old new : Tree} (hold : HasShape declared shape old)
    (hnew : HasShape declared shape new) : Comparable old new := by
  refine pair_induction .leaf .absent .removed .added (fun _ _ => .present)
    (fun _ _ => .lengths) ?list ?map ?record hold hnew
  case list =>
    intro olds news hlength hitems
    exact .branches (branches_list hlength) hitems
  case map =>
    intro olds news hordered hothers hvalues
    obtain ⟨branches, hbranches⟩ := exists_branches_map hordered hothers
    refine .branches hbranches fun segment first second hmem => ?_
    obtain ⟨hfirst, hsecond⟩ := hbranches.children _ hmem
    exact hvalues segment first second hfirst hsecond
  case record =>
    intro name olds news hdecl hsame hmembers
    have hnodup : (comparedNames olds).Nodup := comparedNames_congr hdecl ▸ hdistinct name
    exact .branches (branches_record hsame hnodup) hmembers

end Typed

/-! ### What a walk finds -/

section Steps

variable {old new : Tree} {found : List FieldPath}

/-- Documents that differ are covered by their own location. -/
theorem exactCover_root (hdiffer : ¬ Agree old new) : ExactCover old new [{}] where
  nothing := iff_of_false (List.cons_ne_nil _ _) hdiffer
  differ := by
    intro path hpath
    obtain rfl := List.mem_singleton.mp hpath
    exact fun hagree => hdiffer ((agreeAt_root old new).mp hagree)
  apart := List.pairwise_singleton _ _
  covered := fun location _ => ⟨{}, List.mem_singleton_self _, .inl (List.nil_prefix)⟩
  outside := fun location hnone =>
    absurd List.nil_prefix (hnone {} (List.mem_singleton_self _))
  ordered := List.pairwise_singleton _ _

/-- Documents that agree and have nothing below them. -/
theorem exactCover_nil (hagree : Agree old new) (hhead : SameHead old new)
    (hold : ∀ segment, old.child? segment = none) (hnew : ∀ segment, new.child? segment = none) :
    ExactCover old new [] where
  nothing := iff_of_true rfl hagree
  differ := fun path hpath => by cases hpath
  apart := .nil
  covered := by
    intro location hdiffer
    refine absurd ?_ hdiffer
    cases location with
    | nil => exact (agreeAt_root old new).mpr hagree
    | cons segment rest => exact agreeAt_of_none (hold segment) (hnew segment) rest
  outside := by
    intro location _
    cases location with
    | nil => exact .some hhead
    | cons segment rest => exact sameHeadAt_of_none (hold segment) (hnew segment) rest
  ordered := .nil

theorem agreeAt_present (location : List String) :
    AgreeAt (.optional (some old)) (.optional (some new)) location ↔ AgreeAt old new location := by
  cases location with
  | nil => rw [agreeAt_root, agreeAt_root, Agree]
  | cons segment rest => rfl

theorem sameHeadAt_present {location : List String} (hhead : SameHeadAt old new location) :
    SameHeadAt (.optional (some old)) (.optional (some new)) location := by
  cases location with
  | nil =>
      cases hhead with
      | some hhead => exact .some hhead
  | cons segment rest => exact hhead

theorem Precedes.present {first second : List String} (hprecedes : old.Precedes first second) :
    Precedes (.optional (some old)) first second := by
  obtain ⟨shared, left, right, before, after, value, rfl, rfl, hvalue, hne, hearlier⟩ := hprecedes
  cases shared with
  | nil =>
      obtain rfl := Option.some.inj hvalue
      exact ⟨[], left, right, before, after, _, rfl, rfl, rfl, hne, hearlier⟩
  | cons segment shared =>
      exact ⟨segment :: shared, left, right, before, after, value, rfl, rfl, hvalue, hne, hearlier⟩

/-- An optional value stands where its content does. -/
theorem ExactCover.present (hcover : ExactCover old new found) :
    ExactCover (.optional (some old)) (.optional (some new)) found where
  nothing := by
    rw [Agree]
    exact hcover.nothing
  differ := fun path hpath => by
    rw [agreeAt_present]
    exact hcover.differ path hpath
  apart := hcover.apart
  covered := fun location hdiffer => by
    rw [agreeAt_present] at hdiffer
    exact hcover.covered location hdiffer
  outside := fun location hnone => sameHeadAt_present (hcover.outside location hnone)
  ordered := hcover.ordered.imp Precedes.present

end Steps

/-! ### Branches -/

/-- The reports of a branch are exact for the part of two documents that is below it. -/
structure Branch.Covered (old new : Tree) (branch : Branch) : Prop where
  nothing : branch.reports = [] ↔ branch.Agree
  below : ∀ path ∈ branch.reports, ∃ rest, path.segments = branch.segment :: rest
  differ : ∀ path ∈ branch.reports, ¬ AgreeAt old new path.segments
  covered : ∀ rest, ¬ AgreeAt old new (branch.segment :: rest) → ∃ path ∈ branch.reports,
    path.segments <+: branch.segment :: rest ∨ branch.segment :: rest <+: path.segments
  outside : ∀ rest, (∀ path ∈ branch.reports, ¬ path.segments <+: branch.segment :: rest) →
    SameHeadAt old new (branch.segment :: rest)
  ordered : branch.reports.Pairwise fun first second =>
    old.Precedes first.segments second.segments

section Below

variable {old new : Tree}

theorem mem_reports_both {segment : String} {first second : Tree} {path : FieldPath} :
    path ∈ (Branch.both segment first second).reports ↔
      ∃ inner ∈ first.differences second, path = ⟨segment :: inner.segments⟩ := by
  rw [Branch.reports, List.mem_map]
  exact exists_congr fun inner => and_congr_right fun _ => eq_comm

/-- A value that one side lacks is reported where it should be. -/
theorem covered_of_lone {branch : Branch} (hreports : branch.reports = [⟨[branch.segment]⟩])
    (hagree : ¬ branch.Agree) (hdiffer : ¬ AgreeAt old new [branch.segment]) :
    branch.Covered old new where
  nothing := by
    rw [hreports]
    exact iff_of_false (List.cons_ne_nil _ _) hagree
  below := by
    rw [hreports]
    intro path hpath
    obtain rfl := List.mem_singleton.mp hpath
    exact ⟨[], rfl⟩
  differ := by
    rw [hreports]
    intro path hpath
    obtain rfl := List.mem_singleton.mp hpath
    exact hdiffer
  covered := by
    rw [hreports]
    intro rest _
    exact ⟨_, List.mem_singleton_self _, .inl ⟨rest, rfl⟩⟩
  outside := by
    rw [hreports]
    intro rest hnone
    exact absurd ⟨rest, rfl⟩ (hnone _ (List.mem_singleton_self _))
  ordered := by
    rw [hreports]
    exact List.pairwise_singleton _ _

/-- What is found between the values of a branch is found below its segment. -/
theorem covered_both {segment : String} {first second : Tree}
    (hold : old.child? segment = some first) (hnew : new.child? segment = some second)
    (hcover : ExactCover first second (first.differences second)) :
    (Branch.both segment first second).Covered old new where
  nothing := by
    rw [Branch.reports, List.map_eq_nil_iff]
    exact hcover.nothing
  below := by
    intro path hpath
    obtain ⟨inner, -, rfl⟩ := mem_reports_both.mp hpath
    exact ⟨inner.segments, rfl⟩
  differ := by
    intro path hpath
    obtain ⟨inner, hinner, rfl⟩ := mem_reports_both.mp hpath
    rw [agreeAt_cons hold hnew]
    exact hcover.differ inner hinner
  covered := by
    intro rest hdiffer
    obtain ⟨inner, hinner, hprefix⟩ := hcover.covered rest
      fun hagree => hdiffer ((agreeAt_cons hold hnew rest).mpr hagree)
    refine ⟨_, mem_reports_both.mpr ⟨inner, hinner, rfl⟩, ?_⟩
    exact hprefix.imp (List.cons_prefix_cons.mpr ⟨rfl, ·⟩) (List.cons_prefix_cons.mpr ⟨rfl, ·⟩)
  outside := by
    intro rest hnone
    apply (sameHeadAt_cons hold hnew rest).mpr
    apply hcover.outside
    intro inner hinner hprefix
    have hreport : ⟨segment :: inner.segments⟩ ∈ (Branch.both segment first second).reports :=
      mem_reports_both.mpr ⟨inner, hinner, rfl⟩
    exact hnone _ hreport (List.cons_prefix_cons.mpr ⟨rfl, hprefix⟩)
  ordered := by
    rw [Branch.reports, List.pairwise_map]
    exact hcover.ordered.imp fun hprecedes => hprecedes.cons hold

theorem Branches.covered {branches : List Branch} (hbranches : Branches old new branches)
    (hinner : ∀ segment first second, Branch.both segment first second ∈ branches →
      ExactCover first second (first.differences second)) :
    ∀ branch ∈ branches, branch.Covered old new := by
  intro branch hmem
  obtain ⟨hold, hnew⟩ := hbranches.children branch hmem
  cases branch with
  | both segment first second => exact covered_both hold hnew (hinner segment first second hmem)
  | removed segment first => exact covered_of_lone rfl id (not_agreeAt_removed hold hnew)
  | added segment second => exact covered_of_lone rfl id (not_agreeAt_added hold hnew)

/-- The reports of all branches are exact, if those of each one are. -/
theorem exactCover_branches {branches : List Branch} (hbranches : Branches old new branches)
    (hcovered : ∀ branch ∈ branches, branch.Covered old new) :
    ExactCover old new (branches.flatMap Branch.reports) := by
  have hnothing : branches.flatMap Branch.reports = [] ↔ Agree old new := by
    rw [List.flatMap_eq_nil_iff, hbranches.agree]
    exact forall₂_congr fun branch hmem => (hcovered branch hmem).nothing
  have hordered : (branches.flatMap Branch.reports).Pairwise fun first second =>
      old.Precedes first.segments second.segments := by
    refine List.pairwise_flatMap.mpr ⟨fun branch hmem => (hcovered branch hmem).ordered, ?_⟩
    refine hbranches.ordered.imp_of_mem ?_
    intro left right hleft hright hearlier first hfirst second hsecond
    obtain ⟨before, hbefore⟩ := (hcovered left hleft).below first hfirst
    obtain ⟨after, hafter⟩ := (hcovered right hright).below second hsecond
    rw [hbefore, hafter]
    exact precedes_of_earlier hearlier.1 hearlier.2 before after
  have hreport : ∀ {branch path}, branch ∈ branches → path ∈ branch.reports →
      path ∈ branches.flatMap Branch.reports :=
    fun hbranch hpath => List.mem_flatMap.mpr ⟨_, hbranch, hpath⟩
  constructor
  case nothing => exact hnothing
  case differ =>
    intro path hpath
    obtain ⟨branch, hbranch, hpath⟩ := List.mem_flatMap.mp hpath
    exact (hcovered branch hbranch).differ path hpath
  case apart => exact hordered.imp Precedes.apart
  case covered =>
    intro location hdiffer
    cases location with
    | nil =>
        have hne : branches.flatMap Branch.reports ≠ [] := fun hnil =>
          hdiffer ((agreeAt_root old new).mpr (hnothing.mp hnil))
        obtain ⟨path, hpath⟩ := List.exists_mem_of_ne_nil _ hne
        exact ⟨path, hpath, .inr List.nil_prefix⟩
    | cons segment rest =>
        by_cases hmem : segment ∈ branches.map Branch.segment
        · obtain ⟨branch, hbranch, rfl⟩ := List.mem_map.mp hmem
          obtain ⟨path, hpath, hprefix⟩ := (hcovered branch hbranch).covered rest hdiffer
          exact ⟨path, hreport hbranch hpath, hprefix⟩
        · obtain ⟨hold, hnew⟩ := hbranches.exhaustive segment hmem
          exact absurd (agreeAt_of_none hold hnew rest) hdiffer
  case outside =>
    intro location hnone
    cases location with
    | nil => exact .some hbranches.head
    | cons segment rest =>
        by_cases hmem : segment ∈ branches.map Branch.segment
        · obtain ⟨branch, hbranch, rfl⟩ := List.mem_map.mp hmem
          apply (hcovered branch hbranch).outside
          intro path hpath
          exact hnone path (hreport hbranch hpath)
        · obtain ⟨hold, hnew⟩ := hbranches.exhaustive segment hmem
          exact sameHeadAt_of_none hold hnew rest
  case ordered => exact hordered

end Below

/-! ### Whole documents -/

/-- However two documents compare, what the walk finds is exact. -/
theorem Comparable.exactCover {old new : Tree} (hcomparable : Comparable old new) :
    ExactCover old new (old.differences new) := by
  induction hcomparable with
  | leaf x y =>
      by_cases hsame : x.same y
      · rw [(differences_leaf_eq_nil x y).mpr hsame]
        exact exactCover_nil (by rwa [Agree]) (by rwa [SameHead]) (fun _ => rfl) (fun _ => rfl)
      · rw [differences_leaf_of_not hsame]
        exact exactCover_root (by rwa [Agree])
  | absent =>
      rw [differences_absent]
      exact exactCover_nil (by simp [Agree]) (by simp [SameHead]) (fun _ => rfl) (fun _ => rfl)
  | removed old =>
      rw [differences_removed]
      exact exactCover_root (by simp [Agree])
  | added new =>
      rw [differences_added]
      exact exactCover_root (by simp [Agree])
  | present _ ih =>
      rw [differences_present]
      exact ih.present
  | lengths hlength =>
      rw [differences_of_length_ne hlength]
      apply exactCover_root
      rw [Agree]
      exact fun hagree => hlength (length_eq_of_agreeItems hagree)
  | branches hbranches _ ih =>
      rw [hbranches.differences]
      exact exactCover_branches hbranches (hbranches.covered ih)

/-- A document does not differ from itself. -/
theorem differences_self {declared : String → List (Member Shape)}
    (hdistinct : ∀ name, (comparedNames (declared name)).Nodup) {shape : Shape} {tree : Tree}
    (hshape : HasShape declared shape tree) (hreflexive : tree.IsReflexive) :
    tree.differences tree = [] :=
  (hshape.comparable hdistinct hshape).exactCover.nothing.mpr (agree_self tree hreflexive)

/-- A comparison of two documents of one type, whose records have distinct names for their compared
members, is an exact list of their differences. -/
theorem differences_exactCover {declared : String → List (Member Shape)}
    (hdistinct : ∀ name, (comparedNames (declared name)).Nodup) {shape : Shape} {old new : Tree}
    (hold : HasShape declared shape old) (hnew : HasShape declared shape new) :
    ExactCover old new (old.differences new) :=
  (hold.comparable hdistinct hnew).exactCover

/-- The zones of a stack, and its tenants by name. A tenant may have a parent that is a tenant. -/
def stackTypes : String → List (Member Shape)
  | "stack" => [⟨"zones", true, .list (.leaf .text)⟩, ⟨"tenants", true, .map (.record "tenant")⟩]
  | "tenant" => [⟨"comment", false, .leaf .text⟩, ⟨"rate", true, .leaf .integer⟩,
      ⟨"parent", true, .optional (.boxed (.record "tenant"))⟩]
  | _ => []

def tenant (comment : String) (rate : Int) (parent : Option Tree) : Tree :=
  .record [⟨"comment", false, text comment⟩, ⟨"rate", true, integer rate⟩,
    ⟨"parent", true, .optional parent⟩]

def smallStack : Tree := .record [
  ⟨"zones", true, .list [text "a", text "b"]⟩,
  ⟨"tenants", true, .map [("apps", tenant "first" 4 (some (tenant "" 1 none))),
    ("infra", tenant "" 2 none)]⟩]

/-- The zones change places, a comment is lost, a parent gets another rate, and one tenant goes
while another one comes. -/
def changedStack : Tree := .record [
  ⟨"zones", true, .list [text "b", text "a"]⟩,
  ⟨"tenants", true, .map [("apps", tenant "" 4 (some (tenant "" 3 none))),
    ("audit", tenant "" 2 none)]⟩]

theorem differences_exactCover_stack :
    ExactCover smallStack changedStack [⟨["zones", "[0]"]⟩, ⟨["zones", "[1]"]⟩,
      ⟨["tenants", "apps", "parent", "rate"]⟩, ⟨["tenants", "audit"]⟩, ⟨["tenants", "infra"]⟩] := by
  have hdistinct : ∀ name, (comparedNames (stackTypes name)).Nodup := by
    intro name
    unfold stackTypes
    split <;> decide
  have hold : HasShape stackTypes (.record "stack") smallStack := by
    have hordered (first second : Tree) : Entries.Ordered [("apps", first), ("infra", second)] :=
      List.pairwise_pair.mpr (show "apps" < "infra" by decide)
    simp [smallStack, tenant, stackTypes, declarations, text, integer, leafKind, hordered]
  have hnew : HasShape stackTypes (.record "stack") changedStack := by
    have hordered (first second : Tree) : Entries.Ordered [("apps", first), ("audit", second)] :=
      List.pairwise_pair.mpr (show "apps" < "audit" by decide)
    simp [changedStack, tenant, stackTypes, declarations, text, integer, leafKind, hordered]
  have hcover := differences_exactCover hdistinct hold hnew
  have hfound : smallStack.differences changedStack = [⟨["zones", "[0]"]⟩, ⟨["zones", "[1]"]⟩,
      ⟨["tenants", "apps", "parent", "rate"]⟩, ⟨["tenants", "audit"]⟩,
      ⟨["tenants", "infra"]⟩] := by
    decide +kernel
  rwa [hfound] at hcover

end Tree

end Rollout
