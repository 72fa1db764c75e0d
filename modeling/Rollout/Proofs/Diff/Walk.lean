import Rollout.Diff.Walk

/-!
A walk only appends to its reports and comes back to its path. What it appends depends on the two
documents alone, so the walk over a record is the list of what its members report, each below the
member's name.
-/

namespace Rollout

namespace FieldPath

@[simp] theorem below_root : below {} = id := rfl

theorem below_push (base path : FieldPath) (segment : String) :
    below (base.push segment) path = below base (below ⟨[segment]⟩ path) := by
  simp [below, push, List.append_assoc]

end FieldPath

namespace Walk

/-- A walk that has reported some more paths below the value at hand. -/
def append (walk : Walk) (found : List FieldPath) : Walk :=
  { walk with reports := walk.reports ++ found.map walk.path.below }

@[simp] theorem append_nil (walk : Walk) : walk.append [] = walk := by
  simp [append]

@[simp] theorem append_append (walk : Walk) (first second : List FieldPath) :
    (walk.append first).append second = walk.append (first ++ second) := by
  simp [append, List.append_assoc]

theorem report_eq_append (walk : Walk) : walk.report = walk.append [{}] := by
  simp [report, append, FieldPath.below]

/-- Reports below a pushed segment are reports below the value at hand that begin with it. -/
theorem pop_append_push (walk : Walk) (segment : String) (found : List FieldPath) :
    ((walk.push segment).append found).pop =
      walk.append (found.map (FieldPath.below ⟨[segment]⟩)) := by
  simp only [push, append, pop, FieldPath.pop_push, List.map_map]
  congr 2
  apply List.map_congr_left
  intro path _
  exact FieldPath.below_push walk.path path segment

theorem reportAt_eq_append (walk : Walk) (segment : String) :
    walk.reportAt segment = walk.append [⟨[segment]⟩] := by
  unfold reportAt
  rw [report_eq_append, pop_append_push]
  simp [FieldPath.below]

/-- A step of the comparison that comes back to where it began and only adds reports. -/
def Appends (step : Walk → Walk) : Prop := ∃ found, ∀ walk, step walk = walk.append found

theorem Appends.congr {step other : Walk → Walk} (hstep : Appends step)
    (heq : ∀ walk, other walk = step walk) : Appends other := by
  obtain ⟨found, hfound⟩ := hstep
  exact ⟨found, fun walk => (heq walk).trans (hfound walk)⟩

theorem Appends.id : Appends fun walk => walk := ⟨[], fun walk => (append_nil walk).symm⟩

theorem Appends.report : Appends Walk.report := ⟨[{}], report_eq_append⟩

theorem Appends.comp {first second : Walk → Walk} (hfirst : Appends first)
    (hsecond : Appends second) : Appends fun walk => second (first walk) := by
  obtain ⟨found, hfound⟩ := hfirst
  obtain ⟨more, hmore⟩ := hsecond
  refine ⟨found ++ more, fun walk => ?_⟩
  simp only [hfound, hmore, append_append]

theorem Appends.below {step : Walk → Walk} (hstep : Appends step) (segment : String) :
    Appends fun walk => (step (walk.push segment)).pop := by
  obtain ⟨found, hfound⟩ := hstep
  refine ⟨found.map (FieldPath.below ⟨[segment]⟩), fun walk => ?_⟩
  simp only [hfound, pop_append_push]

theorem Appends.reportAt (segment : String) : Appends fun walk => walk.reportAt segment :=
  ⟨[⟨[segment]⟩], fun walk => reportAt_eq_append walk segment⟩

theorem Appends.foldl_reportAt {α : Type} (entries : List (String × α)) :
    Appends fun walk => entries.foldl (fun walk entry => walk.reportAt entry.1) walk := by
  induction entries with
  | nil => exact Appends.id
  | cons entry rest ih => exact (Appends.reportAt entry.1).comp ih

/-- What an appending step adds is what it reports from the document root. -/
theorem Appends.eq_append {step : Walk → Walk} (hstep : Appends step) (walk : Walk) :
    step walk = walk.append (step {}).reports := by
  obtain ⟨found, hfound⟩ := hstep
  rw [hfound, hfound {}]
  simp [append]

end Walk

namespace Tree

open Walk (Appends)

-- The induction is on the first document. The four walks call each other, one for each shape of
-- what is walked, so the four statements are proved together.
mutual

theorem walk_appends (old new : Tree) : Appends (walk old new) := by
  cases old with
  | leaf x =>
      cases new with
      | leaf y =>
          cases hsame : x.same y with
          | true => exact Appends.id.congr fun w => by simp [walk, hsame]
          | false => exact Appends.report.congr fun w => by simp [walk, hsame]
      | _ => exact Appends.id.congr fun w => by simp [walk]
  | optional x =>
      cases new with
      | optional y =>
          cases x with
          | none =>
              cases y with
              | none => exact Appends.id.congr fun w => by simp [walk]
              | some y => exact Appends.report.congr fun w => by simp [walk]
          | some x =>
              cases y with
              | none => exact Appends.report.congr fun w => by simp [walk]
              | some y => exact (walk_appends x y).congr fun w => by simp [walk]
      | _ => exact Appends.id.congr fun w => by simp [walk]
  | list xs =>
      cases new with
      | list ys =>
          by_cases hlength : xs.length = ys.length
          · exact (walkItems_appends 0 xs ys).congr fun w => by simp [walk, hlength]
          · exact Appends.report.congr fun w => by simp [walk, hlength]
      | _ => exact Appends.id.congr fun w => by simp [walk]
  | map xs =>
      cases new with
      | map ys => exact (walkEntries_appends xs ys).congr fun w => by simp [walk]
      | _ => exact Appends.id.congr fun w => by simp [walk]
  | record xs =>
      cases new with
      | record ys => exact (walkMembers_appends xs ys).congr fun w => by simp [walk]
      | _ => exact Appends.id.congr fun w => by simp [walk]

theorem walkItems_appends (position : Nat) (olds news : List Tree) :
    Appends (walkItems position olds news) := by
  cases olds with
  | nil => exact Appends.id.congr fun w => by simp [walkItems]
  | cons old olds =>
      cases news with
      | nil => exact Appends.id.congr fun w => by simp [walkItems]
      | cons new news =>
          have hitem := (walk_appends old new).below (FieldPath.index position)
          have hrest := walkItems_appends (position + 1) olds news
          exact (hitem.comp hrest).congr fun w => by simp [walkItems]

theorem walkMembers_appends (olds news : List (Member Tree)) :
    Appends (walkMembers olds news) := by
  cases olds with
  | nil => exact Appends.id.congr fun w => by simp [walkMembers]
  | cons old olds =>
      obtain ⟨name, compared, old⟩ := old
      cases news with
      | nil => exact Appends.id.congr fun w => by simp [walkMembers]
      | cons new news =>
          have hmember := (walk_appends old new.value).below name
          have hrest := walkMembers_appends olds news
          cases compared with
          | false => exact hrest.congr fun w => by simp [walkMembers]
          | true => exact (hmember.comp hrest).congr fun w => by simp [walkMembers]

theorem walkEntries_appends (olds news : List (String × Tree)) :
    Appends (walkEntries olds news) := by
  cases olds with
  | nil => exact (Appends.foldl_reportAt news).congr fun w => by simp [walkEntries]
  | cons old olds =>
      obtain ⟨key, old⟩ := old
      rcases hspan : news.span (fun entry => decide (entry.1 < key)) with ⟨before, rest⟩
      have hbefore := Appends.foldl_reportAt before
      cases rest with
      | nil =>
          have hrest := walkEntries_appends olds []
          exact (hbefore.comp ((Appends.reportAt key).comp hrest)).congr fun w => by
            simp only [walkEntries, hspan]
      | cons next news =>
          obtain ⟨next, new⟩ := next
          by_cases hnext : next = key
          · have hvalue := (walk_appends old new).below key
            have hrest := walkEntries_appends olds news
            exact (hbefore.comp (hvalue.comp hrest)).congr fun w => by
              simp only [walkEntries, hspan, hnext, ↓reduceIte]
          · have hrest := walkEntries_appends olds ((next, new) :: news)
            exact (hbefore.comp ((Appends.reportAt key).comp hrest)).congr fun w => by
              simp only [walkEntries, hspan, hnext, ↓reduceIte]

end

/-- The walk adds the differences of its two documents, seen from the path at hand. -/
theorem walk_eq_append (old new : Tree) (w : Walk) :
    walk old new w = w.append (old.differences new) :=
  (walk_appends old new).eq_append w

/-- A walk that begins anywhere, with any reports made before, comes back to the path that it began
at. To the reports it adds the differences of the two documents, those that a walk from the root
reports, each below that path and in the same order. -/
theorem walk_below (old new : Tree) (path : FieldPath) (reports : List FieldPath) :
    (walk old new ⟨path, reports⟩).path = path ∧
      (walk old new ⟨path, reports⟩).reports =
        reports ++
          (walk old new {}).reports.map fun found => ⟨path.segments ++ found.segments⟩ := by
  rw [walk_eq_append old new ⟨path, reports⟩]
  exact ⟨rfl, rfl⟩

def differencesOfMembers (olds news : List (Member Tree)) : List FieldPath :=
  (walkMembers olds news {}).reports

theorem differences_record (olds news : List (Member Tree)) :
    differences (.record olds) (.record news) = differencesOfMembers olds news := by
  simp [differences, differencesOfMembers, walk]

@[simp] theorem differencesOfMembers_nil (news : List (Member Tree)) :
    differencesOfMembers [] news = [] := by
  simp [differencesOfMembers, walkMembers]

@[simp] theorem differencesOfMembers_nil_right (olds : List (Member Tree)) :
    differencesOfMembers olds [] = [] := by
  cases olds <;> simp [differencesOfMembers, walkMembers]

theorem differencesOfMembers_cons (name : String) (old : Tree) (olds : List (Member Tree))
    (new : Member Tree) (news : List (Member Tree)) :
    differencesOfMembers (⟨name, true, old⟩ :: olds) (new :: news) =
      (old.differences new.value).map (FieldPath.below ⟨[name]⟩) ++
        differencesOfMembers olds news := by
  simp only [differencesOfMembers, walkMembers, ↓reduceIte]
  rw [walk_eq_append, Walk.pop_append_push, (walkMembers_appends olds news).eq_append]
  simp [Walk.append]

theorem differencesOfMembers_cons_passed (name : String) (old : Tree) (olds : List (Member Tree))
    (new : Member Tree) (news : List (Member Tree)) :
    differencesOfMembers (⟨name, false, old⟩ :: olds) (new :: news) =
      differencesOfMembers olds news := by
  simp [differencesOfMembers, walkMembers]

@[simp] theorem differences_leaf_eq_nil (old new : Leaf) :
    differences (.leaf old) (.leaf new) = [] ↔ old.same new := by
  cases hsame : old.same new <;> simp [differences, walk, hsame, Walk.report]

theorem differences_leaf_of_not {old new : Leaf} (hdiffer : ¬ old.same new) :
    differences (.leaf old) (.leaf new) = [{}] := by
  simp [differences, walk, hdiffer, Walk.report]

@[simp] theorem differences_absent : differences (.optional none) (.optional none) = [] := by
  simp [differences, walk]

@[simp] theorem differences_removed (old : Tree) :
    differences (.optional (some old)) (.optional none) = [{}] := by
  simp [differences, walk, Walk.report]

@[simp] theorem differences_added (new : Tree) :
    differences (.optional none) (.optional (some new)) = [{}] := by
  simp [differences, walk, Walk.report]

@[simp] theorem differences_present (old new : Tree) :
    differences (.optional (some old)) (.optional (some new)) = old.differences new := by
  simp [differences, walk]

theorem differences_of_length_ne {olds news : List Tree} (hlength : olds.length ≠ news.length) :
    differences (.list olds) (.list news) = [{}] := by
  simp [differences, walk, hlength, Walk.report]

/-- The names of the compared members that differ, in the order of the members. -/
def changedMembers : List (Member Tree) → List (Member Tree) → List String
  | ⟨name, compared, old⟩ :: olds, new :: news =>
    if compared = true ∧ old.differences new.value ≠ [] then name :: changedMembers olds news
    else changedMembers olds news
  | _, _ => []

theorem filterMap_root_below (name : String) (found : List FieldPath) :
    (found.map (FieldPath.below ⟨[name]⟩)).filterMap FieldPath.root? =
      List.replicate found.length name := by
  induction found with
  | nil => rfl
  | cons path rest ih => simpa [FieldPath.below, FieldPath.root?, List.replicate_succ] using ih

/-- Every reported path of a record begins with the name of one of its members. -/
theorem mem_names_of_root (olds news : List (Member Tree)) {name : String}
    (hname : name ∈ (differencesOfMembers olds news).filterMap FieldPath.root?) :
    name ∈ olds.map Member.name := by
  induction olds generalizing news with
  | nil => simp at hname
  | cons old olds ih =>
      obtain ⟨own, compared, old⟩ := old
      cases news with
      | nil => simp at hname
      | cons new news =>
          cases compared with
          | false =>
              rw [differencesOfMembers_cons_passed] at hname
              exact List.mem_cons_of_mem _ (ih news hname)
          | true =>
              rw [differencesOfMembers_cons, List.filterMap_append, filterMap_root_below] at hname
              rcases List.mem_append.mp hname with here | later
              · simp [List.eq_of_mem_replicate here]
              · exact List.mem_cons_of_mem _ (ih news later)

/-- Repeats of one name in front of a list without it leave one occurrence. -/
theorem eraseDups_replicate_append {name : String} {count : Nat} {rest : List String}
    (hcount : count ≠ 0) (hrest : name ∉ rest) :
    (List.replicate count name ++ rest).eraseDups = name :: rest.eraseDups := by
  obtain ⟨more, rfl⟩ := Nat.exists_eq_succ_of_ne_zero hcount
  have hkept : (List.replicate more name ++ rest).filter (fun other => !other == name) = rest := by
    rw [List.filter_append, List.filter_eq_nil_iff.mpr (by simp [List.mem_replicate]),
      List.nil_append, List.filter_eq_self]
    intro other hother
    simpa using fun same : other = name => hrest (same ▸ hother)
  rw [List.replicate_succ, List.cons_append, List.eraseDups_cons, hkept]

/-- The sections of two records that differ are their changed members, however many differences
lie below each. -/
theorem changedSections_record (olds news : List (Member Tree))
    (hnames : (olds.map Member.name).Nodup) :
    changedSections (.record olds) (.record news) = changedMembers olds news := by
  change ((differences (.record olds) (.record news)).filterMap FieldPath.root?).eraseDups = _
  rw [differences_record]
  induction olds generalizing news with
  | nil => simp [changedMembers]
  | cons old olds ih =>
      obtain ⟨name, compared, old⟩ := old
      obtain ⟨hname, hrest⟩ := List.nodup_cons.mp hnames
      cases news with
      | nil => simp [changedMembers]
      | cons new news =>
          cases compared with
          | false => simp [differencesOfMembers_cons_passed, changedMembers, ih news hrest]
          | true =>
              rw [differencesOfMembers_cons, List.filterMap_append, filterMap_root_below]
              by_cases hsame : old.differences new.value = []
              · simp [hsame, changedMembers, ih news hrest]
              · have hcount : (old.differences new.value).length ≠ 0 := by simpa using hsame
                have hfresh := fun hmem => hname (mem_names_of_root olds news hmem)
                rw [eraseDups_replicate_append hcount hfresh, ih news hrest]
                simp [changedMembers, hsame]

end Tree

end Rollout
