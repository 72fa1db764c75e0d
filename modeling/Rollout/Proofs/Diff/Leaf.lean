import Rollout.Proofs.Diff.Cover

/-!
Types of records and leaves alone, as those of configuration files. All documents of such a type
have the same locations, and a comparison goes down to the leaves: a reported path leads to a leaf
on both sides.
-/

namespace Rollout

namespace Tree

/-- Types whose documents all have the same locations. -/
inductive Shape.IsFixed (declared : String → List (Member Shape)) : Shape → Prop
  | leaf (kind : LeafKind) : IsFixed declared (.leaf kind)
  | record {name : String} : (∀ field ∈ declared name, IsFixed declared field.value) →
      IsFixed declared (.record name)

attribute [simp] Shape.IsFixed.leaf

@[simp] theorem Shape.isFixed_record {declared : String → List (Member Shape)} {name : String} :
    IsFixed declared (.record name) ↔
      ∀ field ∈ declared name, IsFixed declared field.value := by
  constructor
  · rintro ⟨⟩
    assumption
  · exact .record

/-- Below two records, both always have a value. -/
theorem exists_both_of_mem {olds news : List (Member Tree)} {branch : Branch}
    (hmem : branch ∈ branchesOfMembers olds news) :
    ∃ old new, branch = .both branch.segment old new := by
  induction olds generalizing news with
  | nil => cases hmem
  | cons old olds ih =>
      obtain ⟨name, compared, old⟩ := old
      cases news with
      | nil => cases hmem
      | cons new news =>
          rw [branchesOfMembers] at hmem
          split at hmem
          · rcases List.mem_cons.mp hmem with rfl | hlater
            · exact ⟨old, new.value, rfl⟩
            · exact ih hlater
          · exact ih hmem

section Typed

variable {declared : String → List (Member Shape)} {shape : Shape} {old new : Tree}

theorem HasShape.exists_leaf {kind : LeafKind} {tree : Tree}
    (hshape : HasShape declared (.leaf kind) tree) :
    ∃ value, tree = .leaf value ∧ leafKind value = kind := by
  cases hshape with
  | leaf value => exact ⟨value, rfl, rfl⟩

theorem HasShape.exists_members {name : String} {tree : Tree}
    (hshape : HasShape declared (.record name) tree) : ∃ members, tree = .record members := by
  cases hshape with
  | record => exact ⟨_, rfl⟩

/-- What two records have at one member is of the type of a field. -/
theorem HasShape.exists_field {name : String} {olds news : List (Member Tree)} {segment : String}
    (hold : HasShape declared (.record name) (.record olds))
    (hnew : HasShape declared (.record name) (.record news))
    (hmem : Branch.both segment old new ∈ branchesOfMembers olds news) :
    ∃ field ∈ declared name, HasShape declared field.value old ∧
      HasShape declared field.value new := by
  obtain ⟨hdecl, holds⟩ := hasShape_record.mp hold
  obtain ⟨-, hnews⟩ := hasShape_record.mp hnew
  obtain ⟨i, first, second, hfirst, hsecond, hcompared, rfl, rfl⟩ := mem_branchesOfMembers hmem
  obtain ⟨field, hfield, hflag⟩ := Tree.exists_field hdecl hfirst
  have hcompares : field.compared = true := hflag.trans hcompared
  exact ⟨field, List.mem_of_getElem? hfield, holds i field first hfield hfirst hcompares,
    hnews i field second hfield hsecond hcompares⟩

/-- Where a comparison of documents of a fixed type reports a path, both have a leaf there, and the
leaves are of one kind but not the same. -/
theorem Shape.IsFixed.exists_leaves (hfixed : shape.IsFixed declared)
    (hdistinct : ∀ name, (comparedNames (declared name)).Nodup)
    (hold : HasShape declared shape old) (hnew : HasShape declared shape new) {path : FieldPath}
    (hpath : path ∈ old.differences new) :
    ∃ x y, old.at? path.segments = some (.leaf x) ∧ new.at? path.segments = some (.leaf y) ∧
      leafKind x = leafKind y ∧ ¬ x.same y := by
  induction hfixed generalizing old new path with
  | leaf kind =>
      obtain ⟨x, rfl, hx⟩ := hold.exists_leaf
      obtain ⟨y, rfl, hy⟩ := hnew.exists_leaf
      by_cases hsame : x.same y
      · rw [(differences_leaf_eq_nil x y).mpr hsame] at hpath
        cases hpath
      · rw [differences_leaf_of_not hsame] at hpath
        obtain rfl := List.mem_singleton.mp hpath
        exact ⟨x, y, rfl, rfl, hx.trans hy.symm, hsame⟩
  | @record name _ ih =>
      obtain ⟨olds, rfl⟩ := hold.exists_members
      obtain ⟨news, rfl⟩ := hnew.exists_members
      have hdecl := (hasShape_record.mp hold).1
      have hother := (hasShape_record.mp hnew).1
      have hnodup : (comparedNames olds).Nodup := comparedNames_congr hdecl ▸ hdistinct name
      have hbranches := branches_record (hdecl.symm.trans hother) hnodup
      rw [hbranches.differences, List.mem_flatMap] at hpath
      obtain ⟨branch, hbranch, hpath⟩ := hpath
      obtain ⟨first, second, hboth⟩ := exists_both_of_mem hbranch
      rw [hboth] at hbranch hpath
      obtain ⟨inner, hinner, rfl⟩ := mem_reports_both.mp hpath
      obtain ⟨field, hfield, hfirst, hsecond⟩ := hold.exists_field hnew hbranch
      obtain ⟨x, y, hx, hy, hleaves⟩ := ih field hfield hfirst hsecond hinner
      obtain ⟨hmine, htheirs⟩ := hbranches.children _ hbranch
      exact ⟨x, y, (at?_cons_of_child hmine _).trans hx, (at?_cons_of_child htheirs _).trans hy,
        hleaves⟩

end Typed

end Tree

end Rollout
