import Rollout.Proofs.Config.Differences
import Rollout.Proofs.Config.RoundTrip
import Rollout.Proofs.Diff.Leaf
import Rollout.Proofs.Yaml.Place

/-!
Reported paths in the rendered files. The tree that a configuration is compared as and the outline
that it is rendered from have the same places, but for three names that are shorter than the keys
they stand for. A path without such a name leads to a scalar in both files, and to different ones; a
path with such a name leads there only once the name is exchanged for its key.
-/

namespace Rollout

open Yaml (Outline)

/-! ### Trees as outlines -/

namespace Tree

mutual

/-- The outline of a tree of records, numbers and texts, with keys in the place of its names. -/
def outline? (key : String → String) : Tree → Option Outline
  | .leaf (.integer n) => some (.number n)
  | .leaf (.text t) => some (.text t)
  | .record members => (outlineMembers? key members).map .section
  | _ => none

def outlineMembers? (key : String → String) :
    List (Member Tree) → Option (List (String × Outline))
  | [] => some []
  | ⟨name, _, value⟩ :: rest =>
    (value.outline? key).bind fun v =>
      (outlineMembers? key rest).map fun entries => (key name, v) :: entries

end

section Outlines

variable {key : String → String} {members : List (Member Tree)}
  {entries : List (String × Outline)}

theorem outlineMembers?_cons {member : Member Tree} :
    outlineMembers? key (member :: members) = some entries ↔
      ∃ v rest, member.value.outline? key = some v ∧ outlineMembers? key members = some rest ∧
        (key member.name, v) :: rest = entries := by
  simp [outlineMembers?, Option.bind_eq_some_iff]

/-- A compared member stands in the outline under the key of its name. -/
theorem exists_mem_of_memberAt? (hentries : outlineMembers? key members = some entries)
    {segment : String} {value : Tree} (hmember : memberAt? segment members = some value) :
    ∃ v, value.outline? key = some v ∧ (key segment, v) ∈ entries := by
  induction members generalizing entries with
  | nil => cases hmember
  | cons member members ih =>
      obtain ⟨v, rest, hv, hrest, rfl⟩ := outlineMembers?_cons.mp hentries
      by_cases hhere : member.compared = true ∧ member.name = segment
      · rw [memberAt?, if_pos hhere] at hmember
        obtain rfl := Option.some.inj hmember
        exact ⟨v, hv, hhere.2 ▸ List.mem_cons_self⟩
      · rw [memberAt?, if_neg hhere] at hmember
        obtain ⟨w, hw, hmem⟩ := ih hrest hmember
        exact ⟨w, hw, List.mem_cons_of_mem _ hmem⟩

theorem exists_member_of_mem (hentries : outlineMembers? key members = some entries)
    {entry : String × Outline} (hmem : entry ∈ entries) :
    ∃ member ∈ members,
      key member.name = entry.1 ∧ member.value.outline? key = some entry.2 := by
  induction members generalizing entries with
  | nil =>
      obtain rfl : [] = entries := by simpa [outlineMembers?] using hentries
      cases hmem
  | cons member members ih =>
      obtain ⟨v, rest, hv, hrest, rfl⟩ := outlineMembers?_cons.mp hentries
      rcases List.mem_cons.mp hmem with rfl | hlater
      · exact ⟨member, List.mem_cons_self, rfl, hv⟩
      · obtain ⟨other, hother, hentry⟩ := ih hrest hlater
        exact ⟨other, List.mem_cons_of_mem _ hother, hentry⟩

/-- What stands at a location of a tree stands at the keys of the location in its outline. -/
theorem exists_at?_outline {tree inner : Tree} {v : Outline} (htree : tree.outline? key = some v)
    (hdistinct : v.HasDistinctKeys) {location : List String}
    (hinner : tree.at? location = some inner) :
    ∃ w, inner.outline? key = some w ∧ v.at? (location.map key) = some w := by
  induction location generalizing tree v with
  | nil =>
      obtain rfl := Option.some.inj hinner
      exact ⟨v, htree, rfl⟩
  | cons segment rest ih =>
      rw [at?_cons, Option.bind_eq_some_iff] at hinner
      obtain ⟨child, hchild, hinner⟩ := hinner
      cases tree with
      | record members =>
          rw [outline?, Option.map_eq_some_iff] at htree
          obtain ⟨entries, hentries, rfl⟩ := htree
          obtain ⟨hnodup, hdeeper⟩ := Outline.hasDistinctKeys_section.mp hdistinct
          obtain ⟨part, hpart, hmem⟩ := exists_mem_of_memberAt? hentries hchild
          obtain ⟨w, hw, hat⟩ := ih hpart (hdeeper _ hmem) hinner
          have hfind := (Entries.find?_eq_some_iff hnodup).mpr hmem
          refine ⟨w, hw, ?_⟩
          rw [List.map_cons, Outline.at?, hfind]
          exact hat
      | leaf value => cases hchild
      | _ => simp [outline?] at htree

/-- Only a record has a section for its outline. -/
theorem exists_members_of_section {tree : Tree}
    (htree : tree.outline? key = some (.section entries)) :
    ∃ members, outlineMembers? key members = some entries := by
  cases tree with
  | record members =>
      rw [outline?, Option.map_eq_some_iff] at htree
      obtain ⟨others, hothers, heq⟩ := htree
      cases heq
      exact ⟨members, hothers⟩
  | leaf value => cases value <;> cases htree
  | _ => cases htree

/-- All keys in the outline of a tree are keys of names. -/
theorem exists_name_of_at? {tree : Tree} {v w : Outline} (htree : tree.outline? key = some v)
    {keys : List String} (hat : v.at? keys = some w) {k : String} (hk : k ∈ keys) :
    ∃ name, key name = k := by
  induction keys generalizing tree v with
  | nil => cases hk
  | cons first rest ih =>
      cases v with
      | number n => cases hat
      | text t => cases hat
      | «section» entries =>
          obtain ⟨members, hentries⟩ := exists_members_of_section htree
          rw [Outline.at?, Option.bind_eq_some_iff] at hat
          obtain ⟨part, hfind, hat⟩ := hat
          obtain ⟨member, -, hname, hpart⟩ :=
            exists_member_of_mem hentries (Entries.mem_of_find? hfind)
          rcases List.mem_cons.mp hk with rfl | hlater
          · exact ⟨member.name, hname⟩
          · exact ih hpart hat hlater

end Outlines

/-- Leaves of one kind that are not the same are written differently. -/
theorem exists_scalars_ne {key : String → String} {x y : Leaf} (hkind : leafKind x = leafKind y)
    (hdiffer : ¬ x.same y) {v w : Outline} (hx : outline? key (.leaf x) = some v)
    (hy : outline? key (.leaf y) = some w) :
    ∃ mine theirs, v.scalar? = some mine ∧ w.scalar? = some theirs ∧ mine ≠ theirs := by
  cases x <;> cases y <;> cases hkind
  case integer.integer m n =>
    obtain rfl := Option.some.inj hx
    obtain rfl := Option.some.inj hy
    refine ⟨toString m, toString n, rfl, rfl, fun heq => ?_⟩
    have hread := congrArg (fun text => Yaml.wholeNumber? text.toList) heq
    simp only [Yaml.wholeNumber?_toString] at hread
    exact hdiffer (by simp [Leaf.same, Option.some.inj hread])
  case text.text s t =>
    obtain rfl := Option.some.inj hx
    obtain rfl := Option.some.inj hy
    exact ⟨s, t, rfl, rfl, fun heq => hdiffer (by simp [Leaf.same, heq])⟩
  all_goals cases hx

end Tree

namespace Config

open Rollout.Tree (Shape)

/-! ### Names and keys -/

/-- The names that are shorter than the keys they stand for. -/
def shortNames : List String := ["ingestion_rate", "ingestion_burst_size", "bucket_names"]

/-- The key in the file for a name that is reported. -/
def fileKey (name : String) : String :=
  match name with
  | "ingestion_rate" => "ingestion_rate_mb"
  | "ingestion_burst_size" => "ingestion_burst_size_mb"
  | "bucket_names" => "bucketnames"
  | name => name

theorem fileKey_eq_self_iff (name : String) : fileKey name = name ↔ name ∉ shortNames := by
  unfold fileKey
  split <;> simp_all [shortNames]

/-- No key in the file is a short name. -/
theorem fileKey_notMem_shortNames (name : String) : fileKey name ∉ shortNames := by
  unfold fileKey
  split <;> simp_all [shortNames]

theorem outline?_tree (config : Config) :
    config.tree.outline? fileKey = some (.section config.outline) := rfl

theorem outline_hasDistinctKeys (config : Config) :
    (Outline.section config.outline).HasDistinctKeys := by
  simp [outline]

theorem isFixed_config : Shape.IsFixed fields (.record "config") := by
  simp [fields, leafFields, sectionField]

/-! ### Reported paths -/

/-- The scalar at some keys of the rendered file, once the file is read again. -/
def scalarAt? (config : Config) (keys : List String) : Option String :=
  (Yaml.Document.ofText? config.toYaml).bind fun document =>
    (document.item.at? keys).bind Yaml.Item.text?

theorem scalarAt?_eq (config : Config) (keys : List String) :
    config.scalarAt? keys = ((Outline.section config.outline).at? keys).bind Outline.scalar? := by
  have hne : config.outline ≠ [] := by simp [outline_eq]
  have htext := Yaml.Document.ofText?_render hne config.outline_isWellFormed
  generalize houtline : config.outline = sections at htext ⊢
  have hitem : Yaml.Document.item ⟨(Outline.section sections).node, []⟩ =
      (Outline.section sections).item := rfl
  have hscalar : Yaml.Item.text? ∘ Outline.item = Outline.scalar? := funext Outline.text?_item
  rw [scalarAt?, toYaml, houtline, htext, Option.bind_some, hitem, Outline.at?_item,
    Option.bind_map, hscalar]

/-- Keys that lead to a scalar in both rendered files, and to different ones. -/
def Located (old new : Config) (keys : List String) : Prop :=
  ∃ mine theirs,
    old.scalarAt? keys = some mine ∧ new.scalarAt? keys = some theirs ∧ mine ≠ theirs

/-- The file has nothing at keys among which a short name is. -/
theorem scalarAt?_eq_none (config : Config) {keys : List String} {name : String}
    (hname : name ∈ shortNames) (hkeys : name ∈ keys) : config.scalarAt? keys = none := by
  rw [scalarAt?_eq]
  cases hat : (Outline.section config.outline).at? keys with
  | none => rfl
  | some v =>
      obtain ⟨other, rfl⟩ := Tree.exists_name_of_at? config.outline?_tree hat hkeys
      exact absurd hname (fileKey_notMem_shortNames other)

theorem located_fileKey {old new : Config} {path : FieldPath}
    (hpath : path ∈ old.differences new) :
    Located old new (path.segments.map fileKey) := by
  obtain ⟨x, y, hx, hy, hkind, hdiffer⟩ :=
    isFixed_config.exists_leaves nodup_fields old.hasShape_tree new.hasShape_tree hpath
  obtain ⟨v, hv, hold⟩ :=
    Tree.exists_at?_outline old.outline?_tree old.outline_hasDistinctKeys hx
  obtain ⟨w, hw, hnew⟩ :=
    Tree.exists_at?_outline new.outline?_tree new.outline_hasDistinctKeys hy
  obtain ⟨mine, theirs, hmine, htheirs, hne⟩ := Tree.exists_scalars_ne hkind hdiffer hv hw
  refine ⟨mine, theirs, ?_, ?_, hne⟩
  · rw [scalarAt?_eq, hold]
    exact hmine
  · rw [scalarAt?_eq, hnew]
    exact htheirs

/-- A reported path leads to different scalars in the two files once its names are exchanged for
keys, and as it stands if and only if it has no short name. -/
theorem located_iff {old new : Config} {path : FieldPath} (hpath : path ∈ old.differences new) :
    Located old new (path.segments.map fileKey) ∧
      (Located old new path.segments ↔ ∀ name ∈ path.segments, name ∉ shortNames) := by
  have hkeys := located_fileKey hpath
  refine ⟨hkeys, ?_, ?_⟩
  · rintro ⟨mine, -, hmine, -⟩ name hname hshort
    rw [old.scalarAt?_eq_none hshort hname] at hmine
    cases hmine
  · intro hnames
    have hsame : path.segments.map fileKey = path.segments := by
      refine (List.map_congr_left fun name hname => ?_).trans (List.map_id _)
      exact (fileKey_eq_self_iff name).mpr (hnames name hname)
    rwa [hsame] at hkeys

/-! A rate is doubled. It is reported under its short name, which is no key in the file. -/

def oneMegabyte : Config := { limits := { ingestionRate := 1 } }

def twoMegabytes : Config := { limits := { ingestionRate := 2 } }

theorem ingestionRate_mem_differences :
    ⟨["limits_config", "ingestion_rate"]⟩ ∈ oneMegabyte.differences twoMegabytes := by
  have hdifferences :
      oneMegabyte.differences twoMegabytes = [⟨["limits_config", "ingestion_rate"]⟩] := by cbv
  rw [hdifferences]
  exact List.mem_singleton.mpr rfl

theorem located_iff_ingestionRate :
    ⟨["limits_config", "ingestion_rate"]⟩ ∈ oneMegabyte.differences twoMegabytes ∧
    Located oneMegabyte twoMegabytes ["limits_config", "ingestion_rate_mb"] ∧
      ¬ Located oneMegabyte twoMegabytes ["limits_config", "ingestion_rate"] := by
  obtain ⟨hkeys, hnames⟩ := located_iff ingestionRate_mem_differences
  have hshort : ¬ ∀ name ∈ ["limits_config", "ingestion_rate"], name ∉ shortNames := by decide
  exact ⟨ingestionRate_mem_differences, hkeys, fun hlocated => hshort (hnames.mp hlocated)⟩

/-- Reported paths do not always lead to scalars as they stand. -/
theorem not_located_under_reported_names :
    ¬ ∀ (old new : Config) (path : FieldPath), path ∈ old.differences new →
      Located old new path.segments := by
  intro hlocated
  obtain ⟨mine, -, hmine, -⟩ := hlocated _ _ _ ingestionRate_mem_differences
  have hshort : "ingestion_rate" ∈ shortNames := by decide
  rw [scalarAt?_eq_none _ hshort (by decide)] at hmine
  cases hmine

end Config

end Rollout
