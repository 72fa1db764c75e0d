import Mathlib.Data.List.Forall2
import Mathlib.Data.List.Nodup
import Mathlib.Logic.Relation
import Rollout.Proofs.Yaml.Overlook

/-!
Changes of a document that its readers overlook: entries in another order, entries under keys that a
section does not know, and fields of a section that hold their default. Where a section may stand is
told by the outline of its defaults. The anchors of a document are overlooked as well in a tree that
has no references.
-/

namespace Rollout.Yaml

open Fields (occurrences occurrences_append occurrences_cons occurrences_eq_nil_of_notMem)

namespace Node

/-- One mapping of a tree has its entries in another order. -/
inductive Reordered : Node → Node → Prop
  | here {old new : List (Node × Node)} : old.Perm new → Reordered (.mapping old) (.mapping new)
  | item {before after : List Node} {old new : Node} : Reordered old new →
      Reordered (.sequence (before ++ old :: after)) (.sequence (before ++ new :: after))
  | key {before after : List (Node × Node)} {old new value : Node} : Reordered old new →
      Reordered (.mapping (before ++ (old, value) :: after))
        (.mapping (before ++ (new, value) :: after))
  | value {before after : List (Node × Node)} {key old new : Node} : Reordered old new →
      Reordered (.mapping (before ++ (key, old) :: after))
        (.mapping (before ++ (key, new) :: after))

/-- Whether a node can be read as a text. A reference can, because it may lead to it. -/
def MayRead (text : String) : Node → Prop
  | .scalar _ _ other => other = text
  | .alias _ => True
  | _ => False

mutual

/-- Whether a tree has no references. -/
def isAliasFree : Node → Bool
  | .scalar .. => true
  | .alias _ => false
  | .sequence items => areAliasFree items
  | .mapping entries => areEntriesAliasFree entries

def areAliasFree : List Node → Bool
  | [] => true
  | item :: rest => item.isAliasFree && areAliasFree rest

def areEntriesAliasFree : List (Node × Node) → Bool
  | [] => true
  | (key, value) :: rest => key.isAliasFree && value.isAliasFree && areEntriesAliasFree rest

end

end Node

/-- One change of a tree that stands where a section does, or one of its fields: a mapping anywhere
in it is reordered; a section gets an entry with a scalar key that it does not know, or one that
gives a missing field its default; or the value of a field is changed in such a way. -/
inductive Noise : Outline → Node → Node → Prop
  | reordered {outline : Outline} {old new : Node} : old.Reordered new → Noise outline old new
  | unknown {known : List (String × Outline)} {before after : List (Node × Node)} {value : Node}
      (style : Style) (tag : Option String) (key : String) : key ∉ known.map Prod.fst →
      Noise (.section known) (.mapping (before ++ after))
        (.mapping (before ++ (.scalar style tag key, value) :: after))
  | missing {known : List (String × Outline)} {before after : List (Node × Node)} {value : Node}
      {default : Outline} (style : Style) (tag : Option String) (key : String) :
      (key, default) ∈ known → default.Stands ⟨[], value⟩ →
      (∀ entry ∈ before ++ after, ¬ entry.1.MayRead key) →
      Noise (.section known) (.mapping (before ++ after))
        (.mapping (before ++ (.scalar style tag key, value) :: after))
  | field {known : List (String × Outline)} {before after : List (Node × Node)} {old new : Node}
      {default : Outline} (style : Style) (tag : Option String) (key : String) :
      (key, default) ∈ known → Noise default old new →
      Noise (.section known) (.mapping (before ++ (.scalar style tag key, old) :: after))
        (.mapping (before ++ (.scalar style tag key, new) :: after))

/-! ### What a reader sees of a node -/

namespace Item

section Resolved

variable {v w : Item}

theorem text?_congr (hsame : v.resolve? = w.resolve?) : v.text? = w.text? := by
  rw [text?, text?, hsame]

theorem integer?_congr (hsame : v.resolve? = w.resolve?) : v.integer? = w.integer? := by
  simp only [integer?, plainText?, hsame]

/-- Where no text is, no number is either. -/
theorem integer?_eq_none (htext : v.text? = none) : v.integer? = none := by
  have hplain : v.plainText? "tag:yaml.org,2002:int" = none := by
    unfold text? at htext
    unfold plainText?
    split <;> simp_all
  rw [integer?, hplain]
  rfl

end Resolved

/-- An entry of a mapping as a reader is given it. -/
def pair? (anchors : List (Nat × Node)) (entry : Node × Node) : Option (String × Item) :=
  (Item.mk anchors entry.1).text?.bind fun key => some (key, ⟨anchors, entry.2⟩)

theorem entries?_mapping (anchors : List (Nat × Node)) (entries : List (Node × Node)) :
    (Item.mk anchors (.mapping entries)).entries? = entries.mapM (pair? anchors) := rfl

theorem pair?_scalar (anchors : List (Nat × Node)) (style : Style) (tag : Option String)
    (key : String) (value : Node) :
    pair? anchors (.scalar style tag key, value) = some (key, ⟨anchors, value⟩) := rfl

/-- A key that is read as a text may be read so. -/
theorem mayRead_of_pair? {anchors : List (Nat × Node)} {entry : Node × Node} {read : String × Item}
    (hread : pair? anchors entry = some read) : entry.1.MayRead read.1 := by
  obtain ⟨key, hkey, hvalue⟩ := Option.bind_eq_some_iff.mp hread
  obtain rfl := Option.some.inj hvalue
  obtain ⟨node, value⟩ := entry
  cases node with
  | scalar style tag text => exact Option.some.inj hkey
  | sequence items => cases hkey
  | mapping entries => cases hkey
  | «alias» target => trivial

theorem eq_nil_of_mapM {α β : Type} {f : α → Option β} {xs : List α} (hread : xs.mapM f = some []) :
    xs = [] := by
  cases xs with
  | nil => rfl
  | cons x rest =>
      rw [List.mapM_cons] at hread
      obtain ⟨first, -, hrest⟩ := Option.bind_eq_some_iff.mp hread
      obtain ⟨others, -, hcons⟩ := Option.bind_eq_some_iff.mp hrest
      cases hcons

theorem entries?_eq_nil_congr {v w : Item} (hsame : v.resolve? = w.resolve?)
    (hnil : v.entries? = some []) : w.entries? = some [] := by
  unfold entries? at hnil ⊢
  rw [← hsame]
  split at hnil
  · rw [eq_nil_of_mapM hnil]
    rfl
  · rfl
  · cases hnil

/-- What a default stands for does not depend on anchors. -/
theorem stands_of_nil {default : Outline} {value : Node} (hstands : default.Stands ⟨[], value⟩)
    (anchors : List (Nat × Node)) : default.Stands ⟨anchors, value⟩ := by
  have hsame : (Item.mk [] value).resolve? = (Item.mk anchors value).resolve? := by
    cases value with
    | scalar style tag text => rfl
    | sequence items => rfl
    | mapping entries => rfl
    | «alias» target => cases default <;> cases hstands
  cases default with
  | number n => exact (integer?_congr hsame).symm.trans hstands
  | text t => exact (text?_congr hsame).symm.trans hstands
  | «section» known => exact entries?_eq_nil_congr hsame hstands

end Item
/-! ### Reading entries that changed -/

section Lists

variable {α β γ δ : Type}

theorem mapM_rel {S : γ → δ → Prop} {f : α → Option γ} {g : β → Option δ} {xs : List α}
    {ys : List β} (hrel : List.Forall₂ (fun x y => Option.Rel S (f x) (g y)) xs ys) :
    Option.Rel (List.Forall₂ S) (xs.mapM f) (ys.mapM g) := by
  induction hrel with
  | nil => exact .some .nil
  | @cons x y xs ys hhead htail ih =>
      rw [List.mapM_cons, List.mapM_cons]
      generalize f x = first at hhead
      generalize g y = second at hhead
      generalize xs.mapM f = firsts at ih
      generalize ys.mapM g = seconds at ih
      cases hhead with
      | none => exact .none
      | some hhead =>
          cases ih with
          | none => exact .none
          | some ih => exact .some (.cons hhead ih)

theorem mapM_perm {f : α → Option β} {xs ys : List α} (hperm : xs.Perm ys) :
    Option.Rel List.Perm (xs.mapM f) (ys.mapM f) := by
  induction hperm with
  | nil => exact .some .nil
  | @cons x xs ys _ ih =>
      rw [List.mapM_cons, List.mapM_cons]
      generalize xs.mapM f = firsts at ih
      generalize ys.mapM f = seconds at ih
      cases f x with
      | none => exact .none
      | some first =>
          cases ih with
          | none => exact .none
          | some ih => exact .some (ih.cons first)
  | swap x y rest =>
      simp only [List.mapM_cons]
      cases f x with
      | none => cases f y <;> exact .none
      | some first =>
          cases f y with
          | none => exact .none
          | some second =>
              cases rest.mapM f with
              | none => exact .none
              | some others => exact .some (.swap first second others)
  | @trans xs ys zs _ _ ih₁ ih₂ =>
      generalize xs.mapM f = first at ih₁
      generalize ys.mapM f = second at ih₁ ih₂
      generalize zs.mapM f = third at ih₂
      cases ih₁ with
      | none => exact ih₂
      | some hfirst =>
          cases ih₂ with
          | some hsecond => exact .some (hfirst.trans hsecond)

/-- One more element that can be read does not change how the others are read. -/
theorem mapM_insert {f : α → Option β} {before after : List α} {x : α} {y : β}
    (hread : f x = some y) :
    Option.Rel
      (fun old new => ∃ front back, before.mapM f = some front ∧ after.mapM f = some back ∧
        old = front ++ back ∧ new = front ++ y :: back)
      ((before ++ after).mapM f) ((before ++ x :: after).mapM f) := by
  rw [List.mapM_append, List.mapM_append, List.mapM_cons, hread]
  cases before.mapM f with
  | none => exact .none
  | some front =>
      cases after.mapM f with
      | none => exact .none
      | some back => exact .some ⟨front, back, rfl, rfl, rfl, rfl⟩

theorem rel_imp {R S : α → β → Prop} {x : Option α} {y : Option β}
    (himp : ∀ a b, R a b → S a b) (hrel : Option.Rel R x y) : Option.Rel S x y := by
  cases hrel with
  | none => exact .none
  | some hrel => exact .some (himp _ _ hrel)

theorem exists_of_mem_mapM {f : α → Option β} {xs : List α} {ys : List β}
    (hread : xs.mapM f = some ys) : ∀ y ∈ ys, ∃ x ∈ xs, f x = some y := by
  induction xs generalizing ys with
  | nil =>
      obtain rfl := Option.some.inj hread
      intro y hmem
      cases hmem
  | cons x rest ih =>
      rw [List.mapM_cons] at hread
      obtain ⟨first, hfirst, hrest⟩ := Option.bind_eq_some_iff.mp hread
      obtain ⟨others, hothers, hcons⟩ := Option.bind_eq_some_iff.mp hrest
      obtain rfl := Option.some.inj hcons
      intro y hmem
      rcases List.mem_cons.mp hmem with rfl | hmem
      · exact ⟨x, List.mem_cons_self, hfirst⟩
      · obtain ⟨z, hz, hread⟩ := ih hothers y hmem
        exact ⟨z, List.mem_cons_of_mem x hz, hread⟩

end Lists

section Known

variable {R : Outline → Item → Item → Prop} {known : List (String × Outline)}

/-- Entries of one key, whose values are related if a section knows the key. -/
def SameKey (R : Outline → Item → Item → Prop) (known : List (String × Outline))
    (old new : String × Item) : Prop :=
  old.1 = new.1 ∧ ∀ field ∈ known, field.1 = old.1 → R field.2 old.2 new.2

theorem AlikeIn.refl (entries : List (String × Item)) : AlikeIn R known entries entries :=
  fun _ _ => .reordered (.refl _)

theorem AlikeIn.of_perm {old new : List (String × Item)} (hperm : old.Perm new) :
    AlikeIn R known old new :=
  fun _ _ => .reordered (hperm.filterMap _)

theorem AlikeIn.of_sameKey {old new : List (String × Item)}
    (hsame : List.Forall₂ (SameKey R known) old new) : AlikeIn R known old new := by
  intro field hfield
  refine .related (List.rel_filterMap ?_ hsame)
  intro first second hentry
  obtain ⟨hkey, hrel⟩ := hentry
  simp only [← hkey]
  split
  · next heq => exact .some (hrel field hfield heq.symm)
  · exact .none

end Known

/-! ### A tree without references under other anchors -/

/-- The same tree, which has no references. -/
def SameTree (_ : Outline) (v w : Item) : Prop := v.node = w.node ∧ v.node.isAliasFree

theorem Item.resolve?_of_isAliasFree {node : Node} (hfree : node.isAliasFree)
    (anchors : List (Nat × Node)) : (Item.mk anchors node).resolve? = some node := by
  cases node with
  | scalar style tag text => rfl
  | sequence items => rfl
  | mapping entries => rfl
  | «alias» target => cases hfree

theorem SameTree.resolve? {outline : Outline} {v w : Item} (hsame : SameTree outline v w) :
    v.resolve? = w.resolve? := by
  obtain ⟨anchors, node⟩ := v
  obtain ⟨others, other⟩ := w
  obtain ⟨rfl, hfree⟩ := hsame
  rw [Item.resolve?_of_isAliasFree hfree, Item.resolve?_of_isAliasFree hfree]

theorem isAliasFree_of_mem {entries : List (Node × Node)}
    (hfree : Node.areEntriesAliasFree entries) :
    ∀ entry ∈ entries, entry.1.isAliasFree ∧ entry.2.isAliasFree := by
  induction entries with
  | nil =>
      intro entry hmem
      cases hmem
  | cons first rest ih =>
      obtain ⟨key, value⟩ := first
      simp only [Node.areEntriesAliasFree, Bool.and_eq_true] at hfree
      intro entry hmem
      rcases List.mem_cons.mp hmem with rfl | hmem
      · exact hfree.1
      · exact ih hfree.2 entry hmem

theorem SameTree.pair? {known : List (String × Outline)} {entry : Node × Node}
    (hfree : entry.1.isAliasFree ∧ entry.2.isAliasFree) (anchors others : List (Nat × Node)) :
    Option.Rel (SameKey SameTree known) (Item.pair? anchors entry) (Item.pair? others entry) := by
  have hkey : SameTree (.text "") ⟨anchors, entry.1⟩ ⟨others, entry.1⟩ := ⟨rfl, hfree.1⟩
  unfold Item.pair?
  rw [Item.text?_congr hkey.resolve?]
  cases (Item.mk others entry.1).text? with
  | none => exact .none
  | some key => exact .some ⟨rfl, fun _ _ _ => ⟨rfl, hfree.2⟩⟩

theorem unseen_sameTree : Unseen SameTree := by
  constructor
  case integer =>
    intro n v w hsame
    exact Item.integer?_congr hsame.resolve?
  case text =>
    intro t v w hsame
    exact Item.text?_congr hsame.resolve?
  case entries =>
    intro known v w _ hsame
    have hresolve := hsame.resolve?
    obtain ⟨anchors, node⟩ := v
    obtain ⟨others, other⟩ := w
    obtain ⟨rfl, hfree⟩ := hsame
    cases node with
    | scalar style tag text =>
        rw [Item.entries?_scalar, Item.entries?_scalar]
        split
        · exact .some (.refl [])
        · exact .none
    | sequence items => exact .none
    | «alias» target => cases hfree
    | mapping entries =>
        rw [Item.entries?_mapping, Item.entries?_mapping]
        refine rel_imp (fun _ _ => AlikeIn.of_sameKey) (mapM_rel (List.forall₂_same.mpr ?_))
        intro entry hmem
        exact SameTree.pair? (isAliasFree_of_mem hfree entry hmem) anchors others

/-! ### Noise under the same anchors -/

/-- The same tree, or one that noise changed, under the same anchors. -/
def Noise.Between (outline : Outline) (v w : Item) : Prop :=
  v.anchors = w.anchors ∧ (v.node = w.node ∨ Noise outline v.node w.node)

theorem Noise.Between.refl (outline : Outline) (v : Item) : Noise.Between outline v v :=
  ⟨rfl, .inl rfl⟩

/-- A mapping somewhere in a node makes it no scalar. -/
theorem Node.Reordered.text?_eq_none {old new : Node} (hnode : old.Reordered new)
    (anchors : List (Nat × Node)) :
    (Item.mk anchors old).text? = none ∧ (Item.mk anchors new).text? = none := by
  cases hnode <;> exact ⟨rfl, rfl⟩

section Entries

variable {known : List (String × Outline)} {anchors : List (Nat × Node)}
  {before after : List (Node × Node)}

theorem sameKey_refl (entry : Node × Node) :
    Option.Rel (SameKey Noise.Between known) (Item.pair? anchors entry)
      (Item.pair? anchors entry) := by
  cases Item.pair? anchors entry with
  | none => exact .none
  | some read => exact .some ⟨rfl, fun _ _ _ => .refl _ _⟩

/-- One entry that stays under its key. -/
theorem entries_changed {old new : Node × Node}
    (hentry : Option.Rel (SameKey Noise.Between known) (Item.pair? anchors old)
      (Item.pair? anchors new)) :
    Option.Rel (AlikeIn Noise.Between known)
      (Item.mk anchors (.mapping (before ++ old :: after))).entries?
      (Item.mk anchors (.mapping (before ++ new :: after))).entries? := by
  have hsame : ∀ entries : List (Node × Node), List.Forall₂
      (fun x y => Option.Rel (SameKey Noise.Between known) (Item.pair? anchors x)
        (Item.pair? anchors y)) entries entries :=
    fun entries => List.forall₂_same.mpr fun entry _ => sameKey_refl entry
  rw [Item.entries?_mapping, Item.entries?_mapping]
  refine rel_imp (fun _ _ => AlikeIn.of_sameKey) (mapM_rel ?_)
  exact List.rel_append (hsame before) (.cons hentry (hsame after))

theorem entries_reordered {old new : Node} (hnode : old.Reordered new) :
    Option.Rel (AlikeIn Noise.Between known) (Item.mk anchors old).entries?
      (Item.mk anchors new).entries? := by
  cases hnode with
  | here hperm =>
      rw [Item.entries?_mapping, Item.entries?_mapping]
      exact rel_imp (fun _ _ => AlikeIn.of_perm) (mapM_perm hperm)
  | item _ => exact .none
  | key hkey =>
      obtain ⟨hold, hnew⟩ := hkey.text?_eq_none anchors
      apply entries_changed
      rw [Item.pair?, Item.pair?, hold, hnew]
      exact .none
  | @value _ _ key old new hvalue =>
      apply entries_changed
      unfold Item.pair?
      cases (Item.mk anchors key).text? with
      | none => exact .none
      | some read => exact .some ⟨rfl, fun _ _ _ => ⟨rfl, .inr (.reordered hvalue)⟩⟩

theorem entries_unknown {value : Node} (style : Style) (tag : Option String) {key : String}
    (hunknown : key ∉ known.map Prod.fst) :
    Option.Rel (AlikeIn Noise.Between known) (Item.mk anchors (.mapping (before ++ after))).entries?
      (Item.mk anchors
        (.mapping (before ++ (.scalar style tag key, value) :: after))).entries? := by
  rw [Item.entries?_mapping, Item.entries?_mapping]
  refine rel_imp ?_ (mapM_insert (Item.pair?_scalar anchors style tag key value))
  rintro _ _ ⟨front, back, _, _, rfl, rfl⟩ field hfield
  have hne : key ≠ field.1 := by
    rintro rfl
    exact hunknown (List.mem_map_of_mem hfield)
  rw [occurrences_append, occurrences_append, occurrences_cons, if_neg hne, List.nil_append]
  exact .reordered (.refl _)

theorem entries_missing {value : Node} {default : Outline} (style : Style) (tag : Option String)
    {key : String} (hnodup : (known.map Prod.fst).Nodup) (hknown : (key, default) ∈ known)
    (hstands : default.Stands ⟨[], value⟩)
    (hmissing : ∀ entry ∈ before ++ after, ¬ entry.1.MayRead key) :
    Option.Rel (AlikeIn Noise.Between known) (Item.mk anchors (.mapping (before ++ after))).entries?
      (Item.mk anchors
        (.mapping (before ++ (.scalar style tag key, value) :: after))).entries? := by
  have hnone : ∀ {part : List (Node × Node)} {read : List (String × Item)},
      part ⊆ before ++ after → part.mapM (Item.pair? anchors) = some read →
        occurrences read key = [] := by
    intro part read hpart hread
    refine occurrences_eq_nil_of_notMem fun hkey => ?_
    obtain ⟨entry, hmem, rfl⟩ := List.mem_map.mp hkey
    obtain ⟨node, hnode, hentry⟩ := exists_of_mem_mapM hread entry hmem
    exact hmissing node (hpart hnode) (Item.mayRead_of_pair? hentry)
  rw [Item.entries?_mapping, Item.entries?_mapping]
  refine rel_imp ?_ (mapM_insert (Item.pair?_scalar anchors style tag key value))
  rintro _ _ ⟨front, back, hfront, hback, rfl, rfl⟩ field hfield
  rw [occurrences_append, occurrences_append, occurrences_cons]
  by_cases hkey : key = field.1
  · obtain rfl : (key, default) = field := List.inj_on_of_nodup_map hnodup hknown hfield hkey
    rw [hnone (List.subset_append_left before after) hfront,
      hnone (List.subset_append_right before after) hback, if_pos rfl]
    exact .default (Item.stands_of_nil hstands anchors)
  · rw [if_neg hkey, List.nil_append]
    exact .reordered (.refl _)

theorem entries_field {old new : Node} {default : Outline} (style : Style) (tag : Option String)
    {key : String} (hnodup : (known.map Prod.fst).Nodup) (hknown : (key, default) ∈ known)
    (hnoise : Noise default old new) :
    Option.Rel (AlikeIn Noise.Between known)
      (Item.mk anchors (.mapping (before ++ (.scalar style tag key, old) :: after))).entries?
      (Item.mk anchors (.mapping (before ++ (.scalar style tag key, new) :: after))).entries? := by
  apply entries_changed
  rw [Item.pair?_scalar, Item.pair?_scalar]
  refine .some ⟨rfl, ?_⟩
  intro field hfield hkey
  obtain rfl : field = (key, default) := List.inj_on_of_nodup_map hnodup hfield hknown hkey
  exact ⟨rfl, .inr hnoise⟩

end Entries

theorem unseen_noise : Unseen Noise.Between := by
  constructor
  case integer =>
    rintro n ⟨anchors, node⟩ ⟨_, other⟩ ⟨rfl, hsame | hnoise⟩
    · rw [show node = other from hsame]
    · cases hnoise with
      | reordered hnode =>
          obtain ⟨hold, hnew⟩ := hnode.text?_eq_none anchors
          rw [Item.integer?_eq_none hold, Item.integer?_eq_none hnew]
  case text =>
    rintro t ⟨anchors, node⟩ ⟨_, other⟩ ⟨rfl, hsame | hnoise⟩
    · rw [show node = other from hsame]
    · cases hnoise with
      | reordered hnode =>
          obtain ⟨hold, hnew⟩ := hnode.text?_eq_none anchors
          rw [hold, hnew]
  case entries =>
    rintro known ⟨anchors, node⟩ ⟨_, other⟩ hnodup ⟨rfl, hsame | hnoise⟩
    · obtain rfl : node = other := hsame
      cases (Item.mk anchors node).entries? with
      | none => exact .none
      | some entries => exact .some (.refl entries)
    · cases hnoise with
      | reordered hnode => exact entries_reordered hnode
      | unknown style tag key hunknown => exact entries_unknown style tag hunknown
      | missing style tag key hknown hstands hmissing =>
          exact entries_missing style tag hnodup hknown hstands hmissing
      | field style tag key hknown hinner => exact entries_field style tag hnodup hknown hinner

/-! ### Whole documents -/

/-- A codec that overlooks every relation that is unseen reads the same from documents which differ
in noise and anchors. -/
theorem read_eq_of_noise {α : Type} {codec : Codec α} {outline : Outline} {default : α}
    (hcodec : ∀ {R}, Unseen R → codec.Overlooks R outline default) {before after : Document}
    (hfree : before.root.isAliasFree)
    (hnoise : Relation.EqvGen (Noise outline) before.root after.root) :
    codec.read before.item = codec.read after.item := by
  have hsteps : ∀ old new : Node, Relation.EqvGen (Noise outline) old new →
      codec.read (Item.mk after.anchors old) = codec.read (Item.mk after.anchors new) := by
    intro old new hsteps
    induction hsteps with
    | rel old new hstep => exact (hcodec unseen_noise).related ⟨rfl, .inr hstep⟩
    | refl node => rfl
    | symm old new _ ih => exact ih.symm
    | trans first second third _ _ ih₁ ih₂ => exact ih₁.trans ih₂
  calc codec.read (Item.mk before.anchors before.root)
      = codec.read (Item.mk after.anchors before.root) :=
        (hcodec unseen_sameTree).related ⟨rfl, hfree⟩
    _ = codec.read (Item.mk after.anchors after.root) := hsteps _ _ hnoise

end Rollout.Yaml
