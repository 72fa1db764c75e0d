import Rollout.Diff.Walk

/-!
Locations in a document, and what an exact list of the differences between two documents is. A
location is named by the segments that lead to it, the ones that a comparison reports: the name of a
compared member, the position in a list, the key of a map. An optional value stands where its
content does.
-/

namespace Rollout

namespace FieldPath

theorem index_inj {first second : Nat} (heq : index first = index second) : first = second := by
  have hlists := congrArg String.toList heq
  have hdigits : Nat.toDigits 10 first = Nat.toDigits 10 second := by
    simpa [index, Nat.toString_eq_ofList_toDigits] using hlists
  have hvalues := congrArg (fun digits => Nat.ofDigitChars 10 digits 0) hdigits
  simpa only [Nat.ofDigitChars_ten_toDigits] using hvalues

end FieldPath

/-- The names of the members that take part in a comparison, in the order of declaration. -/
def comparedNames {α : Type} (members : List (Member α)) : List String :=
  (members.filter Member.compared).map Member.name

namespace Tree

mutual

/-- Equality of two documents, up to members that are not compared. -/
def Agree : Tree → Tree → Prop
  | .leaf old, .leaf new => old.same new
  | .optional none, .optional none => True
  | .optional (some old), .optional (some new) => Agree old new
  | .list old, .list new => AgreeItems old new
  | .map old, .map new => AgreeEntries old new
  | .record old, .record new => AgreeMembers old new
  | _, _ => False

def AgreeItems : List Tree → List Tree → Prop
  | [], [] => True
  | old :: olds, new :: news => Agree old new ∧ AgreeItems olds news
  | _, _ => False

def AgreeEntries : List (String × Tree) → List (String × Tree) → Prop
  | [], [] => True
  | (key, old) :: olds, (other, new) :: news => key = other ∧ Agree old new ∧ AgreeEntries olds news
  | _, _ => False

def AgreeMembers : List (Member Tree) → List (Member Tree) → Prop
  | [], [] => True
  | ⟨name, compared, old⟩ :: olds, new :: news =>
    (name = new.name ∧ compared = new.compared) ∧ (compared → Agree old new.value) ∧
      AgreeMembers olds news
  | _, _ => False

end

mutual

/-- Every leaf that takes part in a comparison equals itself, as all leaves do but for reals that
are no number. -/
def IsReflexive : Tree → Prop
  | .leaf value => value.same value
  | .optional none => True
  | .optional (some inner) => IsReflexive inner
  | .list items => AreItemsReflexive items
  | .map entries => AreEntriesReflexive entries
  | .record members => AreMembersReflexive members

def AreItemsReflexive : List Tree → Prop
  | [] => True
  | item :: rest => IsReflexive item ∧ AreItemsReflexive rest

def AreEntriesReflexive : List (String × Tree) → Prop
  | [] => True
  | (_, value) :: rest => IsReflexive value ∧ AreEntriesReflexive rest

def AreMembersReflexive : List (Member Tree) → Prop
  | [] => True
  | ⟨_, compared, value⟩ :: rest => (compared → IsReflexive value) ∧ AreMembersReflexive rest

end

mutual

/-- Equality of documents is reflexive if that of their leaves is. -/
theorem agree_self (tree : Tree) (hreflexive : tree.IsReflexive) : Agree tree tree := by
  cases tree with
  | leaf value => rwa [Agree]
  | optional inner =>
      cases inner with
      | none => simp [Agree]
      | some inner =>
          rw [Agree]
          exact agree_self inner hreflexive
  | list items =>
      rw [Agree]
      exact agreeItems_self items hreflexive
  | map entries =>
      rw [Agree]
      exact agreeEntries_self entries hreflexive
  | record members =>
      rw [Agree]
      exact agreeMembers_self members hreflexive

theorem agreeItems_self (items : List Tree) (hreflexive : AreItemsReflexive items) :
    AgreeItems items items := by
  cases items with
  | nil => simp [AgreeItems]
  | cons item rest =>
      rw [AreItemsReflexive] at hreflexive
      rw [AgreeItems]
      exact ⟨agree_self item hreflexive.1, agreeItems_self rest hreflexive.2⟩

theorem agreeEntries_self (entries : List (String × Tree))
    (hreflexive : AreEntriesReflexive entries) : AgreeEntries entries entries := by
  cases entries with
  | nil => simp [AgreeEntries]
  | cons entry rest =>
      obtain ⟨key, value⟩ := entry
      rw [AreEntriesReflexive] at hreflexive
      rw [AgreeEntries]
      exact ⟨rfl, agree_self value hreflexive.1, agreeEntries_self rest hreflexive.2⟩

theorem agreeMembers_self (members : List (Member Tree))
    (hreflexive : AreMembersReflexive members) : AgreeMembers members members := by
  cases members with
  | nil => simp [AgreeMembers]
  | cons member rest =>
      obtain ⟨name, compared, value⟩ := member
      rw [AreMembersReflexive] at hreflexive
      rw [AgreeMembers]
      exact ⟨⟨rfl, rfl⟩, fun hcompared => agree_self value (hreflexive.1 hcompared),
        agreeMembers_self rest hreflexive.2⟩

end

/-- Agreement without a look below: the same leaf, both sides present or both absent, lists of one
length. -/
def SameHead : Tree → Tree → Prop
  | .leaf old, .leaf new => old.same new
  | .optional none, .optional none => True
  | .optional (some old), .optional (some new) => SameHead old new
  | .list old, .list new => old.length = new.length
  | .map _, .map _ => True
  | .record _, .record _ => True
  | _, _ => False

/-- The item of a list under a segment, where the first item has a position. -/
def itemAt? (segment : String) : Nat → List Tree → Option Tree
  | _, [] => none
  | position, item :: rest =>
    if FieldPath.index position = segment then some item else itemAt? segment (position + 1) rest

/-- The compared member of a record under a name. -/
def memberAt? (segment : String) : List (Member Tree) → Option Tree
  | [] => none
  | ⟨name, compared, value⟩ :: rest =>
    if compared = true ∧ name = segment then some value else memberAt? segment rest

/-- The value one segment below. -/
def child? (segment : String) : Tree → Option Tree
  | .leaf _ => none
  | .optional none => none
  | .optional (some inner) => child? segment inner
  | .list items => itemAt? segment 0 items
  | .map entries => Entries.find? segment entries
  | .record members => memberAt? segment members

/-- The value at a location. -/
def at? : List String → Tree → Option Tree
  | [], tree => some tree
  | segment :: rest, tree => (tree.child? segment).bind (at? rest)

/-- Two documents agree at a location: both have a value there and the values agree, or neither has
one. -/
def AgreeAt (old new : Tree) (location : List String) : Prop :=
  Option.Rel Agree (old.at? location) (new.at? location)

/-- Two documents have a value at a location with the same head, or neither has a value there. -/
def SameHeadAt (old new : Tree) (location : List String) : Prop :=
  Option.Rel SameHead (old.at? location) (new.at? location)

/-- The order of the segments right below a value: that of positions, of keys, or of the declaration
of members. -/
def Earlier : Tree → String → String → Prop
  | .leaf _, _, _ => False
  | .optional none, _, _ => False
  | .optional (some inner), first, second => Earlier inner first second
  | .list _, first, second =>
    ∃ i j, i < j ∧ first = FieldPath.index i ∧ second = FieldPath.index j
  | .map _, first, second => first < second
  | .record members, first, second => [first, second].Sublist (comparedNames members)

/-- The order of locations in a walk: after a part in common, the first one goes on with another and
earlier segment than the second one. -/
def Precedes (tree : Tree) (first second : List String) : Prop :=
  ∃ shared left right before after value, first = shared ++ left :: before ∧
    second = shared ++ right :: after ∧ tree.at? shared = some value ∧ left ≠ right ∧
    value.Earlier left right

/-- The found locations are an exact list of the differences between two documents. -/
structure ExactCover (old new : Tree) (found : List FieldPath) : Prop where
  /-- Nothing is found exactly if the documents are equal. -/
  nothing : found = [] ↔ Agree old new
  /-- The documents differ wherever something is found. -/
  differ : ∀ path ∈ found, ¬ AgreeAt old new path.segments
  /-- No location is found twice, and none below another one. -/
  apart : found.Pairwise fun first second =>
    ¬ first.segments <+: second.segments ∧ ¬ second.segments <+: first.segments
  /-- Wherever the documents differ, something is found there, above or below. -/
  covered : ∀ location, ¬ AgreeAt old new location →
    ∃ path ∈ found, path.segments <+: location ∨ location <+: path.segments
  /-- Outside of what is found, and above it, both documents have the same values but for what lies
  below. -/
  outside : ∀ location, (∀ path ∈ found, ¬ path.segments <+: location) → SameHeadAt old new location
  /-- The locations are found in the order of a walk. -/
  ordered : found.Pairwise fun first second => old.Precedes first.segments second.segments

/-! ### Locations one segment further -/

theorem at?_cons (segment : String) (rest : List String) (tree : Tree) :
    tree.at? (segment :: rest) = (tree.child? segment).bind (at? rest) := rfl

theorem at?_cons_of_child {segment : String} {tree inner : Tree}
    (hchild : tree.child? segment = some inner) (rest : List String) :
    tree.at? (segment :: rest) = inner.at? rest := by
  rw [at?_cons, hchild, Option.bind_some]

theorem agreeAt_root (old new : Tree) : AgreeAt old new [] ↔ Agree old new := by
  constructor
  · intro hrel
    cases hrel with
    | some hagree => exact hagree
  · intro hagree
    exact .some hagree

section Child

variable {old new oldChild newChild : Tree} {segment : String}

theorem agreeAt_cons (hold : old.child? segment = some oldChild)
    (hnew : new.child? segment = some newChild) (rest : List String) :
    AgreeAt old new (segment :: rest) ↔ AgreeAt oldChild newChild rest := by
  rw [AgreeAt, at?_cons, at?_cons, hold, hnew]
  rfl

theorem sameHeadAt_cons (hold : old.child? segment = some oldChild)
    (hnew : new.child? segment = some newChild) (rest : List String) :
    SameHeadAt old new (segment :: rest) ↔ SameHeadAt oldChild newChild rest := by
  rw [SameHeadAt, at?_cons, at?_cons, hold, hnew]
  rfl

/-- Nothing is there to differ below a segment that both sides lack. -/
theorem agreeAt_of_none (hold : old.child? segment = none) (hnew : new.child? segment = none)
    (rest : List String) : AgreeAt old new (segment :: rest) := by
  rw [AgreeAt, at?_cons, at?_cons, hold, hnew]
  exact .none

theorem sameHeadAt_of_none (hold : old.child? segment = none) (hnew : new.child? segment = none)
    (rest : List String) : SameHeadAt old new (segment :: rest) := by
  rw [SameHeadAt, at?_cons, at?_cons, hold, hnew]
  exact .none

theorem not_agreeAt_removed (hold : old.child? segment = some oldChild)
    (hnew : new.child? segment = none) : ¬ AgreeAt old new [segment] := by
  rw [AgreeAt, at?_cons, at?_cons, hold, hnew]
  exact fun hrel => by cases hrel

theorem not_agreeAt_added (hold : old.child? segment = none)
    (hnew : new.child? segment = some newChild) : ¬ AgreeAt old new [segment] := by
  rw [AgreeAt, at?_cons, at?_cons, hold, hnew]
  exact fun hrel => by cases hrel

theorem Precedes.cons (hold : old.child? segment = some oldChild) {first second : List String}
    (hprecedes : oldChild.Precedes first second) :
    old.Precedes (segment :: first) (segment :: second) := by
  obtain ⟨shared, left, right, before, after, value, rfl, rfl, hvalue, hne, hearlier⟩ := hprecedes
  refine ⟨segment :: shared, left, right, before, after, value, rfl, rfl, ?_, hne, hearlier⟩
  rw [at?_cons, hold]
  exact hvalue

theorem precedes_of_earlier {left right : String} (hne : left ≠ right)
    (hearlier : old.Earlier left right) (before after : List String) :
    old.Precedes (left :: before) (right :: after) :=
  ⟨[], left, right, before, after, old, rfl, rfl, rfl, hne, hearlier⟩

end Child

/-- Locations that a walk comes to one after the other do not contain each other. -/
theorem Precedes.apart {tree : Tree} {first second : List String}
    (hprecedes : tree.Precedes first second) : ¬ first <+: second ∧ ¬ second <+: first := by
  obtain ⟨shared, left, right, before, after, value, rfl, rfl, -, hne, -⟩ := hprecedes
  constructor
  · intro hprefix
    have hcons := (List.prefix_append_right_inj shared).mp hprefix
    exact hne (List.cons_prefix_cons.mp hcons).1
  · intro hprefix
    have hcons := (List.prefix_append_right_inj shared).mp hprefix
    exact hne (List.cons_prefix_cons.mp hcons).1.symm

end Tree

end Rollout
