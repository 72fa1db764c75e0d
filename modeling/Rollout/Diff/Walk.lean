import Rollout.Diff.Tree

/-!
The comparison of two documents, walked in lock-step. The walk carries the path of the value at
hand and the paths reported so far: it pushes a segment before it descends and pops it afterwards.

Two leaves are reported when they differ, an optional value when one side lacks it, a list when the
lengths differ, and a key of a map when one side lacks it. Members that are not compared are passed
over.
-/

namespace Rollout

/-- The place of a walk and what it has found. -/
structure Walk where
  path : FieldPath := {}
  /-- The reported paths, in the order of detection. -/
  reports : List FieldPath := []

namespace Walk

def push (walk : Walk) (segment : String) : Walk := { walk with path := walk.path.push segment }

def pop (walk : Walk) : Walk := { walk with path := walk.path.pop }

/-- Reports the path of the value at hand. -/
def report (walk : Walk) : Walk := { walk with reports := walk.reports ++ [walk.path] }

/-- Reports the value under a name below the value at hand. -/
def reportAt (walk : Walk) (segment : String) : Walk := (walk.push segment).report.pop

/-- The top-level names of the reported paths, in the order of first detection. A difference at
the root has none. -/
def roots (walk : Walk) : List String := (walk.reports.filterMap FieldPath.root?).eraseDups

end Walk

namespace Tree

mutual

/-- Compares two documents of one shape. -/
def walk : Tree → Tree → Walk → Walk
  | .leaf old, .leaf new, w => if old.same new then w else w.report
  | .optional (some old), .optional (some new), w => walk old new w
  | .optional none, .optional none, w => w
  | .optional _, .optional _, w => w.report
  | .list old, .list new, w =>
    if old.length = new.length then walkItems 0 old new w else w.report
  | .map old, .map new, w => walkEntries old new w
  | .record old, .record new, w => walkMembers old new w
  | _, _, w => w

/-- Compares the items of two lists from a position on. -/
def walkItems (position : Nat) : List Tree → List Tree → Walk → Walk
  | old :: olds, new :: news, w =>
    walkItems (position + 1) olds news (walk old new (w.push (FieldPath.index position))).pop
  | _, _, w => w

/-- Compares the members of two records in their order. -/
def walkMembers : List (Member Tree) → List (Member Tree) → Walk → Walk
  | ⟨name, compared, old⟩ :: olds, new :: news, w =>
    walkMembers olds news
      (if compared then (walk old new.value (w.push name)).pop else w)
  | _, _, w => w

/-- Compares two maps key by key in ascending order. Keys that only the second map has are reported
where they fall between those of the first. -/
def walkEntries : List (String × Tree) → List (String × Tree) → Walk → Walk
  | [], news, w => news.foldl (fun w entry => w.reportAt entry.1) w
  | (key, old) :: olds, news, w =>
    let (before, rest) := news.span fun entry => decide (entry.1 < key)
    let w := before.foldl (fun w entry => w.reportAt entry.1) w
    match rest with
    | [] => walkEntries olds [] (w.reportAt key)
    | (next, new) :: news =>
      if next = key then walkEntries olds news (walk old new (w.push key)).pop
      else walkEntries olds ((next, new) :: news) (w.reportAt key)

end

/-- The paths of all differences between two documents, in the order of detection. -/
def differences (old new : Tree) : List FieldPath := (walk old new {}).reports

/-- The top-level names under which two documents differ. -/
def changedSections (old new : Tree) : List String := (walk old new {}).roots

end Tree

end Rollout
