/-!
Locations inside a document. A path displays as its names joined by dots; an index such as `[0]`
is attached to the name of its list without a dot.
-/

namespace Rollout

structure FieldPath where
  segments : List String := []
deriving DecidableEq

namespace FieldPath

def push (path : FieldPath) (segment : String) : FieldPath := ⟨path.segments ++ [segment]⟩

/-- The path without its last segment; the document root stays as it is. -/
def pop (path : FieldPath) : FieldPath := ⟨path.segments.dropLast⟩

/-- The top-level name, none for the document root. -/
def root? (path : FieldPath) : Option String := path.segments.head?

/-- The path seen from outside of a value that stands at `base`. -/
def below (base path : FieldPath) : FieldPath := ⟨base.segments ++ path.segments⟩

/-- The segment of a list position. -/
def index (position : Nat) : String := "[" ++ toString position ++ "]"

/-- A segment after the first, with the dot it needs. -/
def attach (segment : String) : String :=
  if segment.toList.head? = some '[' then segment else "." ++ segment

def display (path : FieldPath) : String :=
  match path.segments with
  | [] => ""
  | first :: rest => rest.foldl (fun text segment => text ++ attach segment) first

@[simp]
theorem pop_push (path : FieldPath) (segment : String) : (path.push segment).pop = path := by
  cases path
  simp [push, pop]

end FieldPath

end Rollout
