/-!
How urgent a log entry is.
-/

namespace Rollout.Log

inductive Level where
  | error
  | warn
  | info
  | debug
  | trace
deriving DecidableEq, Repr

namespace Level

/-- Levels from the most urgent one on. -/
def all : List Level := [error, warn, info, debug, trace]

def name : Level → String
  | .error => "ERROR"
  | .warn => "WARN"
  | .info => "INFO"
  | .debug => "DEBUG"
  | .trace => "TRACE"

/-- The place of a level, one for the most urgent. -/
def rank : Level → Nat
  | .error => 1
  | .warn => 2
  | .info => 3
  | .debug => 4
  | .trace => 5

end Level

/-- The least urgent level that passes; none lets nothing pass. -/
abbrev Threshold := Option Level

namespace Threshold

/-- Whether entries of a level pass. -/
def admits : Threshold → Level → Bool
  | some least, level => level.rank ≤ least.rank
  | none, _ => false

/-- A number of levels, the most urgent ones. -/
def ofNumber? (count : Nat) : Option Threshold :=
  if count = 0 then some none else (Level.all[count - 1]?).map some

/-- A number, which may have a plus sign and leading zeros. -/
def number? (text : List Char) : Option Nat :=
  let digits := match text with
    | '+' :: rest => rest
    | all => all
  if digits.isEmpty || !digits.all Char.isDigit then none
  else some (digits.foldl (fun value digit => value * 10 + (digit.toNat - 48)) 0)

/-- The name of a level in any case, `off`, or a number up to five. -/
def ofText? (text : String) : Option Threshold :=
  match number? text.toList with
  | some count => ofNumber? count
  | none =>
    let word := text.map Char.toUpper
    if word = "OFF" then some none
    else (Level.all.find? (·.name = word)).map some

end Threshold

end Rollout.Log
