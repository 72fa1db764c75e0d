import Rollout.Log.Event
import Rollout.Log.Rule

/-!
Filters, which say for each entry how urgent it has to be. A filter is written as rules with commas
between them. Of the rules that are about an entry the most specific one decides: the one with the
longest target, then one that asks for a detail, and of two equal ones the later one.
-/

namespace Rollout.Log

namespace Rule

/-- Whether a rule is about an entry. Entries belong to no span, and their values are not looked
at. -/
def covers (rule : Rule) (event : Event) : Bool :=
  rule.span.isNone && rule.target.toList.isPrefixOf event.target.toList &&
    match rule.detail with
    | some detail => detail.value.isNone && event.details.contains detail.name
    | none => true

/-- Whether a rule decides where both are about an entry and the other one comes first. Two targets
of the same length are then equal, and two details are compared by name. -/
def supersedes (rule other : Rule) : Bool :=
  if rule.target.length ≠ other.target.length then other.target.length < rule.target.length
  else
    match rule.detail, other.detail with
    | some detail, some before => before.name ≤ detail.name
    | none, some _ => false
    | _, none => true

end Rule

structure Filter where
  rules : List Rule

namespace Filter

/-- The filter where none is given. -/
def standard : Filter := ⟨[{ threshold := some .info }]⟩

/-- The filter of no rules. -/
def urgentOnly : Filter := ⟨[{ threshold := some .error }]⟩

/-- Reads a filter; empty rules are skipped. -/
def ofText? (text : String) : Option Filter := do
  let parts := (Text.pieces ',' text.toList).filter (!·.isEmpty)
  let rules ← parts.mapM fun part => Rule.ofText? (String.ofList part)
  return if rules.isEmpty then urgentOnly else ⟨rules⟩

/-- The rule that decides about an entry. -/
def ruleFor? (filter : Filter) (event : Event) : Option Rule :=
  (filter.rules.filter (·.covers event)).foldl (fun best rule =>
    match best with
    | some other => if rule.supersedes other then some rule else some other
    | none => some rule) none

/-- Whether an entry passes; one that no rule is about does not. -/
def admits (filter : Filter) (event : Event) : Bool :=
  match filter.ruleFor? event with
  | some rule => rule.threshold.admits event.level
  | none => false

end Filter

end Rollout.Log
