/-!
The closed set of components that make up a Loki installation. Their order here is the order of
every per-component listing.
-/

namespace Rollout

inductive Component where
  | compactor
  | distributor
  | ingester
  | querier
  | queryFrontend
deriving DecidableEq, Repr

namespace Component

/-- Every component once, in listing order. -/
def all : List Component := [.compactor, .distributor, .ingester, .querier, .queryFrontend]

/-- The name used in documents, labels and comparison results. -/
def name : Component → String
  | .compactor => "compactor"
  | .distributor => "distributor"
  | .ingester => "ingester"
  | .querier => "querier"
  | .queryFrontend => "query-frontend"

/-- The name used in log events. -/
def title : Component → String
  | .compactor => "Compactor"
  | .distributor => "Distributor"
  | .ingester => "Ingester"
  | .querier => "Querier"
  | .queryFrontend => "QueryFrontend"

/-- The component of a document name. Names match exactly. -/
def ofName? (text : String) : Option Component := all.find? (·.name = text)

/-- Singletons never run more than one replica. -/
def isSingleton : Component → Bool
  | .compactor => true
  | _ => false

theorem mem_all (component : Component) : component ∈ all := by cases component <;> decide

theorem ofName?_name (component : Component) : ofName? component.name = some component := by
  cases component <;> decide

end Component

end Rollout
