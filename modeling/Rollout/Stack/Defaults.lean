import Rollout.Kube.Container
import Rollout.Stack.Spec

/-!
What each size comes with: the loosest layer of settings, and the computing resources of the
components.
-/

namespace Rollout.Stack

/-- The ingestion limits that all sizes share. -/
def IngestionLimits.common : IngestionLimits where
  maxLabelNameLength := some 1024
  maxLabelValueLength := some 2048
  maxLabelNamesPerSeries := some 30
  maxGlobalStreamsPerTenant := some 10000
  maxLineSize := some 256000

/-- The query limits that all sizes share. -/
def QueryLimits.common : QueryLimits where
  maxEntriesLimitPerQuery := some 5000
  maxChunksPerQuery := some 2000000
  maxQuerySeries := some 500

namespace Size

def replicationFactor : Size → Int32
  | .extraSmall => 1
  | .small => 2
  | .medium => 3

def ingestionRate : Size → Int32
  | .extraSmall => 20
  | .small => 10
  | .medium => 10

def ingestionBurstSize : Size → Int32
  | .extraSmall => 10
  | .small => 20
  | .medium => 20

def replicas : Size → Component → Int32
  | _, .compactor => 1
  | .extraSmall, _ => 1
  | .small, _ => 2
  | .medium, .ingester => 3
  | .medium, .querier => 3
  | .medium, _ => 2

/-- The loosest layer of settings. -/
def defaults (size : Size) : Spec where
  size := some size
  replicationFactor := some size.replicationFactor
  limits := {
    globals := {
      ingestionLimits := { IngestionLimits.common with
        ingestionRate := some size.ingestionRate
        ingestionBurstSize := some size.ingestionBurstSize }
      queryLimits := QueryLimits.common } }
  template := .assign fun component => { replicas := some (size.replicas component) }

end Size

/-- The computing resources of a component, and the size of its volume if it has one. -/
structure Resources where
  requirements : Kube.ResourceRequirements := {}
  volumeSize : Option Kube.Quantity := none

namespace Resources

/-- Nothing but a volume is reserved, so that pods fit anywhere. -/
def volumeOnly (volumeSize : String) : Resources where
  volumeSize := some ⟨volumeSize⟩

def requesting (cpu memory : String) (volumeSize : Option String) : Resources where
  requirements := { requests := some (KeyMap.ofList [("cpu", ⟨cpu⟩), ("memory", ⟨memory⟩)]) }
  volumeSize := volumeSize.map Kube.Quantity.mk

end Resources

/-- The resources of a component in a stack of some size. -/
def Size.resources : Size → Component → Resources
  | .extraSmall, .compactor => .volumeOnly "10Gi"
  | .extraSmall, .distributor => {}
  | .extraSmall, .ingester => .volumeOnly "10Gi"
  | .extraSmall, .querier => .volumeOnly "10Gi"
  | .extraSmall, .queryFrontend => {}
  | _, .compactor => .requesting "2" "4Gi" (some "10Gi")
  | _, .distributor => .requesting "2" "0.5Gi" none
  | .small, .ingester => .requesting "4" "20Gi" (some "10Gi")
  | .medium, .ingester => .requesting "6" "30Gi" (some "10Gi")
  | .small, .querier => .requesting "4" "4Gi" (some "10Gi")
  | .medium, .querier => .requesting "6" "10Gi" (some "10Gi")
  | _, .queryFrontend => .requesting "2" "0.5Gi" none

end Rollout.Stack
