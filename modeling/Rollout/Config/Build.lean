import Rollout.Config
import Rollout.Stack.Resolution

/-!
The configuration of a stack with settled settings. Only the limits of all tenants are part of the
shared file.
-/

namespace Rollout

/-- Where a stack stores chunks and index, and with which credentials. -/
structure ObjectStorage where
  endpoint : String := ""
  buckets : String := ""
  region : String := ""
  accessKeyId : String := ""
  accessKeySecret : String := ""
deriving DecidableEq

namespace Config

def httpPort : Int32 := 3100

def grpcPort : Int32 := 9095

def compactorDirectory : String := "/tmp/loki/compactor"

/-- The limits section of a set of limits. The limit of each ingester is switched off by its zero,
because the global one decides. -/
def Limits.ofSet (set : Stack.LimitSet) : Limits where
  ingestionRate := set.ingestionLimits.ingestionRate.getD 0
  ingestionBurstSize := set.ingestionLimits.ingestionBurstSize.getD 0
  maxLabelNameLength := set.ingestionLimits.maxLabelNameLength.getD 0
  maxLabelValueLength := set.ingestionLimits.maxLabelValueLength.getD 0
  maxLabelNamesPerSeries := set.ingestionLimits.maxLabelNamesPerSeries.getD 0
  maxStreamsPerUser := 0
  maxLineSize := set.ingestionLimits.maxLineSize.getD 0
  maxGlobalStreamsPerUser := set.ingestionLimits.maxGlobalStreamsPerTenant.getD 0
  maxEntriesLimitPerQuery := set.queryLimits.maxEntriesLimitPerQuery.getD 0
  maxChunksPerQuery := set.queryLimits.maxChunksPerQuery.getD 0
  maxQuerySeries := set.queryLimits.maxQuerySeries.getD 0

/-- The configuration of a stack. -/
def build (resolved : Stack.Resolved) (storage : ObjectStorage) : Config where
  server := { httpListenPort := httpPort, grpcListenPort := grpcPort, logLevel := "info" }
  ingester := { lifecycler := { ring := { replicationFactor := resolved.replicationFactor } } }
  limits := .ofSet resolved.spec.limits.globals
  storage := { aws := {
    s3 := storage.endpoint
    bucketNames := storage.buckets
    region := storage.region
    accessKeyId := storage.accessKeyId
    secretAccessKey := storage.accessKeySecret } }
  compactor := { workingDirectory := compactorDirectory, sharedStore := "s3" }

end Config

end Rollout
