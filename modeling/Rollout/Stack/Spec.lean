import Rollout.Codec
import Rollout.Component
import Rollout.Kube.Definition
import Rollout.Kube.Meta
import Rollout.Kube.Scheduling
import Rollout.Merge

/-!
What a LokiStack asks for: a size and settings beside it. Every setting may be left open, so that
one type serves for all layers: the defaults of a size, the wishes of the user and the rules of
the operator. Written out, a spec shows open settings as null.
-/

namespace Rollout.Stack

open Fields (constant defaulted nullable required strict)
open Kube (Toleration ObjectMeta)

inductive Size where
  /-- For development, without high availability. -/
  | extraSmall
  | small
  | medium
deriving DecidableEq, Repr

namespace Size

def all : List Size := [.extraSmall, .small, .medium]

def name : Size → String
  | .extraSmall => "1x.extra-small"
  | .small => "1x.small"
  | .medium => "1x.medium"

def ofName? (text : String) : Option Size := all.find? (·.name = text)

def codec : Codec Size := .alternative ofName? name

theorem ofName?_name (size : Size) : ofName? size.name = some size := by
  cases size <;> decide

end Size

/-- Optional features of the operator, switched on for a whole deployment of it. -/
structure Flags where
  /-- Let a certificate service sign the serving certificates of all services. -/
  certificateSigning : Bool := false
  /-- Have the metrics of every component scraped. -/
  serviceMonitors : Bool := false
  /-- Scrape over TLS. -/
  tlsServiceMonitors : Bool := false
deriving DecidableEq, Repr

/-- Metrics are scraped over TLS only where they are scraped and where certificates are signed. -/
def Flags.scrapeOverTls (flags : Flags) : Bool :=
  flags.serviceMonitors && flags.tlsServiceMonitors && flags.certificateSigning

/-- Whether the operator looks after a stack. -/
inductive ManagementState where
  | managed
  | unmanaged
deriving DecidableEq

namespace ManagementState

def name : ManagementState → String
  | .managed => "Managed"
  | .unmanaged => "Unmanaged"

def ofName? (text : String) : Option ManagementState :=
  [managed, unmanaged].find? (·.name = text)

def codec : Codec ManagementState := .alternative ofName? name

end ManagementState

/-- The secret that holds the object storage credentials. -/
structure SecretRef where
  name : Option String := none

def SecretRef.codec : Codec SecretRef := strict <|
  SecretRef.mk <$> nullable "name" .text SecretRef.name

instance : Merge SecretRef := ⟨fun a b => ⟨merge a.name b.name⟩⟩

/-- The object storage for chunks and index. -/
structure StorageSpec where
  secret : SecretRef := {}

def StorageSpec.codec : Codec StorageSpec := strict <|
  StorageSpec.mk <$> defaulted "secret" SecretRef.codec {} StorageSpec.secret

instance : Merge StorageSpec := ⟨fun a b => ⟨merge a.secret b.secret⟩⟩

structure IngestionLimits where
  /-- In megabytes per second and tenant. -/
  ingestionRate : Option Int32 := none
  /-- In megabytes per tenant. -/
  ingestionBurstSize : Option Int32 := none
  maxLabelNameLength : Option Int32 := none
  maxLabelValueLength : Option Int32 := none
  maxLabelNamesPerSeries : Option Int32 := none
  maxGlobalStreamsPerTenant : Option Int32 := none
  /-- In bytes of one log line. -/
  maxLineSize : Option Int32 := none

def IngestionLimits.codec : Codec IngestionLimits := strict <|
  IngestionLimits.mk <$> nullable "ingestionRate" .int32 IngestionLimits.ingestionRate
    <*> nullable "ingestionBurstSize" .int32 IngestionLimits.ingestionBurstSize
    <*> nullable "maxLabelNameLength" .int32 IngestionLimits.maxLabelNameLength
    <*> nullable "maxLabelValueLength" .int32 IngestionLimits.maxLabelValueLength
    <*> nullable "maxLabelNamesPerSeries" .int32 IngestionLimits.maxLabelNamesPerSeries
    <*> nullable "maxGlobalStreamsPerTenant" .int32 IngestionLimits.maxGlobalStreamsPerTenant
    <*> nullable "maxLineSize" .int32 IngestionLimits.maxLineSize

instance : Merge IngestionLimits := ⟨fun a b => {
  ingestionRate := merge a.ingestionRate b.ingestionRate
  ingestionBurstSize := merge a.ingestionBurstSize b.ingestionBurstSize
  maxLabelNameLength := merge a.maxLabelNameLength b.maxLabelNameLength
  maxLabelValueLength := merge a.maxLabelValueLength b.maxLabelValueLength
  maxLabelNamesPerSeries := merge a.maxLabelNamesPerSeries b.maxLabelNamesPerSeries
  maxGlobalStreamsPerTenant := merge a.maxGlobalStreamsPerTenant b.maxGlobalStreamsPerTenant
  maxLineSize := merge a.maxLineSize b.maxLineSize }⟩

structure QueryLimits where
  maxEntriesLimitPerQuery : Option Int32 := none
  maxChunksPerQuery : Option Int32 := none
  maxQuerySeries : Option Int32 := none

def QueryLimits.codec : Codec QueryLimits := strict <|
  QueryLimits.mk <$> nullable "maxEntriesLimitPerQuery" .int32 QueryLimits.maxEntriesLimitPerQuery
    <*> nullable "maxChunksPerQuery" .int32 QueryLimits.maxChunksPerQuery
    <*> nullable "maxQuerySeries" .int32 QueryLimits.maxQuerySeries

instance : Merge QueryLimits := ⟨fun a b => {
  maxEntriesLimitPerQuery := merge a.maxEntriesLimitPerQuery b.maxEntriesLimitPerQuery
  maxChunksPerQuery := merge a.maxChunksPerQuery b.maxChunksPerQuery
  maxQuerySeries := merge a.maxQuerySeries b.maxQuerySeries }⟩

/-- The limits of all tenants, or of one. -/
structure LimitSet where
  ingestionLimits : IngestionLimits := {}
  queryLimits : QueryLimits := {}

def LimitSet.codec : Codec LimitSet := strict <|
  LimitSet.mk <$> defaulted "ingestionLimits" IngestionLimits.codec {} LimitSet.ingestionLimits
    <*> defaulted "queryLimits" QueryLimits.codec {} LimitSet.queryLimits

instance : Merge LimitSet := ⟨fun a b => {
  ingestionLimits := merge a.ingestionLimits b.ingestionLimits
  queryLimits := merge a.queryLimits b.queryLimits }⟩

structure Limits where
  /-- What holds for every tenant. -/
  globals : LimitSet := {}
  /-- What holds for one tenant on top of that. -/
  tenants : KeyMap LimitSet := .empty

def Limits.codec : Codec Limits := strict <|
  Limits.mk <$> defaulted "global" LimitSet.codec {} Limits.globals
    <*> defaulted "tenants" (.map LimitSet.codec) .empty Limits.tenants

instance : Merge Limits := ⟨fun a b => {
  globals := merge a.globals b.globals
  tenants := merge a.tenants b.tenants }⟩

/-- Number and placement of the pods of one component. Node selector and tolerations only make
sense as a whole and are never merged entry by entry. -/
structure ComponentSpec where
  replicas : Option Int32 := none
  nodeSelector : Option (KeyMap String) := none
  tolerations : Option (List Toleration) := none

def ComponentSpec.codec : Codec ComponentSpec := strict <|
  ComponentSpec.mk <$> nullable "replicas" .int32 ComponentSpec.replicas
    <*> nullable "nodeSelector" (.map .text) ComponentSpec.nodeSelector
    <*> nullable "tolerations" (.list Toleration.codec) ComponentSpec.tolerations

instance : Merge ComponentSpec := ⟨fun a b => {
  replicas := merge a.replicas b.replicas
  nodeSelector := merge a.nodeSelector b.nodeSelector
  tolerations := merge a.tolerations b.tolerations }⟩

structure Template where
  compactor : ComponentSpec := {}
  distributor : ComponentSpec := {}
  ingester : ComponentSpec := {}
  querier : ComponentSpec := {}
  queryFrontend : ComponentSpec := {}

namespace Template

def codec : Codec Template := strict <|
  Template.mk <$> defaulted "compactor" ComponentSpec.codec {} Template.compactor
    <*> defaulted "distributor" ComponentSpec.codec {} Template.distributor
    <*> defaulted "ingester" ComponentSpec.codec {} Template.ingester
    <*> defaulted "querier" ComponentSpec.codec {} Template.querier
    <*> defaulted "queryFrontend" ComponentSpec.codec {} Template.queryFrontend

instance : Merge Template := ⟨fun a b => {
  compactor := merge a.compactor b.compactor
  distributor := merge a.distributor b.distributor
  ingester := merge a.ingester b.ingester
  querier := merge a.querier b.querier
  queryFrontend := merge a.queryFrontend b.queryFrontend }⟩

/-- A template by its components. -/
def assign (spec : Component → ComponentSpec) : Template where
  compactor := spec .compactor
  distributor := spec .distributor
  ingester := spec .ingester
  querier := spec .querier
  queryFrontend := spec .queryFrontend

/-- The part of a component. -/
def get (template : Template) : Component → ComponentSpec
  | .compactor => template.compactor
  | .distributor => template.distributor
  | .ingester => template.ingester
  | .querier => template.querier
  | .queryFrontend => template.queryFrontend

@[simp] theorem get_assign (spec : Component → ComponentSpec) (component : Component) :
    (assign spec).get component = spec component := by
  cases component <;> rfl

@[simp] theorem get_merge (tight loose : Template) (component : Component) :
    (merge tight loose).get component = merge (tight.get component) (loose.get component) := by
  cases component <;> rfl

end Template

structure Spec where
  size : Option Size := none
  managementState : Option ManagementState := none
  storage : StorageSpec := {}
  /-- How many ingesters each stream goes to. -/
  replicationFactor : Option Int32 := none
  limits : Limits := {}
  template : Template := {}

def Spec.codec : Codec Spec := strict <|
  Spec.mk <$> nullable "size" Size.codec Spec.size
    <*> nullable "managementState" ManagementState.codec Spec.managementState
    <*> defaulted "storage" StorageSpec.codec {} Spec.storage
    <*> nullable "replicationFactor" .int32 Spec.replicationFactor
    <*> defaulted "limits" Limits.codec {} Spec.limits
    <*> defaulted "template" Template.codec {} Spec.template

instance : Merge Spec := ⟨fun a b => {
  size := merge a.size b.size
  managementState := merge a.managementState b.managementState
  storage := merge a.storage b.storage
  replicationFactor := merge a.replicationFactor b.replicationFactor
  limits := merge a.limits b.limits
  template := merge a.template b.template }⟩

/-- A stack as an object of the cluster. -/
structure LokiStack where
  metadata : ObjectMeta := {}
  spec : Spec := {}

def LokiStack.codec : Codec LokiStack := strict <|
  (fun _ _ => LokiStack.mk) <$> constant "apiVersion" Kube.Definition.lokiStack.apiVersion
    <*> constant "kind" Kube.Definition.lokiStack.kind
    <*> required "metadata" ObjectMeta.codec LokiStack.metadata
    <*> required "spec" Spec.codec LokiStack.spec

end Rollout.Stack
