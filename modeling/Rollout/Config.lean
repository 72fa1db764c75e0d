import Rollout.Codec
import Rollout.Yaml.Reading

/-!
The Loki configuration file that all components of a stack share. Sections and fields that are
absent have their defaults: zero, the empty text, or a section of defaults.
-/

namespace Rollout

namespace Config

structure Server where
  httpListenPort : Int32 := 0
  grpcListenPort : Int32 := 0
  logLevel : String := ""
deriving DecidableEq

structure Ring where
  replicationFactor : Int32 := 0
deriving DecidableEq

structure Lifecycler where
  ring : Ring := {}
deriving DecidableEq

structure Ingester where
  lifecycler : Lifecycler := {}
deriving DecidableEq

/-- Ingestion and query limits of every tenant. -/
structure Limits where
  ingestionRate : Int32 := 0
  ingestionBurstSize : Int32 := 0
  maxLabelNameLength : Int32 := 0
  maxLabelValueLength : Int32 := 0
  maxLabelNamesPerSeries : Int32 := 0
  maxStreamsPerUser : Int32 := 0
  maxLineSize : Int32 := 0
  maxGlobalStreamsPerUser : Int32 := 0
  maxEntriesLimitPerQuery : Int32 := 0
  maxChunksPerQuery : Int32 := 0
  maxQuerySeries : Int32 := 0
deriving DecidableEq

/-- Where chunks and index are stored, and with which credentials. -/
structure Aws where
  s3 : String := ""
  bucketNames : String := ""
  region : String := ""
  accessKeyId : String := ""
  secretAccessKey : String := ""
deriving DecidableEq

structure Storage where
  aws : Aws := {}
deriving DecidableEq

structure Compactor where
  workingDirectory : String := ""
  sharedStore : String := ""
deriving DecidableEq

end Config

structure Config where
  server : Config.Server := {}
  ingester : Config.Ingester := {}
  limits : Config.Limits := {}
  storage : Config.Storage := {}
  compactor : Config.Compactor := {}
deriving DecidableEq

namespace Config

open Fields (defaulted strict)

/-- A whole number, zero by default. -/
def number {σ : Type} (key : String) (get : σ → Int32) : Fields σ Int32 :=
  defaulted key .int32 0 get

/-- A text, empty by default. -/
def text {σ : Type} (key : String) (get : σ → String) : Fields σ String :=
  defaulted key .text "" get

def Server.codec : Codec Server := strict <|
  Server.mk <$> number "http_listen_port" Server.httpListenPort
    <*> number "grpc_listen_port" Server.grpcListenPort
    <*> text "log_level" Server.logLevel

def Ring.codec : Codec Ring := strict <|
  Ring.mk <$> number "replication_factor" Ring.replicationFactor

def Lifecycler.codec : Codec Lifecycler := strict <|
  Lifecycler.mk <$> defaulted "ring" Ring.codec {} Lifecycler.ring

def Ingester.codec : Codec Ingester := strict <|
  Ingester.mk <$> defaulted "lifecycler" Lifecycler.codec {} Ingester.lifecycler

def Limits.codec : Codec Limits := strict <|
  Limits.mk <$> number "ingestion_rate_mb" Limits.ingestionRate
    <*> number "ingestion_burst_size_mb" Limits.ingestionBurstSize
    <*> number "max_label_name_length" Limits.maxLabelNameLength
    <*> number "max_label_value_length" Limits.maxLabelValueLength
    <*> number "max_label_names_per_series" Limits.maxLabelNamesPerSeries
    <*> number "max_streams_per_user" Limits.maxStreamsPerUser
    <*> number "max_line_size" Limits.maxLineSize
    <*> number "max_global_streams_per_user" Limits.maxGlobalStreamsPerUser
    <*> number "max_entries_limit_per_query" Limits.maxEntriesLimitPerQuery
    <*> number "max_chunks_per_query" Limits.maxChunksPerQuery
    <*> number "max_query_series" Limits.maxQuerySeries

def Aws.codec : Codec Aws := strict <|
  Aws.mk <$> text "s3" Aws.s3
    <*> text "bucketnames" Aws.bucketNames
    <*> text "region" Aws.region
    <*> text "access_key_id" Aws.accessKeyId
    <*> text "secret_access_key" Aws.secretAccessKey

def Storage.codec : Codec Storage := strict <|
  Storage.mk <$> defaulted "aws" Aws.codec {} Storage.aws

def Compactor.codec : Codec Compactor := strict <|
  Compactor.mk <$> text "working_directory" Compactor.workingDirectory
    <*> text "shared_store" Compactor.sharedStore

def codec : Codec Config := strict <|
  Config.mk <$> defaulted "server" Server.codec {} Config.server
    <*> defaulted "ingester" Ingester.codec {} Config.ingester
    <*> defaulted "limits_config" Limits.codec {} Config.limits
    <*> defaulted "storage_config" Storage.codec {} Config.storage
    <*> defaulted "compactor" Compactor.codec {} Config.compactor

/-- The configuration that a YAML document describes. -/
def ofDocument? (document : Yaml.Document) : Option Config := codec.read document.item

/-- The configuration written in a YAML text. -/
def ofYaml? (text : String) : Option Config := do ofDocument? (← Yaml.Document.ofText? text)

/-- The configuration written in a file. -/
def ofBytes? (bytes : ByteArray) : Option Config := do ofDocument? (← Yaml.Document.ofBytes? bytes)

end Config

end Rollout
