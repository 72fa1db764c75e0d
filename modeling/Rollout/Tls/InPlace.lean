import Rollout.Tls

/-!
TLS enabled step by step, on pods in memory that each step may write to. A pod without containers is
refused before the first write; after that, each list is made where there is none, and what it
misses is put at its end.
-/

namespace Rollout.Tls

open Kube

/-- Steps on pods in memory. -/
abbrev PodChange (α : Type) : Type := ExceptT Error (StateM PodSpec) α

namespace PodChange

/-- What comes of the steps, and the pods as they leave them. -/
def run {α : Type} (change : PodChange α) (pod : PodSpec) : Except Error α × PodSpec :=
  (ExceptT.run change).run pod

/-- Writes to the first container. -/
def toFirst (write : Container → Container) : PodChange Unit :=
  modify fun pod => { pod with containers := pod.containers.modifyHead write }

/-- Refuses pods that have no container. -/
def requireContainer (service : String) : PodChange Unit := do
  if (← get).containers.isEmpty then throw (.missingContainer service)

/-- Mounts a secret, unless something is mounted under its name. -/
def mount (secret : String) : PodChange Unit := do
  toFirst fun first => { first with volumeMounts := some (first.volumeMounts.getD []) }
  toFirst fun first => { first with
    volumeMounts := first.volumeMounts.map (addUnless (·.name == secret) (secretMount secret)) }

/-- Adds arguments one by one, unless they are there. -/
def addArguments (arguments : List String) : PodChange Unit := do
  toFirst fun first => { first with args := some (first.args.getD []) }
  arguments.forM fun argument =>
    toFirst fun first => { first with args := first.args.map (addUnless (· == argument) argument) }

/-- Adds the volume of a secret, unless a volume goes by its name. -/
def addVolume (secret : String) : PodChange Unit := do
  modify fun pod => { pod with volumes := some (pod.volumes.getD []) }
  modify fun pod => { pod with
    volumes := pod.volumes.map (addUnless (·.name == secret) (secretVolume secret)) }

/-- Has the first container of the pods behind a service serve TLS. -/
def enable (service : String) : PodChange Unit := do
  requireContainer service
  mount (secretName service)
  addArguments serverArguments
  addVolume (secretName service)

end PodChange

end Rollout.Tls
