import ShardOperator.Settings.Basic

namespace ShardOperator

/-- Names of the templates that a level of the tree refers to. -/
structure TemplateNames where
  hostTemplate : Option String := none
  podTemplate : Option String := none
  dataVolumeClaimTemplate : Option String := none
  logVolumeClaimTemplate : Option String := none
  serviceTemplate : Option String := none
  clusterServiceTemplate : Option String := none
  shardServiceTemplate : Option String := none
  replicaServiceTemplate : Option String := none
  deriving DecidableEq, Inhabited

def TemplateNames.declared : List String :=
  ["hostTemplate", "podTemplate", "dataVolumeClaimTemplate", "logVolumeClaimTemplate",
   "serviceTemplate", "clusterServiceTemplate", "shardServiceTemplate", "replicaServiceTemplate"]

def TemplateNames.ofJson? (value : Json) : Option TemplateNames := do
  let f ← value.record? TemplateNames.declared
  some {
    hostTemplate := ← f.optional "hostTemplate" Json.text?
    podTemplate := ← f.optional "podTemplate" Json.text?
    dataVolumeClaimTemplate := ← f.optional "dataVolumeClaimTemplate" Json.text?
    logVolumeClaimTemplate := ← f.optional "logVolumeClaimTemplate" Json.text?
    serviceTemplate := ← f.optional "serviceTemplate" Json.text?
    clusterServiceTemplate := ← f.optional "clusterServiceTemplate" Json.text?
    shardServiceTemplate := ← f.optional "shardServiceTemplate" Json.text?
    replicaServiceTemplate := ← f.optional "replicaServiceTemplate" Json.text? }

def TemplateNames.toJson (x : TemplateNames) : Json :=
  .object [
    ("hostTemplate", x.hostTemplate.map .str),
    ("podTemplate", x.podTemplate.map .str),
    ("dataVolumeClaimTemplate", x.dataVolumeClaimTemplate.map .str),
    ("logVolumeClaimTemplate", x.logVolumeClaimTemplate.map .str),
    ("serviceTemplate", x.serviceTemplate.map .str),
    ("clusterServiceTemplate", x.clusterServiceTemplate.map .str),
    ("shardServiceTemplate", x.shardServiceTemplate.map .str),
    ("replicaServiceTemplate", x.replicaServiceTemplate.map .str)]

namespace TemplateNames

def merge (a b : TemplateNames) (policy : MergePolicy) : TemplateNames :=
  let name (field : TemplateNames → Option String) := policy.pick (field a) (field b)
  { hostTemplate := name (·.hostTemplate)
    podTemplate := name (·.podTemplate)
    dataVolumeClaimTemplate := name (·.dataVolumeClaimTemplate)
    logVolumeClaimTemplate := name (·.logVolumeClaimTemplate)
    serviceTemplate := name (·.serviceTemplate)
    clusterServiceTemplate := name (·.clusterServiceTemplate)
    shardServiceTemplate := name (·.shardServiceTemplate)
    replicaServiceTemplate := name (·.replicaServiceTemplate) }

end TemplateNames

end ShardOperator
