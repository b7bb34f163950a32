import ShardOperator.Declaration.TemplateNames
import ShardOperator.Declaration.Templates

namespace ShardOperator

/-- The field of a settings map that is written only when the map has entries. -/
def unlessEmpty (s : Settings) : Option Json := if s.isEmpty then none else some s.toJson

structure HostSpec where
  name : Option String := none
  tcpPort : Option Int32 := none
  httpPort : Option Int32 := none
  interserverPort : Option Int32 := none
  settings : Settings := .empty
  files : Settings := .empty
  templates : Option TemplateNames := none
  deriving DecidableEq, Inhabited

def HostSpec.declared : List String :=
  ["name", "tcpPort", "httpPort", "interserverHTTPPort", "settings", "files", "templates"]

def HostSpec.ofJson? (value : Json) : Option HostSpec := do
  let f ← value.record? HostSpec.declared
  some {
    name := ← f.optional "name" Json.text?
    tcpPort := ← f.optional "tcpPort" Json.int32?
    httpPort := ← f.optional "httpPort" Json.int32?
    interserverPort := ← f.optional "interserverHTTPPort" Json.int32?
    settings := ← f.defaulted "settings" .empty Settings.ofJson?
    files := ← f.defaulted "files" .empty Settings.ofJson?
    templates := ← f.optional "templates" TemplateNames.ofJson? }

def HostSpec.toJson (x : HostSpec) : Json :=
  .object [
    ("name", x.name.map .str),
    ("tcpPort", x.tcpPort.map .ofInt32),
    ("httpPort", x.httpPort.map .ofInt32),
    ("interserverHTTPPort", x.interserverPort.map .ofInt32),
    ("settings", unlessEmpty x.settings),
    ("files", unlessEmpty x.files),
    ("templates", x.templates.map TemplateNames.toJson)]

structure ReplicaSpec where
  name : Option String := none
  settings : Settings := .empty
  files : Settings := .empty
  templates : Option TemplateNames := none
  shardsCount : Option UInt32 := none
  shards : List HostSpec := []
  deriving DecidableEq, Inhabited

def ReplicaSpec.declared : List String :=
  ["name", "settings", "files", "templates", "shardsCount", "shards"]

def ReplicaSpec.ofJson? (value : Json) : Option ReplicaSpec := do
  let f ← value.record? ReplicaSpec.declared
  some {
    name := ← f.optional "name" Json.text?
    settings := ← f.defaulted "settings" .empty Settings.ofJson?
    files := ← f.defaulted "files" .empty Settings.ofJson?
    templates := ← f.optional "templates" TemplateNames.ofJson?
    shardsCount := ← f.optional "shardsCount" Json.uint32?
    shards := ← f.defaulted "shards" [] (Json.list? HostSpec.ofJson?) }

def ReplicaSpec.toJson (x : ReplicaSpec) : Json :=
  .object [
    ("name", x.name.map .str),
    ("settings", unlessEmpty x.settings),
    ("files", unlessEmpty x.files),
    ("templates", x.templates.map TemplateNames.toJson),
    ("shardsCount", x.shardsCount.map (.ofNat ·.toNat)),
    ("shards", unlessNone HostSpec.toJson x.shards)]

structure ShardSpec where
  name : Option String := none
  weight : Option UInt32 := none
  internalReplication : Option Bool := none
  settings : Settings := .empty
  files : Settings := .empty
  templates : Option TemplateNames := none
  replicasCount : Option UInt32 := none
  replicas : List HostSpec := []
  deriving DecidableEq, Inhabited

def ShardSpec.declared : List String :=
  ["name", "weight", "internalReplication", "settings", "files", "templates", "replicasCount",
   "replicas"]

def ShardSpec.ofJson? (value : Json) : Option ShardSpec := do
  let f ← value.record? ShardSpec.declared
  some {
    name := ← f.optional "name" Json.text?
    weight := ← f.optional "weight" Json.uint32?
    internalReplication := ← f.optional "internalReplication" Json.bool?
    settings := ← f.defaulted "settings" .empty Settings.ofJson?
    files := ← f.defaulted "files" .empty Settings.ofJson?
    templates := ← f.optional "templates" TemplateNames.ofJson?
    replicasCount := ← f.optional "replicasCount" Json.uint32?
    replicas := ← f.defaulted "replicas" [] (Json.list? HostSpec.ofJson?) }

def ShardSpec.toJson (x : ShardSpec) : Json :=
  .object [
    ("name", x.name.map .str),
    ("weight", x.weight.map (.ofNat ·.toNat)),
    ("internalReplication", x.internalReplication.map .bool),
    ("settings", unlessEmpty x.settings),
    ("files", unlessEmpty x.files),
    ("templates", x.templates.map TemplateNames.toJson),
    ("replicasCount", x.replicasCount.map (.ofNat ·.toNat)),
    ("replicas", unlessNone HostSpec.toJson x.replicas)]

/-- Counts, or explicit shards, or explicit replicas; listed shards take precedence. -/
structure LayoutSpec where
  shardsCount : Option UInt32 := none
  replicasCount : Option UInt32 := none
  shards : List ShardSpec := []
  replicas : List ReplicaSpec := []
  deriving DecidableEq, Inhabited

def LayoutSpec.declared : List String :=
  ["shardsCount", "replicasCount", "shards", "replicas"]

def LayoutSpec.ofJson? (value : Json) : Option LayoutSpec := do
  let f ← value.record? LayoutSpec.declared
  some {
    shardsCount := ← f.optional "shardsCount" Json.uint32?
    replicasCount := ← f.optional "replicasCount" Json.uint32?
    shards := ← f.defaulted "shards" [] (Json.list? ShardSpec.ofJson?)
    replicas := ← f.defaulted "replicas" [] (Json.list? ReplicaSpec.ofJson?) }

def LayoutSpec.toJson (x : LayoutSpec) : Json :=
  .object [
    ("shardsCount", x.shardsCount.map (.ofNat ·.toNat)),
    ("replicasCount", x.replicasCount.map (.ofNat ·.toNat)),
    ("shards", unlessNone ShardSpec.toJson x.shards),
    ("replicas", unlessNone ReplicaSpec.toJson x.replicas)]

structure ClusterSpec where
  name : String
  settings : Settings := .empty
  files : Settings := .empty
  templates : Option TemplateNames := none
  layout : LayoutSpec := {}
  deriving DecidableEq, Inhabited

def ClusterSpec.declared : List String :=
  ["name", "settings", "files", "templates", "layout"]

def ClusterSpec.ofJson? (value : Json) : Option ClusterSpec := do
  let f ← value.record? ClusterSpec.declared
  some {
    name := ← f.required "name" Json.text?
    settings := ← f.defaulted "settings" .empty Settings.ofJson?
    files := ← f.defaulted "files" .empty Settings.ofJson?
    templates := ← f.optional "templates" TemplateNames.ofJson?
    layout := ← f.defaulted "layout" {} LayoutSpec.ofJson? }

def ClusterSpec.toJson (x : ClusterSpec) : Json :=
  .object [
    ("name", some (.str x.name)),
    ("settings", unlessEmpty x.settings),
    ("files", unlessEmpty x.files),
    ("templates", x.templates.map TemplateNames.toJson),
    ("layout", some (LayoutSpec.toJson x.layout))]

end ShardOperator
