import ShardOperator.Platform.Pod

namespace ShardOperator

structure VolumeClaimSpec where
  accessModes : Option (List String) := none
  dataSource : Option Json := none
  dataSourceRef : Option Json := none
  resources : Option ResourceRequirements := none
  selector : Option LabelSelector := none
  storageClassName : Option String := none
  volumeAttributesClassName : Option String := none
  volumeMode : Option String := none
  volumeName : Option String := none
  deriving DecidableEq, Inhabited

def VolumeClaimSpec.ofJson? (value : Json) : Option VolumeClaimSpec := do
  let f ← value.object?
  some {
    accessModes := ← f.optional "accessModes" (Json.list? Json.text?)
    dataSource := ← f.optional "dataSource" some
    dataSourceRef := ← f.optional "dataSourceRef" some
    resources := ← f.optional "resources" ResourceRequirements.ofJson?
    selector := ← f.optional "selector" LabelSelector.ofJson?
    storageClassName := ← f.optional "storageClassName" Json.text?
    volumeAttributesClassName := ← f.optional "volumeAttributesClassName" Json.text?
    volumeMode := ← f.optional "volumeMode" Json.text?
    volumeName := ← f.optional "volumeName" Json.text? }

def VolumeClaimSpec.toJson (x : VolumeClaimSpec) : Json :=
  .object [
    ("accessModes", x.accessModes.map .ofTexts),
    ("dataSource", x.dataSource),
    ("dataSourceRef", x.dataSourceRef),
    ("resources", x.resources.map ResourceRequirements.toJson),
    ("selector", x.selector.map LabelSelector.toJson),
    ("storageClassName", x.storageClassName.map .str),
    ("volumeAttributesClassName", x.volumeAttributesClassName.map .str),
    ("volumeMode", x.volumeMode.map .str),
    ("volumeName", x.volumeName.map .str)]

/-- A claim for storage; the names of its version and kind are checked where they are given. -/
structure VolumeClaim where
  metadata : ObjectMeta := default
  spec : Option VolumeClaimSpec := none
  status : Option Json := none
  deriving DecidableEq, Inhabited

def VolumeClaim.ofJson? (value : Json) : Option VolumeClaim := do
  let f ← value.object?
  f.named "apiVersion" "v1"
  f.named "kind" "PersistentVolumeClaim"
  some {
    metadata := ← f.lenient "metadata" default ObjectMeta.ofJson?
    spec := ← f.optional "spec" VolumeClaimSpec.ofJson?
    status := ← f.optional "status" some }

def VolumeClaim.toJson (x : VolumeClaim) : Json :=
  .object [
    ("apiVersion", some (.str "v1")),
    ("kind", some (.str "PersistentVolumeClaim")),
    ("metadata", some x.metadata.toJson),
    ("spec", x.spec.map VolumeClaimSpec.toJson),
    ("status", x.status)]

structure StatefulSetSpec where
  minReadySeconds : Option Int32 := none
  ordinals : Option Json := none
  persistentVolumeClaimRetentionPolicy : Option Json := none
  podManagementPolicy : Option String := none
  replicas : Option Int32 := none
  revisionHistoryLimit : Option Int32 := none
  selector : LabelSelector := default
  serviceName : Option String := none
  template : PodTemplateSpec := default
  updateStrategy : Option Json := none
  volumeClaimTemplates : Option (List VolumeClaim) := none
  deriving DecidableEq, Inhabited

def StatefulSetSpec.ofJson? (value : Json) : Option StatefulSetSpec := do
  let f ← value.object?
  some {
    minReadySeconds := ← f.optional "minReadySeconds" Json.int32?
    ordinals := ← f.optional "ordinals" some
    persistentVolumeClaimRetentionPolicy := ← f.optional "persistentVolumeClaimRetentionPolicy" some
    podManagementPolicy := ← f.optional "podManagementPolicy" Json.text?
    replicas := ← f.optional "replicas" Json.int32?
    revisionHistoryLimit := ← f.optional "revisionHistoryLimit" Json.int32?
    selector := ← f.lenient "selector" default LabelSelector.ofJson?
    serviceName := ← f.optional "serviceName" Json.text?
    template := ← f.lenient "template" default PodTemplateSpec.ofJson?
    updateStrategy := ← f.optional "updateStrategy" some
    volumeClaimTemplates := ← f.optional "volumeClaimTemplates" (Json.list? VolumeClaim.ofJson?) }

def StatefulSetSpec.toJson (x : StatefulSetSpec) : Json :=
  .object [
    ("minReadySeconds", x.minReadySeconds.map .ofInt32),
    ("ordinals", x.ordinals),
    ("persistentVolumeClaimRetentionPolicy", x.persistentVolumeClaimRetentionPolicy),
    ("podManagementPolicy", x.podManagementPolicy.map .str),
    ("replicas", x.replicas.map .ofInt32),
    ("revisionHistoryLimit", x.revisionHistoryLimit.map .ofInt32),
    ("selector", some x.selector.toJson),
    ("serviceName", x.serviceName.map .str),
    ("template", some x.template.toJson),
    ("updateStrategy", x.updateStrategy),
    ("volumeClaimTemplates", x.volumeClaimTemplates.map (.arr <| ·.map VolumeClaim.toJson))]

structure StatefulSetStatus where
  availableReplicas : Option Int32 := none
  collisionCount : Option Int32 := none
  conditions : Option Json := none
  currentReplicas : Option Int32 := none
  currentRevision : Option String := none
  observedGeneration : Option Int64 := none
  readyReplicas : Option Int32 := none
  replicas : Int32 := 0
  updateRevision : Option String := none
  updatedReplicas : Option Int32 := none
  deriving DecidableEq, Inhabited

def StatefulSetStatus.ofJson? (value : Json) : Option StatefulSetStatus := do
  let f ← value.object?
  some {
    availableReplicas := ← f.optional "availableReplicas" Json.int32?
    collisionCount := ← f.optional "collisionCount" Json.int32?
    conditions := ← f.optional "conditions" some
    currentReplicas := ← f.optional "currentReplicas" Json.int32?
    currentRevision := ← f.optional "currentRevision" Json.text?
    observedGeneration := ← f.optional "observedGeneration" Json.int64?
    readyReplicas := ← f.optional "readyReplicas" Json.int32?
    replicas := ← f.lenient "replicas" 0 Json.int32?
    updateRevision := ← f.optional "updateRevision" Json.text?
    updatedReplicas := ← f.optional "updatedReplicas" Json.int32? }

def StatefulSetStatus.toJson (x : StatefulSetStatus) : Json :=
  .object [
    ("availableReplicas", x.availableReplicas.map .ofInt32),
    ("collisionCount", x.collisionCount.map .ofInt32),
    ("conditions", x.conditions),
    ("currentReplicas", x.currentReplicas.map .ofInt32),
    ("currentRevision", x.currentRevision.map .str),
    ("observedGeneration", x.observedGeneration.map .ofInt64),
    ("readyReplicas", x.readyReplicas.map .ofInt32),
    ("replicas", some (.ofInt32 x.replicas)),
    ("updateRevision", x.updateRevision.map .str),
    ("updatedReplicas", x.updatedReplicas.map .ofInt32)]

end ShardOperator
