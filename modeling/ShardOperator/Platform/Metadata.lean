import ShardOperator.Json.Fields
import ShardOperator.Time.Timestamp

namespace ShardOperator

/-- A port or a limit that is given by number or by name. -/
inductive IntOrText where
  | int (value : Int32)
  | text (value : String)
  deriving DecidableEq, Inhabited

def IntOrText.ofJson? : Json → Option IntOrText
  | .str s => some (.text s)
  | value => value.int32?.map .int

def IntOrText.toJson : IntOrText → Json
  | .int n => .ofInt32 n
  | .text s => .str s

abbrev Labels := SortedMap String

structure OwnerReference where
  apiVersion : String := ""
  blockOwnerDeletion : Option Bool := none
  controller : Option Bool := none
  kind : String := ""
  name : String := ""
  uid : String := ""
  deriving DecidableEq, Inhabited

def OwnerReference.ofJson? (value : Json) : Option OwnerReference := do
  let f ← value.object?
  some {
    apiVersion := ← f.lenient "apiVersion" "" Json.text?
    blockOwnerDeletion := ← f.optional "blockOwnerDeletion" Json.bool?
    controller := ← f.optional "controller" Json.bool?
    kind := ← f.lenient "kind" "" Json.text?
    name := ← f.lenient "name" "" Json.text?
    uid := ← f.lenient "uid" "" Json.text? }

def OwnerReference.toJson (x : OwnerReference) : Json :=
  .object [
    ("apiVersion", some (.str x.apiVersion)),
    ("blockOwnerDeletion", x.blockOwnerDeletion.map .bool),
    ("controller", x.controller.map .bool),
    ("kind", some (.str x.kind)),
    ("name", some (.str x.name)),
    ("uid", some (.str x.uid))]

/-- Fields of types that the operator never looks into are kept as they are, here and in every other
platform type. -/
structure ObjectMeta where
  annotations : Option (SortedMap String) := none
  creationTimestamp : Option Timestamp := none
  deletionGracePeriodSeconds : Option Int64 := none
  deletionTimestamp : Option Timestamp := none
  finalizers : Option (List String) := none
  generateName : Option String := none
  generation : Option Int64 := none
  labels : Option (SortedMap String) := none
  managedFields : Option Json := none
  name : Option String := none
  ns : Option String := none
  ownerReferences : Option (List OwnerReference) := none
  resourceVersion : Option String := none
  selfLink : Option String := none
  uid : Option String := none
  deriving DecidableEq, Inhabited

def ObjectMeta.ofJson? (value : Json) : Option ObjectMeta := do
  let f ← value.object?
  some {
    annotations := ← f.optional "annotations" (Json.map? Json.text?)
    creationTimestamp := ← f.optional "creationTimestamp" Timestamp.ofJson?
    deletionGracePeriodSeconds := ← f.optional "deletionGracePeriodSeconds" Json.int64?
    deletionTimestamp := ← f.optional "deletionTimestamp" Timestamp.ofJson?
    finalizers := ← f.optional "finalizers" (Json.list? Json.text?)
    generateName := ← f.optional "generateName" Json.text?
    generation := ← f.optional "generation" Json.int64?
    labels := ← f.optional "labels" (Json.map? Json.text?)
    managedFields := ← f.optional "managedFields" some
    name := ← f.optional "name" Json.text?
    ns := ← f.optional "namespace" Json.text?
    ownerReferences := ← f.optional "ownerReferences" (Json.list? OwnerReference.ofJson?)
    resourceVersion := ← f.optional "resourceVersion" Json.text?
    selfLink := ← f.optional "selfLink" Json.text?
    uid := ← f.optional "uid" Json.text? }

def ObjectMeta.toJson (x : ObjectMeta) : Json :=
  .object [
    ("annotations", x.annotations.map (.ofMap .str)),
    ("creationTimestamp", x.creationTimestamp.map Timestamp.toJson),
    ("deletionGracePeriodSeconds", x.deletionGracePeriodSeconds.map .ofInt64),
    ("deletionTimestamp", x.deletionTimestamp.map Timestamp.toJson),
    ("finalizers", x.finalizers.map .ofTexts),
    ("generateName", x.generateName.map .str),
    ("generation", x.generation.map .ofInt64),
    ("labels", x.labels.map (.ofMap .str)),
    ("managedFields", x.managedFields),
    ("name", x.name.map .str),
    ("namespace", x.ns.map .str),
    ("ownerReferences", x.ownerReferences.map (.arr <| ·.map OwnerReference.toJson)),
    ("resourceVersion", x.resourceVersion.map .str),
    ("selfLink", x.selfLink.map .str),
    ("uid", x.uid.map .str)]

structure ObjectReference where
  apiVersion : Option String := none
  fieldPath : Option String := none
  kind : Option String := none
  name : Option String := none
  ns : Option String := none
  resourceVersion : Option String := none
  uid : Option String := none
  deriving DecidableEq, Inhabited

def ObjectReference.ofJson? (value : Json) : Option ObjectReference := do
  let f ← value.object?
  some {
    apiVersion := ← f.optional "apiVersion" Json.text?
    fieldPath := ← f.optional "fieldPath" Json.text?
    kind := ← f.optional "kind" Json.text?
    name := ← f.optional "name" Json.text?
    ns := ← f.optional "namespace" Json.text?
    resourceVersion := ← f.optional "resourceVersion" Json.text?
    uid := ← f.optional "uid" Json.text? }

def ObjectReference.toJson (x : ObjectReference) : Json :=
  .object [
    ("apiVersion", x.apiVersion.map .str),
    ("fieldPath", x.fieldPath.map .str),
    ("kind", x.kind.map .str),
    ("name", x.name.map .str),
    ("namespace", x.ns.map .str),
    ("resourceVersion", x.resourceVersion.map .str),
    ("uid", x.uid.map .str)]

structure LabelSelector where
  matchExpressions : Option Json := none
  matchLabels : Option (SortedMap String) := none
  deriving DecidableEq, Inhabited

def LabelSelector.ofJson? (value : Json) : Option LabelSelector := do
  let f ← value.object?
  some {
    matchExpressions := ← f.optional "matchExpressions" some
    matchLabels := ← f.optional "matchLabels" (Json.map? Json.text?) }

def LabelSelector.toJson (x : LabelSelector) : Json :=
  .object [
    ("matchExpressions", x.matchExpressions),
    ("matchLabels", x.matchLabels.map (.ofMap .str))]

end ShardOperator
