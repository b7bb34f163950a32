import ShardOperator.Platform.Service
import ShardOperator.Platform.StatefulSet
import ShardOperator.Text.Base64

namespace ShardOperator

/-- The kinds of platform objects that the operator manages. -/
inductive Kind where
  | service
  | configMap
  | statefulSet
  | disruptionBudget
  deriving DecidableEq

def Kind.all : List Kind := [.service, .configMap, .statefulSet, .disruptionBudget]

def Kind.text : Kind → String
  | .service => "Service"
  | .configMap => "ConfigMap"
  | .statefulSet => "StatefulSet"
  | .disruptionBudget => "PodDisruptionBudget"

def Kind.ofText? (s : String) : Option Kind := Kind.all.find? (·.text == s)

def Kind.apiVersion : Kind → String
  | .service | .configMap => "v1"
  | .statefulSet => "apps/v1"
  | .disruptionBudget => "policy/v1"

structure ServiceBody where
  spec : Option ServiceSpec := none
  status : Option Json := none
  deriving DecidableEq, Inhabited

def ServiceBody.ofFields? (f : Fields) : Option ServiceBody := do
  some {
    spec := ← f.optional "spec" ServiceSpec.ofJson?
    status := ← f.optional "status" some }

def ServiceBody.toFields (x : ServiceBody) : List (String × Option Json) :=
  [("spec", x.spec.map ServiceSpec.toJson),
    ("status", x.status)]

structure ConfigMapBody where
  binaryData : Option (SortedMap (List UInt8)) := none
  data : Option (SortedMap String) := none
  immutable : Option Bool := none
  deriving DecidableEq, Inhabited

def ConfigMapBody.ofFields? (f : Fields) : Option ConfigMapBody := do
  some {
    binaryData := ← f.optional "binaryData" (Json.map? Base64.ofJson?)
    data := ← f.optional "data" (Json.map? Json.text?)
    immutable := ← f.optional "immutable" Json.bool? }

def ConfigMapBody.toFields (x : ConfigMapBody) : List (String × Option Json) :=
  [("binaryData", x.binaryData.map (.ofMap Base64.toJson)),
    ("data", x.data.map (.ofMap .str)),
    ("immutable", x.immutable.map .bool)]

structure StatefulSetBody where
  spec : Option StatefulSetSpec := none
  status : Option StatefulSetStatus := none
  deriving DecidableEq, Inhabited

def StatefulSetBody.ofFields? (f : Fields) : Option StatefulSetBody := do
  some {
    spec := ← f.optional "spec" StatefulSetSpec.ofJson?
    status := ← f.optional "status" StatefulSetStatus.ofJson? }

def StatefulSetBody.toFields (x : StatefulSetBody) : List (String × Option Json) :=
  [("spec", x.spec.map StatefulSetSpec.toJson),
    ("status", x.status.map StatefulSetStatus.toJson)]

structure DisruptionBudgetSpec where
  maxUnavailable : Option IntOrText := none
  minAvailable : Option IntOrText := none
  selector : Option LabelSelector := none
  unhealthyPodEvictionPolicy : Option String := none
  deriving DecidableEq, Inhabited

def DisruptionBudgetSpec.ofJson? (value : Json) : Option DisruptionBudgetSpec := do
  let f ← value.object?
  some {
    maxUnavailable := ← f.optional "maxUnavailable" IntOrText.ofJson?
    minAvailable := ← f.optional "minAvailable" IntOrText.ofJson?
    selector := ← f.optional "selector" LabelSelector.ofJson?
    unhealthyPodEvictionPolicy := ← f.optional "unhealthyPodEvictionPolicy" Json.text? }

def DisruptionBudgetSpec.toJson (x : DisruptionBudgetSpec) : Json :=
  .object [
    ("maxUnavailable", x.maxUnavailable.map IntOrText.toJson),
    ("minAvailable", x.minAvailable.map IntOrText.toJson),
    ("selector", x.selector.map LabelSelector.toJson),
    ("unhealthyPodEvictionPolicy", x.unhealthyPodEvictionPolicy.map .str)]

structure DisruptionBudgetBody where
  spec : Option DisruptionBudgetSpec := none
  status : Option Json := none
  deriving DecidableEq, Inhabited

def DisruptionBudgetBody.ofFields? (f : Fields) : Option DisruptionBudgetBody := do
  some {
    spec := ← f.optional "spec" DisruptionBudgetSpec.ofJson?
    status := ← f.optional "status" some }

def DisruptionBudgetBody.toFields (x : DisruptionBudgetBody) : List (String × Option Json) :=
  [("spec", x.spec.map DisruptionBudgetSpec.toJson),
    ("status", x.status)]

/-- What an object of a kind holds besides its metadata. -/
abbrev Kind.Body : Kind → Type
  | .service => ServiceBody
  | .configMap => ConfigMapBody
  | .statefulSet => StatefulSetBody
  | .disruptionBudget => DisruptionBudgetBody

instance : (kind : Kind) → DecidableEq kind.Body
  | .service => inferInstanceAs (DecidableEq ServiceBody)
  | .configMap => inferInstanceAs (DecidableEq ConfigMapBody)
  | .statefulSet => inferInstanceAs (DecidableEq StatefulSetBody)
  | .disruptionBudget => inferInstanceAs (DecidableEq DisruptionBudgetBody)

/-- A platform object of one of the managed kinds. -/
structure Resource (kind : Kind) where
  metadata : ObjectMeta
  body : kind.Body
  deriving DecidableEq

namespace Resource

variable {kind : Kind}

def bodyOf? : (kind : Kind) → Fields → Option kind.Body
  | .service => ServiceBody.ofFields?
  | .configMap => ConfigMapBody.ofFields?
  | .statefulSet => StatefulSetBody.ofFields?
  | .disruptionBudget => DisruptionBudgetBody.ofFields?

/-- An object says of which version and kind it is, or leaves it open; a wrong name is refused. -/
def ofJson? (kind : Kind) (value : Json) : Option (Resource kind) := do
  let f ← value.object?
  f.named "apiVersion" kind.apiVersion
  f.named "kind" kind.text
  some { metadata := ← f.lenient "metadata" default ObjectMeta.ofJson?, body := ← bodyOf? kind f }

def bodyFields : (kind : Kind) → kind.Body → List (String × Option Json)
  | .service => ServiceBody.toFields
  | .configMap => ConfigMapBody.toFields
  | .statefulSet => StatefulSetBody.toFields
  | .disruptionBudget => DisruptionBudgetBody.toFields

/-- The metadata of a ConfigMap follows its data; in the other kinds it comes first. -/
def toJson (object : Resource kind) : Json :=
  let names := [("apiVersion", some (.str kind.apiVersion)), ("kind", some (.str kind.text))]
  let metadata := [("metadata", some object.metadata.toJson)]
  let body := bodyFields kind object.body
  .object (names ++ if kind = .configMap then body ++ metadata else metadata ++ body)

def name (object : Resource kind) : String := object.metadata.name.getD ""

/-- The name, or the stem of a name that the server completes. -/
def anyName (object : Resource kind) : String :=
  (object.metadata.name.or object.metadata.generateName).getD ""

def ns (object : Resource kind) : String := object.metadata.ns.getD ""

end Resource

end ShardOperator
