import ShardOperator.Platform.Service
import ShardOperator.Platform.StatefulSet

namespace ShardOperator

structure PodTemplate where
  name : String
  metadata : Option ObjectMeta := none
  spec : PodSpec := {}
  deriving DecidableEq, Inhabited

def PodTemplate.declared : List String :=
  ["name", "metadata", "spec"]

def PodTemplate.ofJson? (value : Json) : Option PodTemplate := do
  let f ← value.record? PodTemplate.declared
  some {
    name := ← f.required "name" Json.text?
    metadata := ← f.optional "metadata" ObjectMeta.ofJson?
    spec := ← f.defaulted "spec" {} PodSpec.ofJson? }

def PodTemplate.toJson (x : PodTemplate) : Json :=
  .object [
    ("name", some (.str x.name)),
    ("metadata", x.metadata.map ObjectMeta.toJson),
    ("spec", some (PodSpec.toJson x.spec))]

structure VolumeClaimTemplate where
  name : String
  metadata : Option ObjectMeta := none
  spec : VolumeClaimSpec := {}
  deriving DecidableEq, Inhabited

def VolumeClaimTemplate.declared : List String :=
  ["name", "metadata", "spec"]

def VolumeClaimTemplate.ofJson? (value : Json) : Option VolumeClaimTemplate := do
  let f ← value.record? VolumeClaimTemplate.declared
  some {
    name := ← f.required "name" Json.text?
    metadata := ← f.optional "metadata" ObjectMeta.ofJson?
    spec := ← f.defaulted "spec" {} VolumeClaimSpec.ofJson? }

def VolumeClaimTemplate.toJson (x : VolumeClaimTemplate) : Json :=
  .object [
    ("name", some (.str x.name)),
    ("metadata", x.metadata.map ObjectMeta.toJson),
    ("spec", some (VolumeClaimSpec.toJson x.spec))]

structure ServiceTemplate where
  name : String
  metadata : ObjectMeta := {}
  spec : ServiceSpec := {}
  deriving DecidableEq, Inhabited

def ServiceTemplate.declared : List String :=
  ["name", "metadata", "spec"]

def ServiceTemplate.ofJson? (value : Json) : Option ServiceTemplate := do
  let f ← value.record? ServiceTemplate.declared
  some {
    name := ← f.required "name" Json.text?
    metadata := ← f.defaulted "metadata" {} ObjectMeta.ofJson?
    spec := ← f.defaulted "spec" {} ServiceSpec.ofJson? }

def ServiceTemplate.toJson (x : ServiceTemplate) : Json :=
  .object [
    ("name", some (.str x.name)),
    ("metadata", some (ObjectMeta.toJson x.metadata)),
    ("spec", some (ServiceSpec.toJson x.spec))]

/-- The field of a list that is written only when the list has items. -/
def unlessNone {α : Type} (write : α → Json) (items : List α) : Option Json :=
  if items.isEmpty then none else some (.arr (items.map write))

/-- Template definitions; of several with one name the first counts. -/
structure Templates where
  podTemplates : List PodTemplate := []
  volumeClaimTemplates : List VolumeClaimTemplate := []
  serviceTemplates : List ServiceTemplate := []
  deriving DecidableEq, Inhabited

def Templates.declared : List String :=
  ["podTemplates", "volumeClaimTemplates", "serviceTemplates"]

def Templates.ofJson? (value : Json) : Option Templates := do
  let f ← value.record? Templates.declared
  some {
    podTemplates := ← f.defaulted "podTemplates" [] (Json.list? PodTemplate.ofJson?)
    volumeClaimTemplates :=
      ← f.defaulted "volumeClaimTemplates" [] (Json.list? VolumeClaimTemplate.ofJson?)
    serviceTemplates := ← f.defaulted "serviceTemplates" [] (Json.list? ServiceTemplate.ofJson?) }

def Templates.toJson (x : Templates) : Json :=
  .object [
    ("podTemplates", unlessNone PodTemplate.toJson x.podTemplates),
    ("volumeClaimTemplates", unlessNone VolumeClaimTemplate.toJson x.volumeClaimTemplates),
    ("serviceTemplates", unlessNone ServiceTemplate.toJson x.serviceTemplates)]

namespace Templates

def pod? (t : Templates) (name : String) : Option PodTemplate :=
  t.podTemplates.find? (·.name == name)

def volumeClaim? (t : Templates) (name : String) : Option VolumeClaimTemplate :=
  t.volumeClaimTemplates.find? (·.name == name)

def service? (t : Templates) (name : String) : Option ServiceTemplate :=
  t.serviceTemplates.find? (·.name == name)

end Templates

end ShardOperator
