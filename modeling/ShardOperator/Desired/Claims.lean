import ShardOperator.Declaration.Templates
import ShardOperator.Desired.Containers

namespace ShardOperator

/-- The claim that a template stands for; it belongs to no namespace of its own. -/
def VolumeClaimTemplate.claim (t : VolumeClaimTemplate) : VolumeClaim where
  metadata := { t.metadata.getD {} with name := some t.name, ns := none }
  spec := some t.spec

namespace StatefulSetSpec

def claims (spec : StatefulSetSpec) : List VolumeClaim := spec.volumeClaimTemplates.getD []

def hasClaim (spec : StatefulSetSpec) (name : String) : Bool :=
  spec.claims.any (·.metadata.name == some name)

/-- Adds the claim of a template unless the name is taken. -/
def addClaim (spec : StatefulSetSpec) (t : VolumeClaimTemplate) : StatefulSetSpec :=
  let claims := if spec.hasClaim t.name then spec.claims else spec.claims ++ [t.claim]
  { spec with volumeClaimTemplates := some claims }

/-- Mounts the claim of a template at a path in every container that has the path free, and adds
the claim if a container mounts it then. -/
def mountClaim (spec : StatefulSetSpec) (t : VolumeClaimTemplate) (path : String) :
    StatefulSetSpec :=
  match spec.template.spec with
  | none => spec
  | some pod =>
    let pod := pod.mapContainers (·.mountIfFree t.name path)
    let spec := { spec with template := { spec.template with spec := some pod } }
    if pod.containers.any (·.mountsVolume t.name) then spec.addClaim t else spec

end StatefulSetSpec

end ShardOperator
