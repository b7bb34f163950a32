import ShardOperator.Config.HostDefaults
import ShardOperator.Desired.Labels
import ShardOperator.Desired.Names
import ShardOperator.Desired.Version
import ShardOperator.Files.Flavour

namespace ShardOperator

/-- What the desired objects of an installation are built from. -/
structure Blueprint where
  installation : Installation
  defaults : HostDefaults
  flavour : Flavour
  deriving DecidableEq, Inhabited

namespace Blueprint

/-- The installation as the owner of an object; one without a uid owns nothing. -/
def owner? (b : Blueprint) : Option OwnerReference :=
  b.installation.uid.map fun uid => {
    apiVersion := InstallationResource.apiVersion
    blockOwnerDeletion := some true
    controller := some true
    kind := InstallationResource.kindName
    name := b.installation.name
    uid }

/-- Gives an object its owner and its version. -/
def finish {kind : Kind} (b : Blueprint) (object : Resource kind) : Resource kind :=
  let owners := (b.owner?.map ([·])).or object.metadata.ownerReferences
  { object with metadata := { object.metadata with ownerReferences := owners } }.stamp

end Blueprint

/-- The metadata of an object that no template is behind. -/
def ObjectMeta.generated (name ns : String) (labels : Labels) : ObjectMeta :=
  { name := some name, ns := some ns, labels := some labels }

end ShardOperator
