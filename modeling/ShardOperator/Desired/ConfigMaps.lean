import ShardOperator.Desired.Blueprint

namespace ShardOperator.Blueprint

def configMap (b : Blueprint) (name ns : String) (labels : Labels) (files : FileSet) :
    Resource .configMap :=
  b.finish { metadata := .generated name ns labels, body := { data := some files } }

/-- The files that every host reads, with the peers that are not excluded. -/
def commonConfigMap (b : Blueprint) (e : Exclusion) : Resource .configMap :=
  let i := b.installation
  b.configMap i.commonConfigMapName i.ns i.commonConfigMapLabels (b.flavour.commonFiles i e)

def usersConfigMap (b : Blueprint) : Resource .configMap :=
  let i := b.installation
  b.configMap i.usersConfigMapName i.ns i.usersConfigMapLabels (b.flavour.usersFiles i)

/-- The files of one host. -/
def hostConfigMap (b : Blueprint) (host : Host) : Resource .configMap :=
  b.configMap host.address.configMapName host.ns host.address.configMapLabels
    (b.flavour.hostFiles b.installation host)

end ShardOperator.Blueprint
