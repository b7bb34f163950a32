import ShardOperator.Digest.Sha256
import ShardOperator.Json.Writer
import ShardOperator.Platform.Resource

namespace ShardOperator

/-- The annotation that holds the version of an object. -/
def versionAnnotation : String := "clickhouse.altinity.com/object-version"

/-- The annotations without a version; what is then empty is left out altogether. -/
def ObjectMeta.unversioned (m : ObjectMeta) : ObjectMeta :=
  { m with annotations := (m.annotations.map (·.erase versionAnnotation)).filter (!·.isEmpty) }

namespace Resource

variable {kind : Kind}

def version? (object : Resource kind) : Option String :=
  object.metadata.annotations.bind (·.find? versionAnnotation)

def unversioned (object : Resource kind) : Resource kind :=
  { object with metadata := object.metadata.unversioned }

/-- The digest of what the object says besides its version. -/
def contentVersion (object : Resource kind) : String :=
  Sha256.shortHex object.unversioned.toJson.compact

/-- The object with the version that its content has. -/
def stamp (object : Resource kind) : Resource kind :=
  let annotations := object.unversioned.metadata.annotations.getD .empty
  { object with metadata := { object.metadata with
      annotations := some (annotations.insert versionAnnotation object.contentVersion) } }

end Resource

end ShardOperator
