import ShardOperator.Declaration.Records

namespace ShardOperator

namespace InstallationResource

def plural : String := "clickhouseinstallations"

def singular : String := "clickhouseinstallation"

def shortNames : List String := ["chi"]

/-- A column of a listing: its title, its type, and the place of its value. -/
def columns : List (String × String × String) := [
  ("Status", "string", ".status.status"), ("Clusters", "integer", ".status.clusters"),
  ("Hosts", "integer", ".status.hosts"), ("Age", "date", ".metadata.creationTimestamp")]

def columnJson (column : String × String × String) : Json := .obj [
  ("name", .str column.1), ("type", .str column.2.1), ("jsonPath", .str column.2.2)]

def schemaJson : Json :=
  .obj (("title", .str kindName) :: Schema.resource.description ++ Schema.resource.members)

/-- The version that is served and stored. Its status is written apart from the rest. -/
def versionJson : Json := .obj [
  ("name", .str version), ("served", .bool true), ("storage", .bool true),
  ("additionalPrinterColumns", .ofList columnJson columns),
  ("schema", .obj [("openAPIV3Schema", schemaJson)]),
  ("subresources", .obj [("status", .obj [])])]

/-- The definition that makes installations known to the platform. -/
def manifest : Json := .obj [
  ("apiVersion", .str "apiextensions.k8s.io/v1"),
  ("kind", .str "CustomResourceDefinition"),
  ("metadata", .obj [("name", .str (plural ++ "." ++ apiGroup))]),
  ("spec", .obj [
    ("group", .str apiGroup),
    ("names", .obj [
      ("categories", .arr []), ("kind", .str kindName), ("plural", .str plural),
      ("shortNames", .ofTexts shortNames), ("singular", .str singular)]),
    ("scope", .str "Namespaced"),
    ("versions", .arr [versionJson])])]

end InstallationResource

end ShardOperator
