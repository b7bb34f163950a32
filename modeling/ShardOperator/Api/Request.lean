import ShardOperator.Declaration.Manifest
import ShardOperator.Http.Target
import ShardOperator.Reconcile.Program

namespace ShardOperator

/-- A request to the API server. -/
structure ApiRequest where
  method : String
  target : Http.Target
  body : Option Json := none

/-- The name under which the operator writes and reports. -/
def fieldManager : String := "clickhouse-operator"

/-- Where the objects of a kind are found: the group of kinds, and the plural name. -/
def Kind.collection : Kind → String × String
  | .service => ("/api/v1", "services")
  | .configMap => ("/api/v1", "configmaps")
  | .statefulSet => ("/apis/apps/v1", "statefulsets")
  | .disruptionBudget => ("/apis/policy/v1", "poddisruptionbudgets")

namespace InstallationResource

def collection : String × String := ("/apis/" ++ apiVersion, plural)

end InstallationResource

namespace ApiRequest

/-- The path of a collection within a namespace. -/
def namespaced (collection : String × String) (ns : String) : String :=
  collection.1 ++ "/namespaces/" ++ ns ++ "/" ++ collection.2

/-- The path of a collection over all namespaces. -/
def global (collection : String × String) : String := collection.1 ++ "/" ++ collection.2

/-- There is no request for a path that cannot be written. -/
def ofPath? (method path : String) (body : Option Json) : Option ApiRequest :=
  (Http.Target.ofText? path).map fun target => { method, target, body }

/-- A request for one object has to name it. Requests that change something end in a query, which
may be empty, and each part of a query stands behind a mark of its own. -/
def ofName? (method : String) (collection : String × String) (ns name rest : String)
    (body : Option Json) : Option ApiRequest :=
  if name = "" then none else ofPath? method (namespaced collection ns ++ "/" ++ name ++ rest) body

def get? (kind : Kind) (ns name : String) : Option ApiRequest :=
  ofName? "GET" kind.collection ns name "" none

def create? {kind : Kind} (object : Resource kind) : Option ApiRequest :=
  ofPath? "POST" (namespaced kind.collection object.ns ++ "?") (some object.toJson)

def replace? {kind : Kind} (object : Resource kind) : Option ApiRequest :=
  ofName? "PUT" kind.collection object.ns object.name "?" (some object.toJson)

/-- What an object owns goes away after it. -/
def delete? (kind : Kind) (ns name : String) : Option ApiRequest :=
  ofName? "DELETE" kind.collection ns name "?"
    (some (.obj [("propagationPolicy", .str "Background")]))

def list? (kind : Kind) (ns selector : String) : Option ApiRequest :=
  ofPath? "GET" (namespaced kind.collection ns ++ "?&labelSelector=" ++ Http.encodeQuery selector)
    none

/-- The fields of a status that are given replace those of the stored one. -/
def patchStatus? (ns name : String) (status : InstallationStatus) : Option ApiRequest :=
  ofName? "PATCH" InstallationResource.collection ns name
    ("/status?&fieldManager=" ++ fieldManager) (some (.obj [("status", status.toJson)]))

def eventBody (regarding : ObjectReference) (event : Event) : Json := .obj [
  ("type", .str (if event.warning then "Warning" else "Normal")),
  ("reason", .str event.reason), ("action", .str event.action),
  ("note", .ofOption .str event.note), ("regarding", regarding.toJson),
  ("reportingController", .str fieldManager), ("reportingInstance", .str fieldManager)]

/-- An event belongs to the namespace of the object that it is about. -/
def publish? (regarding : ObjectReference) (event : Event) : Option ApiRequest :=
  ofPath? "POST"
    (namespaced ("/apis/events.k8s.io/v1", "events") (regarding.ns.getD "default") ++ "?")
    (some (eventBody regarding event))

end ApiRequest

end ShardOperator
