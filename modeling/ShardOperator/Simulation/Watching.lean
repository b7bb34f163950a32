import ShardOperator.Api.Request
import ShardOperator.Api.WatchLine
import ShardOperator.Simulation.Crew

namespace ShardOperator.Simulation

/-- What a watched platform shows: the installations at the beginning, and what it says on a watch,
each line some milliseconds after the one before it. -/
structure Scene where
  /-- The namespaces that are watched; without any, all are. -/
  namespaces : List String
  items : List Json
  lines : List (Nat × Json)
  /-- The first request for a listing fails on each path. -/
  refusesFirst : Bool

/-- What a watch is told and what it asks for, with the times. -/
structure Course where
  /-- What it is told before anything else happens. -/
  greeting : List WatchEvent := []
  news : List (Nat × WatchEvent) := []
  requests : List (Nat × String) := []

namespace Course

/-- One course, and another behind it, which has no greeting. -/
def append (a b : Course) : Course :=
  { a with news := a.news ++ b.news, requests := a.requests ++ b.requests }

/-- The news of a listing at the very beginning are a greeting. -/
def greet (c : Course) : Course := { c with greeting := c.news.map (·.2), news := [] }

def tell (time : Nat) (event : WatchEvent) (c : Course) : Course :=
  { c with news := (time, event) :: c.news }

def ask (time : Nat) (request : String) (c : Course) : Course :=
  { c with requests := (time, request) :: c.requests }

end Course

/-- The path that a watch is on. A name may make a path that cannot be written. -/
def watchPath? (scope : Option String) : Option String :=
  let path := match scope with
    | none => ApiRequest.global InstallationResource.collection
    | some ns => ApiRequest.namespaced InstallationResource.collection ns
  (Http.Target.ofText? (path ++ "?")).map (·.path)

/-- How long a watch rests after so many failures in a row, in milliseconds. The time doubles from
800 up to 30 seconds; a time that has been doubled is a trifle longer than that, and so ends with
the next millisecond. -/
def backoffMillis (failures : Nat) : Nat :=
  if failures ≤ 1 then 800 else min (800 <<< min (failures - 1) 6 + 1) 30000

/-- The failures in a row, and the time of the last one. -/
structure Failures where
  count : Nat := 0
  last : Nat := 0

namespace Failures

/-- One more failure. After more than two minutes without one, the count begins anew. -/
def add (f : Failures) (time : Nat) : Failures :=
  ⟨if f.last + 120000 < time then 1 else f.count + 1, time⟩

/-- When things go on after the last failure. -/
def resume (f : Failures) : Nat := f.last + backoffMillis f.count

end Failures

namespace Scene

/-- The namespaces of the watches; nothing stands for all of them. -/
def scopes (s : Scene) : List (Option String) :=
  if s.namespaces.isEmpty then [none] else s.namespaces.map some

/-- An object is seen from everywhere and from its own namespace. -/
def sees (scope : Option String) (object : Json) : Bool :=
  scope.all fun ns => ((object.part "metadata").part "namespace").text? = some ns

/-- The installations of a listing, unless there is one that cannot be read. -/
def listing? (s : Scene) (scope : Option String) : Option (List InstallationResource) :=
  (s.items.filter (sees scope)).mapM InstallationResource.ofJson?

/-- A listing, and the watch that begins after it. A listing that cannot be read is asked for again
and again, up to a last time. -/
def list (s : Scene) (scope : Option String) (path : String) (last : Nat) (time : Nat) : Course :=
  match s.listing? scope with
  | some items =>
    let events := .listing :: items.map WatchEvent.listed ++ [.listingDone]
    { news := events.map (time, ·)
      requests := [(time, "list " ++ path), (time, "watch " ++ path)] }
  | none =>
    let tries := (last - time) / backoffMillis 1 + 1
    { requests := (List.range tries).map fun i => (time + i * backoffMillis 1, "list " ++ path) }

/-- Follows the lines of a watch from a time on, after some failures in a row. Nothing is said on a
watch that begins again. -/
def follow (relist : Nat → Course) : Nat → Failures → List (Nat × WatchLine) → Course
  | _, _, [] => {}
  | time, failures, (wait, line) :: rest =>
    let time := time + wait
    match line.turn with
    | .news event => (follow relist time {} rest).tell time event
    | .nothing => follow relist time failures rest
    | .failed => follow relist (failures.add time).resume (failures.add time) rest
    | .lost => relist (failures.add time).resume

/-- The course of a watch up to a last time. It is the `nth` on its path of `count` in all; only
the first listing on a path may be refused, and only the watch that begins first is told of
changes. -/
def course (s : Scene) (scope : Option String) (nth count last : Nat) : Course :=
  match watchPath? scope with
  | none => {}
  | some path =>
    let refused := s.refusesFirst && nth = 0
    let time := if refused then backoffMillis 1 else 0
    let told := if s.refusesFirst then nth = min 1 (count - 1) else nth = 0
    let listed := s.list scope path last time
    let lines := (s.lines.filter fun line => sees scope (line.2.part "object")).map fun line =>
      (line.1, WatchLine.ofJson line.2)
    let followed := if told && (s.listing? scope).isSome
      then follow (s.list scope path last) time {} lines else {}
    if refused then (listed.append followed).ask 0 ("list " ++ path)
    else listed.greet.append followed

/-- The courses of all watches. -/
def courses (s : Scene) (last : Nat) : List Course :=
  s.scopes.zipIdx.map fun (scope, i) =>
    s.course scope ((s.scopes.take i).count scope) (s.scopes.count scope) last

end Scene

/-- A crew that works for what it watches, and the requests of the watches. -/
structure Watching where
  crew : Crew
  requested : List (Nat × String)

namespace Watching

/-- Sets up what the watches tell up to a last time. -/
def begin (config : ReconcileConfig) (scene : Scene) (last : Nat) : Watching :=
  let courses := scene.courses last
  let crew := (courses.flatMap (·.greeting)).foldl (fun c event => c.addTask (.news event))
    (Crew.hire .server {} config)
  let crew := (courses.flatMap (·.news)).foldl
    (fun c (time, event) => c.setAlarm time (.news event)) crew
  ⟨crew, courses.flatMap (·.requests)⟩

/-- Lets some milliseconds pass; the journal is that of this time. -/
def wait (w : Watching) (duration : Nat) : Watching :=
  let crew := { w.crew with world := { w.crew.world with journal := {} } }
  { w with crew := crew.wait duration }

/-- The requests for listings and for watches so far. -/
def requests (w : Watching) : List String :=
  (w.requested.filter (·.1 ≤ w.crew.now)).map (·.2)

end Watching

end ShardOperator.Simulation
