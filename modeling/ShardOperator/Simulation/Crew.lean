import ShardOperator.Config.Operator
import ShardOperator.Reconcile.Pass
import ShardOperator.Simulation.Run
import ShardOperator.Work.Requeue
import ShardOperator.Work.Watch

namespace ShardOperator.Simulation

/-- How far a pass has come. -/
inductive Progress where
  | ahead (chi : InstallationResource)
  | waiting (request : Request) (next : request.Reply → Program (Outcome PassReport))
  | ended (retry : Bool)

/-- A pass that a worker waits for. -/
structure OpenPass where
  key : InstallationKey
  progress : Progress

/-- What can be done next. -/
inductive Task where
  /-- A worker who was woken looks for a key. -/
  | look
  | begin (pass : Nat)
  | reply (pass : Nat)
  | passEnded (pass : Nat)
  | passTimeout (pass : Nat)
  /-- The time until a delayed request starts to run. -/
  | delay (key : InstallationKey) (ticket duration : Nat)
  | requeue (key : InstallationKey) (ticket : Nat)
  | news (event : WatchEvent)

namespace Task

def isRequeue : Task → Bool
  | .requeue .. => true
  | _ => false

def isTimeoutOf (pass : Nat) : Task → Bool
  | .passTimeout p => p == pass
  | _ => false

end Task

/-- The delay before a pass that may succeed later runs again, in seconds. -/
def retryDelaySecs : Nat := 30

/-- Workers who share a queue, a cache and the delayed requests. One task after the other is done,
each for as long as it need not wait, and the clock moves only when there is no task left. Times are
in milliseconds. -/
structure Crew where
  flavour : Flavour := .server
  defaults : HostDefaults := {}
  config : ReconcileConfig
  world : World := {}
  queue : Queue InstallationKey := {}
  cache : Cache := {}
  requeue : Requeue := {}
  /-- The number of workers who wait for a key. -/
  sleeping : Nat := 0
  /-- The number of workers who have gone home. -/
  finished : Nat := 0
  passes : Table Nat OpenPass := {}
  passCount : Nat := 0
  now : Nat := 0
  ready : List Task := []
  /-- The tasks that wait for their time, in the order in which they were set. -/
  alarms : List (Nat × Task) := []

namespace Crew

def hire (flavour : Flavour) (defaults : HostDefaults) (config : ReconcileConfig) : Crew :=
  { flavour, defaults, config, sleeping := config.workers }

def addTask (c : Crew) (task : Task) : Crew := { c with ready := c.ready ++ [task] }

def setAlarm (c : Crew) (duration : Nat) (task : Task) : Crew :=
  { c with alarms := c.alarms ++ [(c.now + duration, task)] }

def wakeOne (c : Crew) : Crew :=
  if c.sleeping = 0 then c else { c with sleeping := c.sleeping - 1 }.addTask .look

/-- Puts a queue in place; a worker is woken when a key has come to wait in it. -/
def setQueue (c : Crew) (queue : Queue InstallationKey) : Crew :=
  let grown := c.queue.size < queue.size
  let c := { c with queue }
  if grown then c.wakeOne else c

def enqueue (c : Crew) (key : InstallationKey) : Bool × Crew :=
  let (added, queue) := c.queue.enqueue key
  (added, c.setQueue queue)

def handle (c : Crew) (event : WatchEvent) : Crew :=
  let (cache, queue) := event.handle c.cache c.queue
  { c with cache }.setQueue queue

/-- Requests a key after some time, in place of an earlier request that is still to come. -/
def schedule (c : Crew) (key : InstallationKey) (duration : Nat) : Crew :=
  let (ticket, requeue) := c.requeue.schedule key
  { c with requeue }.addTask (.delay key ticket duration)

/-- The time until the next pass over an installation, in seconds. -/
def nextPassSecs? (c : Crew) (retry : Bool) : Option Nat :=
  if retry then some retryDelaySecs else c.config.resyncSecs?

/-- Gives a key back after a pass. -/
def release (c : Crew) (key : InstallationKey) (retry : Bool) : Crew :=
  let c := c.setQueue (c.queue.done key)
  if c.world.cancelled then c
  else
    match c.nextPassSecs? retry with
    | some secs => c.schedule key (secs * 1000)
    | none => c

/-- Gives a key back for which there is nothing to do. -/
def drop (c : Crew) (key : InstallationKey) : Crew :=
  { c with requeue := c.requeue.forget key }.setQueue (c.queue.done key)

/-- Opens a pass. The time for the whole of it runs from here. -/
def openPass (c : Crew) (key : InstallationKey) (chi : InstallationResource) : Crew :=
  let pass := c.passCount
  let passes := c.passes.insert pass ⟨key, .ahead chi⟩
  ({ c with passCount := pass + 1, passes }.addTask (.begin pass)).setAlarm
    (c.config.passTimeoutSecs * 1000) (.passTimeout pass)

/-- A worker takes up keys until one has a pass to wait for, looking at most as often as given.
There is nothing to do for an installation that is gone or going. -/
def look : Nat → Crew → Crew
  | 0, c => { c with sleeping := c.sleeping + 1 }
  | n + 1, c =>
    match c.queue.next with
    | (.closed, _) => { c with finished := c.finished + 1 }
    | (.nothing, _) => { c with sleeping := c.sleeping + 1 }
    | (.key key, queue) =>
      let c := { c with queue }
      let c := if queue.isEmpty then c else c.wakeOne
      match c.cache.find? key with
      | none => look n (c.drop key)
      | some chi =>
        if chi.metadata.deletionTimestamp.isSome then look n (c.drop key)
        else if c.config.passTimeoutSecs = 0 then look n (c.release key true)
        else c.openPass key chi

def lookAround (c : Crew) : Crew := look (c.queue.size + 1) c

/-- What a pass leaves undone is worth another pass soon when any of its errors is. -/
def isRetryable : Outcome PassReport → Bool
  | .ok report => report.failures.any (·.isRetryable)
  | .error e => e.isRetryable

/-- Keeps what a pass has come to. One that was brought down is tried again. -/
def proceed (c : Crew) (pass : Nat) (key : InstallationKey) :
    Standstill (Outcome PassReport) × World → Crew
  | (.waiting duration request next, world) =>
    let passes := c.passes.insert pass ⟨key, .waiting request next⟩
    { c with world, passes }.setAlarm duration (.reply pass)
  | (.done outcome, world) =>
    let passes := c.passes.insert pass ⟨key, .ended (isRetryable outcome)⟩
    { c with world, passes }.addTask (.passEnded pass)
  | (.crashed, world) =>
    let passes := c.passes.insert pass ⟨key, .ended true⟩
    { c with world, passes }.addTask (.passEnded pass)

/-- The worker of a pass waits no longer for it, and looks for another key. A pass that has not
ended by then is given up. -/
def closePass (c : Crew) (pass : Nat) : Crew :=
  match c.passes.find? pass with
  | none => c
  | some opened =>
    let c := { c with
      passes := c.passes.erase pass
      alarms := c.alarms.filter (!·.2.isTimeoutOf pass) }
    let retry := match opened.progress with
      | .ended retry => retry
      | .ahead _ | .waiting .. => true
    (c.release opened.key retry).lookAround

def perform (c : Crew) : Task → Crew
  | .look => c.lookAround
  | .begin pass =>
    match c.passes.find? pass with
    | some ⟨key, .ahead chi⟩ =>
      c.proceed pass key (advance (Reconcile.pass c.flavour c.defaults chi) c.world)
    | _ => c
  | .reply pass =>
    match c.passes.find? pass with
    | some ⟨key, .waiting request next⟩ => c.proceed pass key (resume request next c.world)
    | _ => c
  | .passEnded pass | .passTimeout pass => c.closePass pass
  | .delay key ticket duration =>
    if c.world.cancelled then c
    else if duration = 0 then c.addTask (.requeue key ticket)
    else c.setAlarm duration (.requeue key ticket)
  | .requeue key ticket => c.setQueue (c.requeue.expire key ticket c.queue)
  | .news event => c.handle event

/-- Does tasks in turn, at most as many as given. -/
def performReady : Nat → Crew → Crew
  | 0, c => c
  | n + 1, c =>
    match c.ready with
    | [] => c
    | task :: ready => performReady n ({ c with ready }.perform task)

/-- Does everything that can be done without waiting. Each task and each key that waits makes fewer
than eight tasks in the end. -/
def settle (c : Crew) : Crew :=
  performReady (8 * (c.ready.length + c.queue.pending.length + c.queue.parked.length + 1)) c

/-- The first of the times set, as far as it lies before the limit. -/
def nextTime? (c : Crew) (limit : Nat) : Option Nat :=
  ((c.alarms.map (·.1)).filter (· ≤ limit)).min?

/-- Moves the clock to a time for which tasks are set. -/
def moveTo (c : Crew) (time : Nat) : Crew :=
  let due := (c.alarms.filter (·.1 = time)).map (·.2)
  { c with
    now := time
    ready := c.ready ++ due
    alarms := c.alarms.filter (·.1 ≠ time) }

/-- Moves the clock on to the limit, with at most as many stops as given. -/
def waitUntil (limit : Nat) : Nat → Crew → Crew
  | 0, c => { c with now := limit }
  | stops + 1, c =>
    match c.nextTime? limit with
    | some time => waitUntil limit stops (c.moveTo time).settle
    | none => { c with now := limit }

/-- Lets an amount of time pass. Tasks are set for later times only, so there are no more stops than
milliseconds. -/
def wait (c : Crew) (duration : Nat) : Crew := waitUntil (c.now + duration) (duration + 1) c.settle

/-- Cancels the passes and the delayed requests. -/
def cancel (c : Crew) : Crew :=
  { c with
    world := { c.world with cancelled := true }
    alarms := c.alarms.filter (!·.2.isRequeue) }

/-- Ends the work: every worker who waits for a key is woken. -/
def close (c : Crew) : Crew :=
  { c with
    queue := c.queue.close
    ready := c.ready ++ List.replicate c.sleeping .look
    sleeping := 0 }

end Crew

end ShardOperator.Simulation
