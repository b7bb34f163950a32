namespace ShardOperator

/-- A queue of requests for work. A key waits at most once, and a key that is requested while a
holder works on it is parked until the holder is done. -/
structure Queue (κ : Type) where
  /-- The waiting keys, the next one first. -/
  pending : List κ := []
  /-- The keys that wait, as a set. -/
  queued : List κ := []
  /-- The keys that have been handed out and are not done. -/
  inFlight : List κ := []
  /-- The keys in flight that are requested again. -/
  parked : List κ := []
  closed : Bool := false
  deriving DecidableEq

/-- What a holder gets who asks for a key. -/
inductive HandOut (κ : Type) where
  | key (key : κ)
  | nothing
  | closed
  deriving DecidableEq

namespace Queue

variable {κ : Type} [DecidableEq κ]

instance : Inhabited (Queue κ) := ⟨{}⟩

def remove (key : κ) (keys : List κ) : List κ := keys.filter (· ≠ key)

/-- Requests a key. The answer is false when the request is merged into an earlier one, or the queue
is closed. -/
def enqueue (q : Queue κ) (key : κ) : Bool × Queue κ :=
  if q.closed || q.queued.contains key then (false, q)
  else if q.inFlight.contains key then
    (!q.parked.contains key, { q with parked := q.parked.insert key })
  else (true, { q with pending := q.pending ++ [key], queued := q.queued.insert key })

/-- Hands out the first waiting key. -/
def next (q : Queue κ) : HandOut κ × Queue κ :=
  if q.closed then (.closed, q)
  else
    match q.pending with
    | [] => (.nothing, q)
    | key :: pending =>
      let queued := remove key q.queued
      (.key key, { q with pending, queued, inFlight := q.inFlight.insert key })

/-- Takes a key back; a parked request for it waits again. -/
def done (q : Queue κ) (key : κ) : Queue κ :=
  let taken := { q with inFlight := remove key q.inFlight, parked := remove key q.parked }
  if q.parked.contains key && !q.closed then
    { taken with pending := q.pending ++ [key], queued := q.queued.insert key }
  else taken

/-- Drops the waiting or parked request for a key. -/
def forget (q : Queue κ) (key : κ) : Queue κ :=
  { q with
    pending := if q.queued.contains key then remove key q.pending else q.pending
    queued := remove key q.queued
    parked := remove key q.parked }

/-- Ends the handing out of keys. -/
def close (q : Queue κ) : Queue κ :=
  { q with pending := [], queued := [], parked := [], closed := true }

def size (q : Queue κ) : Nat := q.pending.length

def isEmpty (q : Queue κ) : Bool := q.pending.isEmpty

end Queue

end ShardOperator
