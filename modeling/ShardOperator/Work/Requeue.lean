import ShardOperator.Data.Table
import ShardOperator.Work.Cache
import ShardOperator.Work.Queue

namespace ShardOperator

/-- Delayed requests. The latest schedule of a key holds the key's current ticket; a timer with
another ticket runs on without effect. -/
structure Requeue where
  tickets : Table InstallationKey Nat := {}

namespace Requeue

instance : Inhabited Requeue := ⟨{}⟩

/-- Schedules a key and gives out the ticket that its timer carries. -/
def schedule (r : Requeue) (key : InstallationKey) : Nat × Requeue :=
  let ticket := (r.tickets.find? key).getD 0 + 1
  (ticket, ⟨r.tickets.insert key ticket⟩)

def isCurrent (r : Requeue) (key : InstallationKey) (ticket : Nat) : Bool :=
  r.tickets.find? key = some ticket

/-- What becomes of a queue when a timer expires that carries a ticket. -/
def expire (r : Requeue) (key : InstallationKey) (ticket : Nat) (queue : Queue InstallationKey) :
    Queue InstallationKey :=
  if r.isCurrent key ticket then (queue.enqueue key).2 else queue

def forget (r : Requeue) (key : InstallationKey) : Requeue := ⟨r.tickets.erase key⟩

def size (r : Requeue) : Nat := r.tickets.size

def isEmpty (r : Requeue) : Bool := r.tickets.isEmpty

end Requeue

end ShardOperator
