import ShardOperator.Simulation.World

namespace ShardOperator.Simulation

/-- Where a program stands that has gone on for as long as no reply takes time. -/
inductive Standstill (α : Type) where
  | done (value : α)
  | waiting (delay : Nat) (request : Request) (next : request.Reply → Program α)
  | crashed

variable {α : Type}

/-- Lets a program go on up to the first request whose reply takes time. -/
def advance : Program α → World → Standstill α × World
  | .done value, w => (.done value, w)
  | .ask request next, w =>
    let noted := w.note request
    match noted.delay request with
    | delay + 1 => (.waiting (delay + 1) request next, noted)
    | 0 =>
      match noted.answer request with
      | (some reply, w) => advance (next reply) w
      | (none, w) => (.crashed, w)

/-- Lets a program go on when the time for a reply has come. -/
def resume (request : Request) (next : request.Reply → Program α) (w : World) :
    Standstill α × World :=
  match w.answer request with
  | (some reply, w) => advance (next reply) w
  | (none, w) => (.crashed, w)

/-- Runs a program to its end, however long the replies take; a program that is brought down has no
result. -/
def run : Program α → World → Option α × World
  | .done value, w => (some value, w)
  | .ask request next, w =>
    match (w.note request).answer request with
    | (some reply, w) => run (next reply) w
    | (none, w) => (none, w)

end ShardOperator.Simulation
