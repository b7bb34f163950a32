import ShardOperator.Work.Queue

namespace ShardOperator

/-- A queue with the holders that wait for a key, the one who came first in front. -/
structure WaitingLine (κ ι : Type) where
  queue : Queue κ := {}
  waiting : List ι := []

namespace WaitingLine

variable {κ ι : Type} [DecidableEq κ]

instance : Inhabited (WaitingLine κ ι) := ⟨{}⟩

def join (line : WaitingLine κ ι) (holder : ι) : WaitingLine κ ι :=
  { line with waiting := line.waiting ++ [holder] }

def serveAll (queue : Queue κ) : List ι → List (ι × Option κ) × WaitingLine κ ι
  | [] => ([], ⟨queue, []⟩)
  | holder :: rest =>
    match queue.next with
    | (.nothing, queue) => ([], ⟨queue, holder :: rest⟩)
    | (.key key, queue) =>
      let (served, line) := serveAll queue rest
      ((holder, some key) :: served, line)
    | (.closed, queue) =>
      let (served, line) := serveAll queue rest
      ((holder, none) :: served, line)

/-- Serves the holders in order for as long as there are keys; a closed queue sends them all away
without one. -/
def serve (line : WaitingLine κ ι) : List (ι × Option κ) × WaitingLine κ ι :=
  serveAll line.queue line.waiting

end WaitingLine

end ShardOperator
