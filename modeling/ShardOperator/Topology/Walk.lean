import ShardOperator.Error

namespace ShardOperator

/-- The outcomes of a walk in the order of the visits. A failed visit does not end a walk. -/
structure Walk where
  outcomes : List (Outcome Unit)

namespace Walk

def size (walk : Walk) : Nat := walk.outcomes.length

def isEmpty (walk : Walk) : Bool := walk.outcomes.isEmpty

def allOk (walk : Walk) : Bool := walk.outcomes.all (·.isOk)

def errors (walk : Walk) : List OperatorError :=
  walk.outcomes.filterMap fun
    | .ok _ => none
    | .error e => some e

/-- Visits the items one after the other. -/
def along {m : Type → Type} [Monad m] {α : Type} (items : List α)
    (visit : α → m (Outcome Unit)) : m Walk := do
  return ⟨← items.mapM visit⟩

end Walk

end ShardOperator
