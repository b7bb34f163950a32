import ShardOperator.Desired.Blueprint

namespace ShardOperator.Blueprint

/-- At most one pod of a cluster may be unavailable. -/
def budget (b : Blueprint) (c : Cluster) : Resource .disruptionBudget :=
  let spec : DisruptionBudgetSpec := {
    maxUnavailable := some (.int 1)
    selector := some { matchLabels := some c.selector } }
  b.finish {
    metadata := .generated c.budgetName c.ns c.labels
    body := { spec := some spec } }

end ShardOperator.Blueprint
