import ShardOperator.Data.Table
import ShardOperator.Declaration.Installation

namespace ShardOperator

/-- The identity of an installation. -/
structure InstallationKey where
  ns : String
  name : String
  deriving DecidableEq, Inhabited

def InstallationKey.text (key : InstallationKey) : String := key.ns ++ "/" ++ key.name

def InstallationResource.key (chi : InstallationResource) : InstallationKey :=
  ⟨chi.metadata.ns.getD "", chi.anyName⟩

/-- The latest version of every installation. -/
abbrev Cache := Table InstallationKey InstallationResource

namespace Cache

/-- Stores an installation. The answer is its key when it is new or its generation has changed. -/
def observe (cache : Cache) (chi : InstallationResource) : Option InstallationKey × Cache :=
  let unchanged := match cache.find? chi.key with
    | some previous => decide (previous.metadata.generation = chi.metadata.generation)
    | none => false
  (if unchanged then none else some chi.key, cache.insert chi.key chi)

end Cache

end ShardOperator
