import ShardOperator.Files.KeeperFiles

namespace ShardOperator

/-- The kind of server that files are written for. -/
inductive Flavour where
  | server
  | keeper
  deriving DecidableEq, Inhabited

namespace Flavour

def commonFiles : Flavour → Installation → Exclusion → FileSet
  | .server, i, e => ServerFiles.common i e
  | .keeper, i, e => KeeperFiles.common i e

def usersFiles : Flavour → Installation → FileSet
  | .server, i => ServerFiles.users i
  | .keeper, _ => .empty

def hostFiles : Flavour → Installation → Host → FileSet
  | .server, _, host => ServerFiles.host host
  | .keeper, i, host => KeeperFiles.host i host

end Flavour

end ShardOperator
