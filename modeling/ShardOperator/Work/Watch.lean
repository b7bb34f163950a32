import ShardOperator.Work.Cache
import ShardOperator.Work.Queue

namespace ShardOperator

/-- What a watch tells about the declared installations. A watch lists all of them between
`listing` and `listingDone`, and tells of changes after that. -/
inductive WatchEvent where
  | apply (chi : InstallationResource)
  | delete (chi : InstallationResource)
  | listing
  | listed (chi : InstallationResource)
  | listingDone

namespace WatchEvent

/-- What the queue is told about an event, once the cache knows of it. -/
inductive Notice where
  | request (key : InstallationKey)
  | withdraw (key : InstallationKey)
  | nothing
  deriving DecidableEq

/-- Takes an event into the cache. -/
def record (event : WatchEvent) (cache : Cache) : Notice × Cache :=
  match event with
  | .apply chi | .listed chi =>
    match cache.observe chi with
    | (some key, cache) => (.request key, cache)
    | (none, cache) => (.nothing, cache)
  | .delete chi => (.withdraw chi.key, cache.erase chi.key)
  | .listing | .listingDone => (.nothing, cache)

def Notice.pass (notice : Notice) (queue : Queue InstallationKey) : Queue InstallationKey :=
  match notice with
  | .request key => (queue.enqueue key).2
  | .withdraw key => queue.forget key
  | .nothing => queue

/-- Takes an event into the cache and then into the queue. -/
def handle (event : WatchEvent) (cache : Cache) (queue : Queue InstallationKey) :
    Cache × Queue InstallationKey :=
  let (notice, cache) := event.record cache
  (cache, notice.pass queue)

end WatchEvent

end ShardOperator
