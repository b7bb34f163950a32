import ShardOperator.Proofs.Work.Handover

namespace ShardOperator

namespace Handover

variable {ι : Type} [DecidableEq ι] {s : Handover ι}

theorem setWorker_self {worker : ι} (h : s.workers worker = .free) :
    s.setWorker worker .free = s := by
  have hworkers : (s.setWorker worker .free).workers = s.workers := by
    funext other
    rw [workers_setWorker]
    split
    · next e => rw [e, h]
    · rfl
  change { s with workers := (s.setWorker worker .free).workers } = s
  rw [hworkers]

theorem setWorker_setWorker (s : Handover ι) (worker : ι) (first last : Station) :
    (s.setWorker worker first).setWorker worker last = s.setWorker worker last := by
  have hworkers : ((s.setWorker worker first).setWorker worker last).workers =
      (s.setWorker worker last).workers := by
    funext other
    rw [workers_setWorker, workers_setWorker, workers_setWorker]
    split <;> rfl
  change { s with workers := ((s.setWorker worker first).setWorker worker last).workers } = _
  rw [hworkers]
  rfl

theorem reaches_afterLook {worker : ι} {key : InstallationKey} (free : s.workers worker = .free)
    (next : s.queue.next.1 = .key key) :
    ∃ log, Reaches s log ({ s with queue := s.queue.next.2 }.setWorker worker
      (.afterLook key (s.cache.find? key))) := by
  have took := Reaches.single (Step.take worker free next)
  have looked := took.step (.look worker (by rw [workers_setWorker, if_pos rfl]))
  rw [setWorker_setWorker] at looked
  exact ⟨_, looked⟩

theorem reaches_drop {worker : ι} {key : InstallationKey} (idle : s.workers worker = .idle key) :
    ∃ log, Reaches s log ({ s with queue := s.queue.done key }.setWorker worker .free) :=
  ⟨_, .single (.drop worker idle)⟩

/-- A pass comes to its end, and the worker is free again. -/
theorem reaches_release {worker : ι} {key : InstallationKey} (result : PassEnd)
    (passing : s.workers worker = .passing key) :
    ∃ log, Reaches s log ({ s with queue := s.queue.done key }.setWorker worker .free) := by
  have passed := Reaches.single (Step.pass worker result passing)
  have released := passed.step (.release worker (by rw [workers_setWorker, if_pos rfl]))
  have scheduled := released.step (.schedule worker (by rw [workers_setWorker, if_pos rfl]))
  change Reaches s _ ((({ s with queue := s.queue.done key }.setWorker worker _).setWorker worker
    _).setWorker worker _) at scheduled
  rw [setWorker_setWorker, setWorker_setWorker] at scheduled
  exact ⟨_, scheduled⟩

end Handover

namespace Simulation.Crew

open Handover (Reaches)

/-- Where the worker of a pass stands. One without a pass is free. -/
def station (c : Crew) (pass : Nat) : Station :=
  match c.passes.find? pass with
  | some opened => .passing opened.key
  | none => .free

/-- A crew between two tasks, as watcher and workers. The watcher has told everything, and a worker
goes by the number of its pass. -/
def handover (c : Crew) : Handover Nat where
  cache := c.cache
  queue := c.queue
  workers := c.station

/-- The numbers of the passes to come are free. -/
def Numbered (c : Crew) : Prop := ∀ pass, c.passCount ≤ pass → c.passes.find? pass = none

/-- What the crew has come to is what the steps of watcher and workers lead to. -/
def Leads (c d : Crew) : Prop :=
  c.Numbered → d.Numbered ∧ ∃ log, Reaches c.handover log d.handover

variable {c d e : Crew}

theorem Leads.trans (h : c.Leads d) (hd : d.Leads e) : c.Leads e := by
  intro numbered
  obtain ⟨hnumbered, log, hlog⟩ := h numbered
  obtain ⟨hlast, more, hmore⟩ := hd hnumbered
  exact ⟨hlast, _, hlog.trans hmore⟩

/-- Clocks, tasks and the platform are nothing to the watcher and the workers. -/
theorem leads_of_same (hcache : d.cache = c.cache) (hqueue : d.queue = c.queue)
    (hpasses : d.passes = c.passes) (hcount : d.passCount = c.passCount) : c.Leads d := by
  intro numbered
  have hsame : d.handover = c.handover := by
    unfold handover station
    rw [hcache, hqueue, hpasses]
  refine ⟨?_, [], hsame ▸ .start _⟩
  unfold Numbered
  rw [hpasses, hcount]
  exact numbered

theorem Leads.refl (c : Crew) : c.Leads c := leads_of_same rfl rfl rfl rfl

section Fields

theorem wakeOne_eq (c : Crew) :
    c.wakeOne.cache = c.cache ∧ c.wakeOne.queue = c.queue ∧ c.wakeOne.passes = c.passes ∧
      c.wakeOne.passCount = c.passCount := by
  unfold wakeOne
  split <;> exact ⟨rfl, rfl, rfl, rfl⟩

theorem setQueue_eq (c : Crew) (queue : Queue InstallationKey) :
    (c.setQueue queue).cache = c.cache ∧ (c.setQueue queue).queue = queue ∧
      (c.setQueue queue).passes = c.passes ∧ (c.setQueue queue).passCount = c.passCount := by
  unfold setQueue
  dsimp only
  split
  · exact wakeOne_eq { c with queue }
  · exact ⟨rfl, rfl, rfl, rfl⟩

theorem release_eq (c : Crew) (key : InstallationKey) (retry : Bool) :
    (c.release key retry).cache = c.cache ∧ (c.release key retry).queue = c.queue.done key ∧
      (c.release key retry).passes = c.passes ∧
      (c.release key retry).passCount = c.passCount := by
  have hqueue := c.setQueue_eq (c.queue.done key)
  unfold release
  dsimp only
  split
  · exact hqueue
  · split <;> exact hqueue

end Fields

/-- A crew with another queue, all else being the same, is led to where its queue is. -/
theorem leads_of_queue (hpasses : d.passes = c.passes) (hcount : d.passCount = c.passCount)
    (h : ∃ log, Reaches c.handover log
      { c.handover with cache := d.cache, queue := d.queue }) : c.Leads d := by
  intro numbered
  obtain ⟨log, hlog⟩ := h
  have hsame : d.handover = { c.handover with cache := d.cache, queue := d.queue } := by
    unfold handover station
    rw [hpasses]
  refine ⟨?_, log, hsame ▸ hlog⟩
  unfold Numbered
  rw [hpasses, hcount]
  exact numbered

theorem leads_enqueue (c : Crew) (key : InstallationKey) : c.Leads (c.enqueue key).2 := by
  obtain ⟨hcache, hqueue, hpasses, hcount⟩ := c.setQueue_eq (c.queue.enqueue key).2
  refine leads_of_queue hpasses hcount ⟨[.requested key], ?_⟩
  change Reaches _ _ { c.handover with
    cache := (c.setQueue (c.queue.enqueue key).2).cache
    queue := (c.setQueue (c.queue.enqueue key).2).queue }
  rw [hcache, hqueue]
  exact .single (.request key)

theorem leads_handle (c : Crew) (event : WatchEvent) : c.Leads (c.handle event) := by
  obtain ⟨hcache, hqueue, hpasses, hcount⟩ := setQueue_eq
    { c with cache := (event.handle c.cache c.queue).1 } (event.handle c.cache c.queue).2
  refine leads_of_queue hpasses hcount ⟨[.heard event, .told], ?_⟩
  change Reaches _ _ { c.handover with
    cache := (setQueue { c with cache := (event.handle c.cache c.queue).1 }
      (event.handle c.cache c.queue).2).cache
    queue := (setQueue { c with cache := (event.handle c.cache c.queue).1 }
      (event.handle c.cache c.queue).2).queue }
  rw [hcache, hqueue]
  exact (Reaches.single (.hear event rfl)).step .tell

section Passes

theorem station_passCount (numbered : c.Numbered) : c.handover.workers c.passCount = .free := by
  change c.station c.passCount = .free
  unfold station
  rw [numbered c.passCount (Nat.le_refl _)]

section TakenUp

variable {queue : Queue InstallationKey} {key : InstallationKey} {chi : InstallationResource}
  (next : c.queue.next = (.key key, queue)) (hcache : d.cache = c.cache) (hqueue : d.queue = queue)
  (hpasses : d.passes = c.passes) (hcount : d.passCount = c.passCount)

include next

theorem reaches_taken (numbered : c.Numbered) :
    ∃ log, Reaches c.handover log ({ c.handover with queue }.setWorker c.passCount
      (.afterLook key (c.cache.find? key))) := by
  have hnext : c.handover.queue.next.1 = .key key := congrArg Prod.fst next
  obtain ⟨log, hlog⟩ := Handover.reaches_afterLook (station_passCount numbered) hnext
  rw [show c.handover.queue.next.2 = queue from congrArg Prod.snd next] at hlog
  exact ⟨log, hlog⟩

/-- From then on the key is given back, and no pass is opened. -/
theorem leads_of_givenBack (hbackCache : e.cache = c.cache) (hback : e.queue = queue.done key)
    (hbackPasses : e.passes = c.passes) (hbackCount : e.passCount = c.passCount)
    (h : ∀ s : Handover Nat, s.workers c.passCount = .afterLook key (c.cache.find? key) →
      ∃ log, Reaches s log ({ s with queue := s.queue.done key }.setWorker c.passCount .free)) :
    c.Leads e := by
  intro numbered
  refine leads_of_queue hbackPasses hbackCount ?_ numbered
  obtain ⟨log, hlog⟩ := reaches_taken next numbered
  obtain ⟨more, hmore⟩ := h ({ c.handover with queue }.setWorker c.passCount
    (.afterLook key (c.cache.find? key))) (if_pos rfl)
  have hfree : ({ c.handover with queue := queue.done key } : Handover Nat).setWorker c.passCount
      .free = { c.handover with queue := queue.done key } :=
    Handover.setWorker_self (station_passCount numbered)
  change Reaches _ _ (({ c.handover with queue := queue.done key }.setWorker c.passCount
    _).setWorker c.passCount .free) at hmore
  rw [Handover.setWorker_setWorker, hfree] at hmore
  rw [hbackCache, hback]
  exact ⟨_, hlog.trans hmore⟩

include hcache hqueue hpasses hcount

theorem leads_drop (hidle : Station.afterLook key (c.cache.find? key) = .idle key) :
    c.Leads (d.drop key) := by
  obtain ⟨hc, hq, hp, hn⟩ :=
    setQueue_eq { d with requeue := d.requeue.forget key } (d.queue.done key)
  refine leads_of_givenBack next (hc.trans hcache) (hq.trans (by rw [hqueue])) (hp.trans hpasses)
    (hn.trans hcount) fun s hs => ?_
  exact Handover.reaches_drop (hs.trans hidle)

theorem leads_release (hpassing : Station.afterLook key (c.cache.find? key) = .passing key)
    (retry : Bool) : c.Leads (d.release key retry) := by
  obtain ⟨hc, hq, hp, hn⟩ := d.release_eq key retry
  refine leads_of_givenBack next (hc.trans hcache) (hq.trans (by rw [hqueue])) (hp.trans hpasses)
    (hn.trans hcount) fun s hs => ?_
  exact Handover.reaches_release .timedOut (hs.trans hpassing)

theorem leads_openPass (hpassing : Station.afterLook key (c.cache.find? key) = .passing key) :
    c.Leads (d.openPass key chi) := by
  intro numbered
  obtain ⟨log, hlog⟩ := reaches_taken next numbered
  have hopened (pass : Nat) : (d.openPass key chi).passes.find? pass =
      if c.passCount = pass then some ⟨key, .ahead chi⟩ else c.passes.find? pass := by
    change (d.passes.insert d.passCount _).find? pass = _
    rw [Table.find?_insert, hpasses, hcount]
  have hlast : (d.openPass key chi).passCount = c.passCount + 1 := congrArg (· + 1) hcount
  have hsame : (d.openPass key chi).handover =
      { c.handover with queue }.setWorker c.passCount (.passing key) := by
    have hworkers : (d.openPass key chi).station =
        ({ c.handover with queue }.setWorker c.passCount (.passing key)).workers := by
      funext pass
      rw [Handover.workers_setWorker, station, hopened]
      by_cases hpass : c.passCount = pass
      · rw [if_pos hpass, if_pos hpass.symm]
      · rw [if_neg hpass, if_neg (Ne.symm hpass)]
        rfl
    unfold handover
    rw [hworkers]
    change { cache := d.cache, queue := d.queue, workers := _ : Handover Nat } = _
    rw [hcache, hqueue]
    rfl
  refine ⟨?_, log, ?_⟩
  · intro pass hpass
    rw [hlast] at hpass
    rw [hopened, if_neg (by omega)]
    exact numbered pass (by omega)
  · rw [hsame, ← hpassing]
    exact hlog

end TakenUp

/-- A worker who takes up keys does so in the steps of a worker. -/
theorem leads_look (n : Nat) (c : Crew) : c.Leads (look n c) := by
  induction n generalizing c with
  | zero => exact leads_of_same rfl rfl rfl rfl
  | succ n ih =>
    unfold look
    split
    · exact leads_of_same rfl rfl rfl rfl
    · exact leads_of_same rfl rfl rfl rfl
    · next key queue next =>
      dsimp only
      -- Whether another worker is woken for the next key makes no difference to this one.
      generalize hd : (if queue.isEmpty then ({ c with queue } : Crew)
        else ({ c with queue } : Crew).wakeOne) = d
      have hfields : d.cache = c.cache ∧ d.queue = queue ∧ d.passes = c.passes ∧
          d.passCount = c.passCount := by
        rw [← hd]
        split
        · exact ⟨rfl, rfl, rfl, rfl⟩
        · exact wakeOne_eq { c with queue }
      obtain ⟨hcache, hqueue, hpasses, hcount⟩ := hfields
      split
      · next hnone =>
        rw [hcache] at hnone
        refine (leads_drop next hcache hqueue hpasses hcount ?_).trans (ih _)
        rw [hnone]
        rfl
      · next chi hsome =>
        rw [hcache] at hsome
        split
        · next hgoing =>
          refine (leads_drop next hcache hqueue hpasses hcount ?_).trans (ih _)
          rw [hsome]
          exact if_pos hgoing
        · next hstays =>
          have hpassing : Station.afterLook key (c.cache.find? key) = .passing key := by
            rw [hsome]
            exact if_neg hstays
          split
          · exact (leads_release next hcache hqueue hpasses hcount hpassing true).trans (ih _)
          · exact leads_openPass next hcache hqueue hpasses hcount hpassing

/-- Whatever a pass comes to, its worker keeps the key. -/
theorem leads_proceed {pass : Nat} {opened : OpenPass} (hopened : c.passes.find? pass = some opened)
    (result : Standstill (Outcome PassReport) × World) :
    c.Leads (c.proceed pass opened.key result) := by
  have goesOn {d : Crew} {progress : Progress} (hcache : d.cache = c.cache)
      (hqueue : d.queue = c.queue) (hcount : d.passCount = c.passCount)
      (hpasses : d.passes = c.passes.insert pass ⟨opened.key, progress⟩) : c.Leads d := by
    intro numbered
    have hstation : d.station = c.station := by
      funext other
      unfold station
      rw [hpasses, Table.find?_insert]
      by_cases hother : pass = other
      · rw [if_pos hother, ← hother, hopened]
      · rw [if_neg hother]
    have hsame : d.handover = c.handover := by
      unfold handover
      rw [hcache, hqueue, hstation]
    refine ⟨fun other hother => ?_, [], hsame ▸ .start _⟩
    rw [hcount] at hother
    have hnone := numbered other hother
    rw [hpasses, Table.find?_insert, if_neg, hnone]
    rintro rfl
    rw [hopened] at hnone
    cases hnone
  obtain ⟨standstill, world⟩ := result
  cases standstill with
  | waiting => exact goesOn rfl rfl rfl rfl
  | done => exact goesOn rfl rfl rfl rfl
  | crashed => exact goesOn rfl rfl rfl rfl

/-- The worker of a pass that is closed has given its key back. -/
theorem leads_of_closed {pass : Nat} {opened : OpenPass}
    (hopened : c.passes.find? pass = some opened) (hcache : d.cache = c.cache)
    (hqueue : d.queue = c.queue.done opened.key) (hpasses : d.passes = c.passes.erase pass)
    (hcount : d.passCount = c.passCount) : c.Leads d := by
  intro numbered
  have hpassing : c.handover.workers pass = .passing opened.key := by
    change c.station pass = _
    rw [station, hopened]
  -- Any end will do here: what the pass has come to is nothing to the cache and the queue.
  obtain ⟨log, hlog⟩ := Handover.reaches_release .timedOut hpassing
  have hsame : d.handover =
      { c.handover with queue := c.queue.done opened.key }.setWorker pass .free := by
    have hworkers : d.station =
        ({ c.handover with queue := c.queue.done opened.key }.setWorker pass .free).workers := by
      funext other
      rw [Handover.workers_setWorker, station, hpasses, Table.find?_erase]
      by_cases hother : pass = other
      · rw [if_pos hother, if_pos hother.symm]
      · rw [if_neg hother, if_neg (Ne.symm hother)]
        rfl
    unfold handover
    rw [hworkers, hcache, hqueue]
    rfl
  refine ⟨fun other hother => ?_, log, hsame ▸ hlog⟩
  rw [hcount] at hother
  rw [hpasses, Table.find?_erase, numbered other hother, ite_self]

theorem leads_closePass (c : Crew) (pass : Nat) : c.Leads (c.closePass pass) := by
  unfold closePass
  cases hopened : c.passes.find? pass with
  | none => exact .refl c
  | some opened =>
    refine Leads.trans (leads_of_closed hopened ?_ ?_ ?_ ?_) (leads_look _ _)
    · exact (release_eq ..).1
    · exact (release_eq ..).2.1
    · exact (release_eq ..).2.2.1
    · exact (release_eq ..).2.2.2

end Passes

section Runs

/-- Whatever task is done, watcher and workers have steps for it. -/
theorem leads_perform (c : Crew) (task : Task) : c.Leads (c.perform task) := by
  cases task with
  | look => exact leads_look _ _
  | begin pass =>
    rw [perform]
    split
    · next hopened => exact leads_proceed hopened _
    · exact .refl c
  | reply pass =>
    rw [perform]
    split
    · next hopened => exact leads_proceed hopened _
    · exact .refl c
  | passEnded pass => exact leads_closePass c pass
  | passTimeout pass => exact leads_closePass c pass
  | delay key ticket duration =>
    rw [perform]
    split
    · exact .refl c
    · split
      · exact leads_of_same rfl rfl rfl rfl
      · exact leads_of_same rfl rfl rfl rfl
  | requeue key ticket =>
    rw [perform]
    unfold Requeue.expire
    split
    · exact leads_enqueue c key
    · obtain ⟨hcache, hqueue, hpasses, hcount⟩ := c.setQueue_eq c.queue
      exact leads_of_same hcache hqueue hpasses hcount
  | news event => exact leads_handle c event

theorem leads_performReady (n : Nat) (c : Crew) : c.Leads (performReady n c) := by
  induction n generalizing c with
  | zero => exact .refl c
  | succ n ih =>
    unfold performReady
    split
    · exact .refl c
    · next task ready _ =>
      have hready : c.Leads { c with ready } := leads_of_same rfl rfl rfl rfl
      exact (hready.trans (leads_perform _ task)).trans (ih _)

theorem leads_settle (c : Crew) : c.Leads c.settle := leads_performReady _ _

theorem leads_waitUntil (limit stops : Nat) (c : Crew) : c.Leads (waitUntil limit stops c) := by
  induction stops generalizing c with
  | zero => exact leads_of_same rfl rfl rfl rfl
  | succ stops ih =>
    unfold waitUntil
    split
    · next time _ =>
      have hmoved : c.Leads (c.moveTo time) := leads_of_same rfl rfl rfl rfl
      exact (hmoved.trans (leads_settle _)).trans (ih _)
    · exact leads_of_same rfl rfl rfl rfl

theorem leads_wait (c : Crew) (duration : Nat) : c.Leads (c.wait duration) :=
  (leads_settle c).trans (leads_waitUntil _ _ _)

/-- What can happen to a crew from outside while its queue is open. -/
inductive Turn where
  | news (event : WatchEvent)
  | request (key : InstallationKey)
  | schedule (key : InstallationKey) (duration : Nat)
  | wait (duration : Nat)
  | cancel
  /-- The platform is changed by others. -/
  | edit (world : World)

def take (c : Crew) : Turn → Crew
  | .news event => c.handle event
  | .request key => (c.enqueue key).2
  | .schedule key duration => c.schedule key duration
  | .wait duration => c.wait duration
  | .cancel => c.cancel
  | .edit world => { c with world }

theorem leads_take (c : Crew) (turn : Turn) : c.Leads (c.take turn) := by
  cases turn with
  | news event => exact leads_handle c event
  | request key => exact leads_enqueue c key
  | schedule key duration => exact leads_of_same rfl rfl rfl rfl
  | wait duration => exact leads_wait c duration
  | cancel => exact leads_of_same rfl rfl rfl rfl
  | edit world => exact leads_of_same rfl rfl rfl rfl

theorem leads_run (c : Crew) (turns : List Turn) : c.Leads (turns.foldl take c) := by
  induction turns generalizing c with
  | nil => exact .refl c
  | cons turn turns ih => exact (leads_take c turn).trans (ih _)

/-- Whatever happens to a crew, the keys in flight are those of its open passes, each of them has
one pass, and an installation in the cache whose generation is not the one that was read last waits
in the queue. -/
theorem sound_run (flavour : Flavour) (defaults : HostDefaults) (config : ReconcileConfig)
    (turns : List Turn) :
    let c := turns.foldl take (hire flavour defaults config)
    (∀ key, key ∈ c.queue.inFlight ↔
      ∃ pass opened, c.passes.find? pass = some opened ∧ opened.key = key) ∧
    (∀ pass other first second, c.passes.find? pass = some first →
      c.passes.find? other = some second → first.key = second.key → pass = other) ∧
    ∃ log, Reaches {} log c.handover ∧ ∀ key chi, c.cache.find? key = some chi →
      Handover.latestRead key log ≠ some chi.metadata.generation → c.queue.Awaits key := by
  intro c
  have numbered : (hire flavour defaults config).Numbered := fun pass _ => rfl
  obtain ⟨-, log, hlog⟩ := leads_run (hire flavour defaults config) turns numbered
  have hstart : (hire flavour defaults config).handover = {} := rfl
  rw [hstart] at hlog
  have sound := hlog.sound
  have hheld (pass : Nat) (key : InstallationKey) :
      (c.handover.workers pass).held? = some key ↔
        ∃ opened, c.passes.find? pass = some opened ∧ opened.key = key := by
    change (c.station pass).held? = some key ↔ _
    unfold station
    cases c.passes.find? pass with
    | none => simp [Station.held?]
    | some opened => simp [Station.held?]
  refine ⟨fun key => ?_, ?_, log, hlog, fun key chi hfind hread => ?_⟩
  · rw [← exists_congr fun pass => hheld pass key]
    exact sound.held.inFlight key
  · intro pass other first second hfirst hsecond hkey
    exact sound.held.unique first.key pass other ((hheld pass _).2 ⟨first, hfirst, rfl⟩)
      ((hheld other _).2 ⟨second, hsecond, hkey.symm⟩)
  · rcases sound.fresh key chi hfind hread with h | ⟨pass, htaken⟩ | h
    · exact h
    · -- Between two tasks no worker is about to look at the cache.
      change c.station pass = .taken key at htaken
      unfold station at htaken
      split at htaken <;> cases htaken
    · cases h

end Runs

end Simulation.Crew

end ShardOperator
