import ShardOperator.Proofs.Work.Order
import ShardOperator.Simulation.Crew

namespace ShardOperator

namespace Queue

section Awaiting

variable {κ : Type} {q : Queue κ} {key other : κ}

/-- There is a request for the key that nobody has taken up yet. -/
def Awaits (q : Queue κ) (key : κ) : Prop := key ∈ q.pending ∨ key ∈ q.parked

variable [DecidableEq κ]

theorem awaits_enqueue_self (hq : q.Exclusive) (hopen : q.closed = false) (key : κ) :
    (q.enqueue key).2.Awaits key := by
  rcases enqueue_cases hopen key with ⟨hqueued, he⟩ | ⟨-, -, he⟩ | ⟨-, -, he⟩
  · rw [he]
    exact .inl ((hq.queued key).2 hqueued)
  · rw [he]
    exact .inr (List.mem_insert_iff.2 (.inl rfl))
  · rw [he]
    exact .inl (List.mem_append_right _ (List.mem_singleton_self key))

theorem Awaits.enqueue (h : q.Awaits key) (hopen : q.closed = false) (other : κ) :
    (q.enqueue other).2.Awaits key := by
  rcases enqueue_cases hopen other with ⟨-, he⟩ | ⟨-, -, he⟩ | ⟨-, -, he⟩
  · rw [he]
    exact h
  · rw [he]
    exact h.imp_right List.mem_insert_of_mem
  · rw [he]
    exact h.imp_left (List.mem_append_left _)

theorem open_enqueue (hopen : q.closed = false) (key : κ) : (q.enqueue key).2.closed = false :=
  have hwork : (Op.enqueue key).IsWork := trivial
  open_perform hopen hwork

theorem open_next (hopen : q.closed = false) : q.next.2.closed = false :=
  have hwork : (Op.next : Op κ).IsWork := trivial
  open_perform hopen hwork

/-- A request is open until its key is handed out. -/
theorem Awaits.next (h : q.Awaits key) (hnext : q.next.1 = .key other) (hne : key ≠ other) :
    q.next.2.Awaits key := by
  obtain ⟨rest, hpending, hrest, -, hparked⟩ := next_eq_key hnext
  unfold Awaits
  rw [hrest, hparked]
  refine h.imp_left fun hmem => ?_
  rw [hpending] at hmem
  exact (List.mem_cons.1 hmem).resolve_left hne

theorem Awaits.done (h : q.Awaits key) (hopen : q.closed = false) (other : κ) :
    (q.done other).Awaits key := by
  obtain ⟨-, hparked, hpending⟩ := done_cases hopen other
  unfold Awaits
  rw [hparked, mem_remove]
  by_cases hkey : key = other
  · subst hkey
    rcases hpending with ⟨-, hpending⟩ | ⟨hfree, hpending⟩
    · exact .inl (by simp [hpending])
    · rw [hpending]
      exact .inl (h.resolve_right hfree)
  · refine h.imp (fun hmem => ?_) fun hmem => ⟨hmem, hkey⟩
    rcases hpending with ⟨-, hpending⟩ | ⟨-, hpending⟩
    · simp [hpending, hmem]
    · rw [hpending]
      exact hmem

theorem Awaits.forget (h : q.Awaits key) (hne : key ≠ other) : (q.forget other).Awaits key := by
  refine h.imp (fun hmem => ?_) fun hmem => mem_remove.2 ⟨hmem, hne⟩
  unfold Queue.forget
  dsimp only
  split
  · exact mem_remove.2 ⟨hmem, hne⟩
  · exact hmem

theorem inFlight_enqueue (q : Queue κ) (key : κ) : (q.enqueue key).2.inFlight = q.inFlight := by
  unfold enqueue
  split
  · rfl
  · split <;> rfl

theorem inFlight_done (q : Queue κ) (key : κ) :
    (q.done key).inFlight = remove key q.inFlight := by
  unfold done
  extract_lets taken
  split <;> rfl

end Awaiting

end Queue

/-- How a pass ends for the worker who waits for it. -/
inductive PassEnd where
  | ended (outcome : Outcome PassReport)
  | crashed
  | timedOut

namespace PassEnd

/-- Another pass is worth a try soon. -/
def retry : PassEnd → Bool
  | ended outcome => Simulation.Crew.isRetryable outcome
  | crashed | timedOut => true

end PassEnd

/-- Where the loop of a worker stands. -/
inductive Station where
  | free
  /-- The worker has a key and has not looked at the cache yet. -/
  | taken (key : InstallationKey)
  /-- The installation is gone or going. -/
  | idle (key : InstallationKey)
  | passing (key : InstallationKey)
  | passed (key : InstallationKey) (retry : Bool)
  /-- The key has been given back, and another pass has still to be scheduled. -/
  | scheduling (key : InstallationKey) (retry : Bool)

namespace Station

/-- The key that the worker has been handed and has not given back. -/
def held? : Station → Option InstallationKey
  | taken key | idle key | passing key | passed key _ => some key
  | free | scheduling .. => none

/-- There is work to do for an installation that is there and not about to go. -/
def afterLook (key : InstallationKey) : Option InstallationResource → Station
  | none => idle key
  | some chi => if chi.metadata.deletionTimestamp.isSome then idle key else passing key

theorem held?_afterLook (key : InstallationKey) (found : Option InstallationResource) :
    (afterLook key found).held? = some key := by
  cases found with
  | none => rfl
  | some chi =>
    unfold afterLook
    dsimp only
    split <;> rfl

end Station

/-- One watcher and some workers who share a cache and a queue. -/
structure Handover (ι : Type) where
  cache : Cache := {}
  queue : Queue InstallationKey := {}
  /-- What the watcher has still to tell the queue. -/
  notice : WatchEvent.Notice := .nothing
  workers : ι → Station := fun _ => .free

namespace Handover

/-- What has happened in a single step. -/
inductive Entry (ι : Type) where
  | heard (event : WatchEvent)
  | told
  | took (worker : ι) (key : InstallationKey)
  | looked (worker : ι) (key : InstallationKey) (found : Option InstallationResource)
  | passed (worker : ι) (key : InstallationKey) (result : PassEnd)
  | gaveBack (worker : ι) (key : InstallationKey)
  | scheduled (worker : ι) (key : InstallationKey)
  | requested (key : InstallationKey)

section System

variable {ι : Type}

/-- The generation after a log entry that a worker was the last to read for a key, if one has read
it since the installation was deleted. -/
def readAfter (key : InstallationKey) (known : Option (Option Int64)) :
    Entry ι → Option (Option Int64)
  | .heard (.delete chi) => if chi.key = key then none else known
  | .looked _ other (some chi) => if other = key then some chi.metadata.generation else known
  | .looked _ _ none | .heard _ | .told | .took .. | .passed .. | .gaveBack .. | .scheduled ..
  | .requested _ => known

/-- The generation that a worker was the last to read for a key since its last deletion. -/
def latestRead (key : InstallationKey) (log : List (Entry ι)) : Option (Option Int64) :=
  log.foldl (readAfter key) none

theorem latestRead_concat (key : InstallationKey) (log : List (Entry ι)) (entry : Entry ι) :
    latestRead key (log ++ [entry]) = readAfter key (latestRead key log) entry := by
  unfold latestRead
  rw [List.foldl_append]
  rfl

/-- What a worker has still to read of an installation will be read: there is a request for it, or a
worker is about to look, or the watcher is about to make the request. -/
def Expects (s : Handover ι) (key : InstallationKey) : Prop :=
  s.queue.Awaits key ∨ (∃ worker, s.workers worker = .taken key) ∨ s.notice = .request key

variable [DecidableEq ι]

def setWorker (s : Handover ι) (worker : ι) (station : Station) : Handover ι :=
  { s with workers := fun other => if other = worker then station else s.workers other }

/-- The steps that the watcher, the workers and the timers take, in any order. The cache and the
queue are never touched in one step, and a delayed request may come at any moment. -/
inductive Step (s : Handover ι) : Entry ι → Handover ι → Prop where
  | hear (event : WatchEvent) (idle : s.notice = .nothing) :
    Step s (.heard event)
      { s with cache := (event.record s.cache).2, notice := (event.record s.cache).1 }
  | tell : Step s .told { s with queue := s.notice.pass s.queue, notice := .nothing }
  | take (worker : ι) {key : InstallationKey} (free : s.workers worker = .free)
      (next : s.queue.next.1 = .key key) :
    Step s (.took worker key) ({ s with queue := s.queue.next.2 }.setWorker worker (.taken key))
  | look (worker : ι) {key : InstallationKey} (taken : s.workers worker = .taken key) :
    Step s (.looked worker key (s.cache.find? key))
      (s.setWorker worker (.afterLook key (s.cache.find? key)))
  | pass (worker : ι) {key : InstallationKey} (result : PassEnd)
      (passing : s.workers worker = .passing key) :
    Step s (.passed worker key result) (s.setWorker worker (.passed key result.retry))
  | drop (worker : ι) {key : InstallationKey} (idle : s.workers worker = .idle key) :
    Step s (.gaveBack worker key) ({ s with queue := s.queue.done key }.setWorker worker .free)
  | release (worker : ι) {key : InstallationKey} {retry : Bool}
      (passed : s.workers worker = .passed key retry) :
    Step s (.gaveBack worker key)
      ({ s with queue := s.queue.done key }.setWorker worker (.scheduling key retry))
  | schedule (worker : ι) {key : InstallationKey} {retry : Bool}
      (scheduling : s.workers worker = .scheduling key retry) :
    Step s (.scheduled worker key) (s.setWorker worker .free)
  | request (key : InstallationKey) :
    Step s (.requested key) { s with queue := (s.queue.enqueue key).2 }

/-- The states that come of any number of steps, with what has happened on the way. -/
inductive Reaches : Handover ι → List (Entry ι) → Handover ι → Prop where
  | start (s : Handover ι) : Reaches s [] s
  | step {s mid last : Handover ι} {log : List (Entry ι)} {entry : Entry ι}
      (before : Reaches s log mid) (step : Step mid entry last) : Reaches s (log ++ [entry]) last

theorem Reaches.single {s last : Handover ι} {entry : Entry ι} (h : Step s entry last) :
    Reaches s [entry] last :=
  .step (.start s) h

theorem Reaches.trans {s mid last : Handover ι} {log more : List (Entry ι)}
    (h : Reaches s log mid) (hmore : Reaches mid more last) : Reaches s (log ++ more) last := by
  induction hmore with
  | start => rwa [List.append_nil]
  | step before step ih =>
    rw [← List.append_assoc]
    exact .step ih step

end System

section Invariant

variable {ι : Type}

/-- The keys in flight are those that workers hold, each of them held by one. -/
structure Held (s : Handover ι) : Prop where
  inFlight : ∀ key, key ∈ s.queue.inFlight ↔ ∃ worker, (s.workers worker).held? = some key
  unique : ∀ key worker other, (s.workers worker).held? = some key →
    (s.workers other).held? = some key → worker = other

variable {s : Handover ι} {worker : ι} {key : InstallationKey} {station : Station}

theorem Expects.requeued {queue : Queue InstallationKey} (h : s.Expects key)
    (hqueue : s.queue.Awaits key → queue.Awaits key) : Expects { s with queue } key :=
  h.imp_left hqueue

/-- What holds at all times, with what has been read of each installation. -/
structure Sound (s : Handover ι) (read : InstallationKey → Option (Option Int64)) : Prop where
  exclusive : s.queue.Exclusive
  isOpen : s.queue.closed = false
  held : s.Held
  /-- A request is only withdrawn for an installation that is not in the cache. -/
  withdrawn : ∀ key, s.notice = .withdraw key → s.cache.find? key = none
  fresh : ∀ key chi, s.cache.find? key = some chi → read key ≠ some chi.metadata.generation →
    s.Expects key

theorem sound_start : Sound ({} : Handover ι) fun _ => none where
  exclusive := Queue.exclusive_empty
  isOpen := rfl
  held := ⟨fun _ => ⟨fun h => absurd h List.not_mem_nil, fun ⟨_, h⟩ => nomatch h⟩,
    fun _ _ _ h => nomatch h⟩
  withdrawn _ h := nomatch h
  fresh _ _ h := nomatch h

variable {read : InstallationKey → Option (Option Int64)}

theorem Expects.heard {cache : Cache} {notice : WatchEvent.Notice} (h : s.Expects key)
    (hidle : s.notice = .nothing) : Expects { s with cache, notice } key := by
  rcases h with h | h | h
  · exact .inl h
  · exact .inr (.inl h)
  · rw [hidle] at h
    cases h

/-- The queue is told of an installation unless the cache has had it in this generation. -/
theorem record_store (cache : Cache) (chi : InstallationResource) :
    (WatchEvent.apply chi).record cache =
      (if (cache.find? chi.key).map (·.metadata.generation) = some chi.metadata.generation
        then .nothing else .request chi.key, cache.insert chi.key chi) := by
  unfold WatchEvent.record Cache.observe
  dsimp only
  cases cache.find? chi.key with
  | none => simp
  | some previous =>
    by_cases hsame : previous.metadata.generation = chi.metadata.generation <;> simp [hsame]

theorem Sound.store (sound : s.Sound read) (hidle : s.notice = .nothing)
    (chi : InstallationResource) :
    Sound { s with cache := ((WatchEvent.apply chi).record s.cache).2,
                   notice := ((WatchEvent.apply chi).record s.cache).1 } read := by
  rw [record_store]
  refine ⟨sound.exclusive, sound.isOpen, ⟨sound.held.inFlight, sound.held.unique⟩,
    fun k hnotice => ?_, fun k stored hfind hread => ?_⟩
  · dsimp only at hnotice
    split at hnotice <;> cases hnotice
  · dsimp only at hfind ⊢
    rw [Table.find?_insert] at hfind
    split at hfind
    · next hkey =>
      subst hkey
      obtain rfl := Option.some.inj hfind
      split
      · next hsame =>
        obtain ⟨previous, hprevious, hgeneration⟩ := Option.map_eq_some_iff.1 hsame
        rw [← hgeneration] at hread
        exact (sound.fresh _ previous hprevious hread).heard hidle
      · exact .inr (.inr rfl)
    · exact (sound.fresh k stored hfind hread).heard hidle

theorem Sound.erase (sound : s.Sound read) (hidle : s.notice = .nothing)
    (chi : InstallationResource) :
    Sound { s with cache := s.cache.erase chi.key, notice := .withdraw chi.key }
      fun key => if chi.key = key then none else read key := by
  refine ⟨sound.exclusive, sound.isOpen, ⟨sound.held.inFlight, sound.held.unique⟩,
    fun k hnotice => ?_, fun k stored hfind hread => ?_⟩
  · obtain rfl : chi.key = k := WatchEvent.Notice.withdraw.inj hnotice
    exact (Table.find?_erase ..).trans (if_pos rfl)
  · dsimp only at hfind hread
    rw [Table.find?_erase] at hfind
    split at hfind
    · cases hfind
    · next hkey =>
      rw [if_neg hkey] at hread
      exact (sound.fresh k stored hfind hread).heard hidle

/-- What the watcher has to tell, it tells in time: a request is made before anything else can come,
and one that is withdrawn has no installation any more. -/
theorem Sound.tell (sound : s.Sound read) :
    Sound { s with queue := s.notice.pass s.queue, notice := .nothing } read := by
  cases hnotice : s.notice with
  | nothing =>
    refine ⟨sound.exclusive, sound.isOpen, ⟨sound.held.inFlight, sound.held.unique⟩,
      (fun _ h => nomatch h), fun k stored hfind hread => ?_⟩
    rcases sound.fresh k stored hfind hread with h | h | h
    · exact .inl h
    · exact .inr (.inl h)
    · rw [hnotice] at h
      cases h
  | request key =>
    change Sound { s with queue := (s.queue.enqueue key).2, notice := .nothing } read
    refine ⟨Queue.exclusive_enqueue sound.exclusive key,
      Queue.open_enqueue sound.isOpen key,
      ⟨fun k => ?_, sound.held.unique⟩, (fun _ h => nomatch h), fun k stored hfind hread => ?_⟩
    · change k ∈ (s.queue.enqueue key).2.inFlight ↔ _
      rw [Queue.inFlight_enqueue]
      exact sound.held.inFlight k
    · rcases sound.fresh k stored hfind hread with h | h | h
      · exact .inl (h.enqueue sound.isOpen key)
      · exact .inr (.inl h)
      · rw [hnotice] at h
        obtain rfl := WatchEvent.Notice.request.inj h
        exact .inl (Queue.awaits_enqueue_self sound.exclusive sound.isOpen key)
  | withdraw key =>
    change Sound { s with queue := s.queue.forget key, notice := .nothing } read
    refine ⟨Queue.exclusive_forget sound.exclusive key, sound.isOpen,
      ⟨sound.held.inFlight, sound.held.unique⟩, (fun _ h => nomatch h),
      fun k stored hfind hread => ?_⟩
    -- The installation in question is in the cache, so it is not the one that is gone.
    have hne : k ≠ key := by
      rintro rfl
      have hgone := sound.withdrawn k hnotice
      rw [show s.cache.find? k = some stored from hfind] at hgone
      cases hgone
    rcases sound.fresh k stored hfind hread with h | h | h
    · exact .inl (h.forget hne)
    · exact .inr (.inl h)
    · rw [hnotice] at h
      cases h

theorem Sound.request (sound : s.Sound read) (key : InstallationKey) :
    Sound { s with queue := (s.queue.enqueue key).2 } read where
  exclusive := Queue.exclusive_enqueue sound.exclusive key
  isOpen := Queue.open_enqueue sound.isOpen key
  held := by
    refine ⟨fun other => ?_, sound.held.unique⟩
    change other ∈ (s.queue.enqueue key).2.inFlight ↔ _
    rw [Queue.inFlight_enqueue]
    exact sound.held.inFlight other
  withdrawn := sound.withdrawn
  fresh other chi hfind hread :=
    (sound.fresh other chi hfind hread).requeued fun h => h.enqueue sound.isOpen key

variable [DecidableEq ι]

theorem workers_setWorker (s : Handover ι) (worker other : ι) (station : Station) :
    (s.setWorker worker station).workers other =
      if other = worker then station else s.workers other :=
  rfl

theorem Held.goesOn (h : s.Held) (hsame : station.held? = (s.workers worker).held?) :
    (s.setWorker worker station).Held := by
  have hheld (other : ι) :
      ((s.setWorker worker station).workers other).held? = (s.workers other).held? := by
    rw [workers_setWorker]
    split
    · next e => rw [e, hsame]
    · rfl
  constructor
  · intro key
    simp only [hheld]
    exact h.inFlight key
  · intro key first second
    rw [hheld, hheld]
    exact h.unique key first second

theorem Held.takes (h : s.Held) (exclusive : s.queue.Exclusive)
    (hfree : (s.workers worker).held? = none) (hnext : s.queue.next.1 = .key key)
    (hstation : station.held? = some key) :
    ({ s with queue := s.queue.next.2 }.setWorker worker station).Held := by
  obtain ⟨rest, hpending, -, hflight, -⟩ := Queue.next_eq_key hnext
  have hqueued : key ∈ s.queue.queued := (exclusive.queued key).1 (by simp [hpending])
  have hnobody (other : ι) : (s.workers other).held? ≠ some key := fun e =>
    exclusive.disjoint key hqueued ((h.inFlight key).2 ⟨other, e⟩)
  constructor
  · intro k
    change k ∈ s.queue.next.2.inFlight ↔ _
    simp only [hflight, List.mem_insert_iff, h.inFlight, workers_setWorker]
    constructor
    · rintro (rfl | ⟨other, hother⟩)
      · exact ⟨worker, by rw [if_pos rfl, hstation]⟩
      · have hdistinct : other ≠ worker := by
          rintro rfl
          rw [hfree] at hother
          cases hother
        exact ⟨other, by rw [if_neg hdistinct, hother]⟩
    · rintro ⟨other, hother⟩
      split at hother
      · exact .inl (Option.some.inj (hother.symm.trans hstation))
      · exact .inr ⟨other, hother⟩
  · intro k first second hfirst hsecond
    simp only [workers_setWorker] at hfirst hsecond
    split at hfirst <;> split at hsecond
    · next e₁ e₂ => rw [e₁, e₂]
    · rw [hstation] at hfirst
      exact absurd (hsecond.trans hfirst.symm) (hnobody second)
    · rw [hstation] at hsecond
      exact absurd (hfirst.trans hsecond.symm) (hnobody first)
    · exact h.unique k first second hfirst hsecond

theorem Held.givesBack (h : s.Held) (hheld : (s.workers worker).held? = some key)
    (hstation : station.held? = none) :
    ({ s with queue := s.queue.done key }.setWorker worker station).Held := by
  constructor
  · intro k
    change k ∈ (s.queue.done key).inFlight ↔ _
    simp only [Queue.inFlight_done, Queue.mem_remove, h.inFlight, workers_setWorker]
    constructor
    · rintro ⟨⟨other, hother⟩, hne⟩
      have hdistinct : other ≠ worker := by
        rintro rfl
        exact hne (Option.some.inj (hother.symm.trans hheld))
      exact ⟨other, by rw [if_neg hdistinct, hother]⟩
    · rintro ⟨other, hother⟩
      split at hother
      · rw [hstation] at hother
        cases hother
      · next hne =>
        refine ⟨⟨other, hother⟩, ?_⟩
        rintro rfl
        exact hne (h.unique k other worker hother hheld)
  · intro k first second hfirst hsecond
    simp only [workers_setWorker] at hfirst hsecond
    split at hfirst <;> split at hsecond
    · next e₁ e₂ => rw [e₁, e₂]
    · rw [hstation] at hfirst
      cases hfirst
    · rw [hstation] at hsecond
      cases hsecond
    · exact h.unique k first second hfirst hsecond

/-- Nothing that is expected gets lost when a worker goes on that was not about to look. -/
theorem Expects.goesOn (h : s.Expects key) (hne : s.workers worker ≠ .taken key) :
    (s.setWorker worker station).Expects key := by
  refine h.imp_right (Or.imp_left fun hlook => ?_)
  obtain ⟨other, hother⟩ := hlook
  have hdistinct : other ≠ worker := by
    rintro rfl
    exact hne hother
  exact ⟨other, by rw [workers_setWorker, if_neg hdistinct, hother]⟩

theorem Sound.goesOn (sound : s.Sound read) (hsame : station.held? = (s.workers worker).held?)
    (hlook : ∀ key, s.workers worker ≠ .taken key) :
    (s.setWorker worker station).Sound read where
  exclusive := sound.exclusive
  isOpen := sound.isOpen
  held := sound.held.goesOn hsame
  withdrawn := sound.withdrawn
  fresh key chi hfind hread := (sound.fresh key chi hfind hread).goesOn (hlook key)

/-- A worker who looks reads the latest generation there is. -/
theorem Sound.look (sound : s.Sound read) (htaken : s.workers worker = .taken key) :
    (s.setWorker worker (.afterLook key (s.cache.find? key))).Sound fun other =>
      readAfter other (read other) (.looked worker key (s.cache.find? key)) where
  exclusive := sound.exclusive
  isOpen := sound.isOpen
  held := sound.held.goesOn (by rw [Station.held?_afterLook, htaken]; rfl)
  withdrawn := sound.withdrawn
  fresh other chi hfind hread := by
    have hfind : s.cache.find? other = some chi := hfind
    by_cases hkey : key = other
    · subst hkey
      rw [hfind] at hread
      exact absurd (if_pos rfl) hread
    · have hunread : readAfter other (read other) (.looked worker key (s.cache.find? key)) =
          read other := by
        cases s.cache.find? key with
        | none => rfl
        | some found => exact if_neg hkey
      rw [hunread] at hread
      refine (sound.fresh other chi hfind hread).goesOn ?_
      rw [htaken]
      exact fun e => hkey (Station.taken.inj e)

theorem Sound.take (sound : s.Sound read) (hfree : s.workers worker = .free)
    (hnext : s.queue.next.1 = .key key) :
    ({ s with queue := s.queue.next.2 }.setWorker worker (.taken key)).Sound read where
  exclusive := Queue.exclusive_next sound.exclusive
  isOpen := Queue.open_next sound.isOpen
  held := sound.held.takes sound.exclusive (by rw [hfree]; rfl) hnext rfl
  withdrawn := sound.withdrawn
  fresh other chi hfind hread := by
    by_cases hkey : other = key
    · exact .inr (.inl ⟨worker, by rw [workers_setWorker, if_pos rfl, hkey]⟩)
    · have h := (sound.fresh other chi hfind hread).requeued fun h => h.next hnext hkey
      exact h.goesOn fun e => nomatch hfree.symm.trans e

/-- A key that is given back is requested again if it has been parked. -/
theorem Sound.giveBack (sound : s.Sound read) (hheld : (s.workers worker).held? = some key)
    (hlook : ∀ key, s.workers worker ≠ .taken key) (hstation : station.held? = none) :
    ({ s with queue := s.queue.done key }.setWorker worker station).Sound read where
  exclusive := Queue.exclusive_done sound.exclusive key
  isOpen := (Queue.done_cases sound.isOpen key).1
  held := sound.held.givesBack hheld hstation
  withdrawn := sound.withdrawn
  fresh other chi hfind hread := by
    have h := (sound.fresh other chi hfind hread).requeued fun h => h.done sound.isOpen key
    exact h.goesOn (hlook other)

theorem Sound.step {entry : Entry ι} {next : Handover ι} (sound : s.Sound read)
    (step : Step s entry next) :
    next.Sound fun key => readAfter key (read key) entry := by
  cases step with
  | hear event hidle =>
    cases event with
    | apply chi | listed chi => exact sound.store hidle chi
    | delete chi => exact sound.erase hidle chi
    | listing | listingDone =>
      exact ⟨sound.exclusive, sound.isOpen, ⟨sound.held.inFlight, sound.held.unique⟩,
        (fun _ h => nomatch h), fun key chi hfind hread =>
          (sound.fresh key chi hfind hread).heard hidle⟩
  | tell => exact sound.tell
  | take worker hfree hnext => exact sound.take hfree hnext
  | look worker htaken => exact sound.look htaken
  | pass worker result hpassing =>
    exact sound.goesOn (by rw [hpassing]; rfl) fun key e => nomatch hpassing.symm.trans e
  | drop worker hidle =>
    exact sound.giveBack (by rw [hidle]; rfl) (fun key e => nomatch hidle.symm.trans e) rfl
  | release worker hpassed =>
    exact sound.giveBack (by rw [hpassed]; rfl) (fun key e => nomatch hpassed.symm.trans e) rfl
  | schedule worker hscheduling =>
    exact sound.goesOn (by rw [hscheduling]; rfl) fun key e => nomatch hscheduling.symm.trans e
  | request key => exact sound.request key

theorem Reaches.sound {log : List (Entry ι)} (reaches : Reaches {} log s) :
    s.Sound (latestRead · log) := by
  induction reaches with
  | start => exact sound_start
  | step before step ih =>
    simp only [latestRead_concat]
    exact ih.step step

/-- No change is lost between the watcher and the workers. In every state that they can come to, an
installation in the cache whose generation is not the one that was read last for it since its last
deletion is still going to be read: it waits, or is parked, or a worker is about to look at the
cache for it, or the watcher is about to request it. And the keys in flight are those that the
workers hold, each of them held by one. -/
theorem no_change_lost {log : List (Entry ι)} (reaches : Reaches {} log s) :
    (∀ key chi, s.cache.find? key = some chi →
      latestRead key log ≠ some chi.metadata.generation →
        key ∈ s.queue.pending ∨ key ∈ s.queue.parked ∨
          (∃ worker, s.workers worker = .taken key) ∨ s.notice = .request key) ∧
    (∀ key, key ∈ s.queue.inFlight ↔ ∃ worker, (s.workers worker).held? = some key) ∧
    ∀ key worker other, (s.workers worker).held? = some key →
      (s.workers other).held? = some key → worker = other := by
  have sound := reaches.sound
  refine ⟨fun key chi hfind hread => ?_, sound.held.inFlight, sound.held.unique⟩
  rcases sound.fresh key chi hfind hread with (h | h) | h
  · exact .inl h
  · exact .inr (.inl h)
  · exact .inr (.inr h)

/-- The general result where an installation is deleted and created again, in the generation that a
worker has read, while the worker's pass goes on. -/
theorem no_change_lost_recreated :
    let chi : InstallationResource := {
      metadata := { ns := some "ns", name := some "demo", generation := some 1 }
      spec := {} }
    ∃ (log : List (Entry Unit)) (s : Handover Unit), Reaches {} log s ∧
      s.workers () = .passing chi.key ∧ s.cache.find? chi.key = some chi ∧
      latestRead chi.key log ≠ some chi.metadata.generation ∧
      (chi.key ∈ s.queue.pending ∨ chi.key ∈ s.queue.parked ∨
        (∃ worker, s.workers worker = .taken chi.key) ∨ s.notice = .request chi.key) := by
  intro chi
  have taken := (((Reaches.start {}).step (.hear (.apply chi) rfl)).step .tell).step
    (.take () rfl rfl)
  have passing := taken.step (.look () rfl)
  have deleted := (passing.step (.hear (.delete chi) rfl)).step .tell
  have created := (deleted.step (.hear (.apply chi) rfl)).step .tell
  refine ⟨_, _, created, rfl, rfl, ?_, ?_⟩
  · change none ≠ some chi.metadata.generation
    exact nofun
  · refine (no_change_lost created).1 chi.key chi rfl ?_
    change none ≠ some chi.metadata.generation
    exact nofun

end Invariant

end Handover

end ShardOperator
