import ShardOperator.Proofs.Work.Handover

namespace ShardOperator

namespace Queue

variable {κ : Type} [DecidableEq κ] {q : Queue κ} {key other : κ}

theorem Awaits.of_enqueue (hopen : q.closed = false) (h : (q.enqueue other).2.Awaits key) :
    q.Awaits key ∨ key = other := by
  rcases enqueue_cases hopen other with ⟨-, he⟩ | ⟨-, -, he⟩ | ⟨-, -, he⟩
  · rw [he] at h
    exact .inl h
  · rw [he] at h
    rcases h with h | h
    · exact .inl (.inl h)
    · rcases List.mem_insert_iff.1 h with h | h
      · exact .inr h
      · exact .inl (.inr h)
  · rw [he] at h
    rcases h with h | h
    · rcases List.mem_append.1 h with h | h
      · exact .inl (.inl h)
      · exact .inr (List.mem_singleton.1 h)
    · exact .inl (.inr h)

theorem Awaits.of_next (hnext : q.next.1 = .key other) (h : q.next.2.Awaits key) :
    q.Awaits key := by
  obtain ⟨rest, hpending, hrest, -, hparked⟩ := next_eq_key hnext
  unfold Awaits at h ⊢
  rw [hrest, hparked] at h
  rw [hpending]
  exact h.imp_left (List.mem_cons_of_mem _)

theorem Awaits.of_done (hopen : q.closed = false) (h : (q.done other).Awaits key) :
    q.Awaits key := by
  obtain ⟨-, hparked, hpending⟩ := done_cases hopen other
  unfold Awaits at h ⊢
  rw [hparked, mem_remove] at h
  rcases h with h | h
  · rcases hpending with ⟨hother, hpending⟩ | ⟨-, hpending⟩
    · rw [hpending, List.mem_append, List.mem_singleton] at h
      rcases h with h | rfl
      · exact .inl h
      · exact .inr hother
    · rw [hpending] at h
      exact .inl h
  · exact .inr h.1

end Queue

/-- What a watch tells when it lists all installations anew. -/
def WatchEvent.relist (objects : List InstallationResource) : List WatchEvent :=
  .listing :: (objects.map .listed ++ [.listingDone])

theorem WatchEvent.listed_mem_relist {objects : List InstallationResource}
    {chi : InstallationResource} : .listed chi ∈ relist objects ↔ chi ∈ objects := by
  simp [relist]

namespace Cache

variable {cache : Cache} {key : InstallationKey} {chi : InstallationResource}

/-- What the cache is after some events. -/
def after (cache : Cache) (events : List WatchEvent) : Cache :=
  events.foldl (fun cache event => (event.record cache).2) cache

theorem after_append (cache : Cache) (events more : List WatchEvent) :
    cache.after (events ++ more) = (cache.after events).after more :=
  List.foldl_append

theorem record_listed (cache : Cache) (chi : InstallationResource) :
    ((WatchEvent.listed chi).record cache).2 = cache.insert chi.key chi :=
  congrArg Prod.snd (Handover.record_store cache chi)

theorem find?_listed (cache : Cache) (objects : List InstallationResource)
    (key : InstallationKey) :
    (cache.after (objects.map .listed)).find? key =
      (objects.reverse.find? (·.key = key)).or (cache.find? key) := by
  induction objects generalizing cache with
  | nil => rfl
  | cons chi rest ih =>
    have hfirst : cache.after ((chi :: rest).map .listed) =
        Cache.after (cache.insert chi.key chi) (rest.map .listed) :=
      congrArg (Cache.after · _) (cache.record_listed chi)
    rw [hfirst, ih, Table.find?_insert, List.reverse_cons, List.find?_append, Option.or_assoc]
    by_cases hkey : chi.key = key <;> simp [hkey]

/-- A relist puts what it lists over what has been there. -/
theorem find?_relist (cache : Cache) (objects : List InstallationResource)
    (key : InstallationKey) :
    (cache.after (WatchEvent.relist objects)).find? key =
      (objects.reverse.find? (·.key = key)).or (cache.find? key) := by
  have hlisting : cache.after [.listing] = cache := rfl
  have hdone (listed : Cache) : listed.after [.listingDone] = listed := rfl
  rw [WatchEvent.relist, ← List.singleton_append, after_append, after_append, hlisting, hdone,
    find?_listed]

/-- The generation in which the cache has an installation. -/
def generation? (cache : Cache) (key : InstallationKey) : Option (Option Int64) :=
  (cache.find? key).map (·.metadata.generation)

theorem generation?_listed (cache : Cache) (chi : InstallationResource) (key : InstallationKey) :
    generation? ((WatchEvent.listed chi).record cache).2 key =
      if chi.key = key then some chi.metadata.generation else cache.generation? key := by
  rw [record_listed]
  unfold generation?
  rw [Table.find?_insert]
  split <;> rfl

/-- An installation is listed in another generation than the cache has it in. -/
def Outdated (cache : Cache) (key : InstallationKey) (events : List WatchEvent) : Prop :=
  ∃ chi, .listed chi ∈ events ∧ chi.key = key ∧ cache.generation? key ≠ some chi.metadata.generation

theorem outdated_concat {events : List WatchEvent} {event : WatchEvent} :
    cache.Outdated key (events ++ [event]) ↔
      cache.Outdated key events ∨ cache.Outdated key [event] := by
  unfold Outdated
  constructor
  · rintro ⟨chi, hmem, hchi⟩
    exact (List.mem_append.1 hmem).imp (⟨chi, ·, hchi⟩) (⟨chi, ·, hchi⟩)
  · rintro (⟨chi, hmem, hchi⟩ | ⟨chi, hmem, hchi⟩)
    · exact ⟨chi, List.mem_append_left _ hmem, hchi⟩
    · exact ⟨chi, List.mem_append_right _ hmem, hchi⟩

theorem outdated_listed :
    cache.Outdated key [.listed chi] ↔
      chi.key = key ∧ cache.generation? key ≠ some chi.metadata.generation := by
  constructor
  · rintro ⟨other, hmem, hother⟩
    obtain rfl := WatchEvent.listed.inj (List.mem_singleton.1 hmem)
    exact hother
  · exact fun h => ⟨chi, List.mem_singleton_self _, h⟩

theorem not_outdated {event : WatchEvent} (hevent : ∀ chi, event ≠ .listed chi) :
    ¬ cache.Outdated key [event] := by
  rintro ⟨chi, hmem, -⟩
  exact hevent chi (List.mem_singleton.1 hmem).symm

end Cache

namespace Handover

section Relist

variable {ι : Type}

def Entry.heard? : Entry ι → Option WatchEvent
  | .heard event => some event
  | .told | .took .. | .looked .. | .passed .. | .gaveBack .. | .scheduled .. | .requested _ => none

/-- What the watcher has heard along a log. -/
def heard (log : List (Entry ι)) : List WatchEvent := log.filterMap Entry.heard?

theorem heard_concat (log : List (Entry ι)) (entry : Entry ι) :
    heard (log ++ [entry]) = heard log ++ entry.heard?.toList := by
  unfold heard
  rw [List.filterMap_append]
  cases h : entry.heard? <;> simp [h]

/-- The key waits, or it is about to. -/
def Asks (s : Handover ι) (key : InstallationKey) : Prop :=
  s.queue.Awaits key ∨ s.notice = .request key

variable {s t u : Handover ι} {log : List (Entry ι)} {entry : Entry ι} {key : InstallationKey}

/-- What the watcher tells, the queue knows, unless a request is withdrawn. -/
theorem asks_told (exclusive : t.queue.Exclusive) (isOpen : t.queue.closed = false)
    (hnotice : ∀ other, t.notice ≠ .withdraw other) :
    Asks { t with queue := t.notice.pass t.queue, notice := .nothing } key ↔ t.Asks key := by
  have hrequest : (WatchEvent.Notice.nothing = .request key) ↔ False := ⟨nofun, False.elim⟩
  unfold Asks
  rw [hrequest, or_false]
  cases hn : t.notice with
  | nothing =>
    rw [hrequest, or_false]
    exact Iff.rfl
  | request other =>
    constructor
    · intro h
      rcases Queue.Awaits.of_enqueue isOpen h with h | rfl
      · exact .inl h
      · exact .inr rfl
    · rintro (h | h)
      · exact h.enqueue isOpen other
      · obtain rfl := WatchEvent.Notice.request.inj h
        exact Queue.awaits_enqueue_self exclusive isOpen other
  | withdraw other => exact absurd hn (hnotice other)

theorem asks_listed (hidle : t.notice = .nothing) (chi : InstallationResource) :
    Asks { t with cache := ((WatchEvent.listed chi).record t.cache).2,
                  notice := ((WatchEvent.listed chi).record t.cache).1 } key ↔
      t.Asks key ∨ t.cache.Outdated key [.listed chi] := by
  have hrecord : (WatchEvent.listed chi).record t.cache =
      (if t.cache.generation? chi.key = some chi.metadata.generation then .nothing
        else .request chi.key, t.cache.insert chi.key chi) := record_store t.cache chi
  have hbefore : t.Asks key ↔ t.queue.Awaits key :=
    or_iff_left fun hnotice => nomatch hidle.symm.trans hnotice
  rw [hrecord, hbefore, Cache.outdated_listed]
  refine or_congr_right ?_
  dsimp only
  split
  · next hsame =>
    refine ⟨nofun, ?_⟩
    rintro ⟨rfl, hne⟩
    exact absurd hsame hne
  · next hne =>
    constructor
    · intro hkey
      obtain rfl := WatchEvent.Notice.request.inj hkey
      exact ⟨rfl, hne⟩
    · rintro ⟨rfl, -⟩
      rfl

theorem notice_listed (cache : Cache) (chi : InstallationResource) (other : InstallationKey) :
    ((WatchEvent.listed chi).record cache).1 ≠ .withdraw other := by
  have hrecord := congrArg Prod.fst (record_store cache chi)
  intro hnotice
  rw [show ((WatchEvent.listed chi).record cache).1 = _ from hrecord] at hnotice
  dsimp only at hnotice
  split at hnotice <;> cases hnotice

/-- Nothing is told of a single installation while they are all listed. -/
def Relists (events : List WatchEvent) : Prop :=
  ∀ event ∈ events, event = .listing ∨ (∃ chi, event = .listed chi) ∨ event = .listingDone

theorem relists_relist (objects : List InstallationResource) :
    Relists (WatchEvent.relist objects) := by
  intro event hmem
  rcases List.mem_cons.1 hmem with rfl | hmem
  · exact .inl rfl
  · rcases List.mem_append.1 hmem with hmem | hmem
    · obtain ⟨chi, -, rfl⟩ := List.mem_map.1 hmem
      exact .inr (.inl ⟨chi, rfl⟩)
    · exact .inr (.inr (List.mem_singleton.1 hmem))

/-- What has come of a relist so far, for one key. -/
structure Relisted (s : Handover ι) (key : InstallationKey) (log : List (Entry ι))
    (t : Handover ι) : Prop where
  notice : ∀ other, t.notice ≠ .withdraw other
  generation : t.cache.generation? key = s.cache.generation? key ∨
    s.cache.Outdated key (heard log)
  asks : s.cache.Outdated key (heard log) → (∀ worker, .took worker key ∉ log) → t.Asks key
  asked : t.Asks key →
    s.queue.Awaits key ∨ .requested key ∈ log ∨ s.cache.Outdated key (heard log)

theorem relisted_start (hidle : s.notice = .nothing) (key : InstallationKey) :
    Relisted s key [] s where
  notice _ h := nomatch hidle.symm.trans h
  generation := .inl rfl
  asks := fun ⟨_, h, _⟩ => absurd h List.not_mem_nil
  asked h := .inl (h.resolve_right fun h => nomatch hidle.symm.trans h)

/-- An installation that is listed is asked for when its generation is new to the cache. -/
theorem Relisted.listed (h : Relisted s key log t) (hidle : t.notice = .nothing)
    (chi : InstallationResource) :
    Relisted s key (log ++ [.heard (.listed chi)])
      { t with cache := ((WatchEvent.listed chi).record t.cache).2,
               notice := ((WatchEvent.listed chi).record t.cache).1 } := by
  have hheard : heard (log ++ [.heard (.listed chi)]) = heard log ++ [.listed chi] :=
    heard_concat log _
  -- What is not as it was before the relist has been listed in the meantime.
  have hmeantime : t.cache.Outdated key [.listed chi] →
      s.cache.Outdated key (heard log) ∨ s.cache.Outdated key [.listed chi] := by
    intro houtdated
    refine h.generation.symm.imp_right fun hsame => ?_
    rw [Cache.outdated_listed] at houtdated ⊢
    rwa [← hsame]
  constructor
  · exact notice_listed t.cache chi
  · rw [hheard, Cache.outdated_concat, Cache.generation?_listed, Cache.outdated_listed]
    split
    · next hkey =>
      by_cases hsame : s.cache.generation? key = some chi.metadata.generation
      · exact .inl hsame.symm
      · exact .inr (.inr ⟨hkey, hsame⟩)
    · exact h.generation.imp_right .inl
  · rw [hheard, Cache.outdated_concat, asks_listed hidle]
    intro houtdated htook
    have hbefore : ∀ worker, .took worker key ∉ log :=
      fun worker hmem => htook worker (List.mem_append_left _ hmem)
    rcases houtdated with houtdated | houtdated
    · exact .inl (h.asks houtdated hbefore)
    · rcases h.generation with hsame | houtdated
      · rw [Cache.outdated_listed, ← hsame, ← Cache.outdated_listed] at houtdated
        exact .inr houtdated
      · exact .inl (h.asks houtdated hbefore)
  · rw [hheard, Cache.outdated_concat, asks_listed hidle, List.mem_append]
    rintro (hasks | houtdated)
    · exact (h.asked hasks).imp_right fun h => h.imp .inl .inl
    · exact .inr (.inr (hmeantime houtdated))

theorem Relisted.quiet (h : Relisted s key log t)
    (hheard : s.cache.Outdated key (heard (log ++ [entry])) ↔ s.cache.Outdated key (heard log))
    (hcache : u.cache = t.cache) (hnotice : ∀ other, u.notice ≠ .withdraw other)
    (hkept : t.Asks key → (∀ worker, entry ≠ .took worker key) → u.Asks key)
    (hnew : u.Asks key → t.Asks key ∨ entry = .requested key) :
    Relisted s key (log ++ [entry]) u := by
  constructor
  · exact hnotice
  · rw [hheard, hcache]
    exact h.generation
  · rw [hheard]
    intro houtdated htook
    refine hkept (h.asks houtdated fun worker hmem => ?_) fun worker heq => ?_
    · exact htook worker (List.mem_append_left _ hmem)
    · exact htook worker (heq ▸ List.mem_append_right _ (List.mem_singleton_self _))
  · rw [hheard, List.mem_append, List.mem_singleton]
    intro hasks
    rcases hnew hasks with hasks | rfl
    · exact (h.asked hasks).imp_right fun h => h.imp_left .inl
    · exact .inr (.inl (.inr rfl))

theorem Relisted.hear (h : Relisted s key log t) (hidle : t.notice = .nothing) {event : WatchEvent}
    (hevent : Relists [event]) :
    Relisted s key (log ++ [.heard event])
      { t with cache := (event.record t.cache).2, notice := (event.record t.cache).1 } := by
  have hquiet (hlisted : ∀ chi, event ≠ .listed chi)
      (hrecord : event.record t.cache = (.nothing, t.cache)) :
      Relisted s key (log ++ [.heard event])
        { t with cache := (event.record t.cache).2, notice := (event.record t.cache).1 } := by
    have hheard : heard (log ++ [.heard event]) = heard log ++ [event] := heard_concat log _
    rw [hrecord, ← hidle]
    refine h.quiet ?_ rfl h.notice (fun h _ => h) .inl
    rw [hheard, Cache.outdated_concat]
    exact or_iff_left (Cache.not_outdated hlisted)
  rcases hevent event (List.mem_singleton_self _) with rfl | ⟨chi, rfl⟩ | rfl
  · exact hquiet (fun _ hlisted => WatchEvent.noConfusion hlisted) rfl
  · exact h.listed hidle chi
  · exact hquiet (fun _ hlisted => WatchEvent.noConfusion hlisted) rfl

variable [DecidableEq ι]

/-- A step in which the watcher hears nothing keeps the cache, and a key asks on until a worker
takes it. -/
theorem Step.unheard (step : Step t entry u) (hentry : entry.heard? = none)
    (exclusive : t.queue.Exclusive) (isOpen : t.queue.closed = false)
    (hnotice : ∀ other, t.notice ≠ .withdraw other) (key : InstallationKey) :
    u.cache = t.cache ∧ (∀ other, u.notice ≠ .withdraw other) ∧
      (t.Asks key → (∀ worker, entry ≠ .took worker key) → u.Asks key) ∧
      (u.Asks key → t.Asks key ∨ entry = .requested key) := by
  cases step with
  | hear event idle => cases hentry
  | tell =>
    have hasks : Asks { t with queue := t.notice.pass t.queue, notice := .nothing } key ↔
        t.Asks key := asks_told exclusive isOpen hnotice
    refine ⟨rfl, nofun, ?_, ?_⟩
    · intro h _
      exact hasks.2 h
    · intro h
      exact .inl (hasks.1 h)
  | take worker free next =>
    refine ⟨rfl, hnotice, ?_, ?_⟩
    · intro hasks hnot
      refine hasks.imp_left fun h => h.next next ?_
      rintro rfl
      exact hnot worker rfl
    · intro hasks
      exact .inl (hasks.imp_left (Queue.Awaits.of_next next))
  | look worker taken => exact ⟨rfl, hnotice, fun h _ => h, .inl⟩
  | pass worker result passing => exact ⟨rfl, hnotice, fun h _ => h, .inl⟩
  | drop worker idle =>
    exact ⟨rfl, hnotice, fun h _ => h.imp_left (Queue.Awaits.done · isOpen _),
      fun h => .inl (h.imp_left (Queue.Awaits.of_done isOpen))⟩
  | release worker passed =>
    exact ⟨rfl, hnotice, fun h _ => h.imp_left (Queue.Awaits.done · isOpen _),
      fun h => .inl (h.imp_left (Queue.Awaits.of_done isOpen))⟩
  | schedule worker scheduling => exact ⟨rfl, hnotice, fun h _ => h, .inl⟩
  | request other =>
    refine ⟨rfl, hnotice, fun h _ => h.imp_left (Queue.Awaits.enqueue · isOpen other), ?_⟩
    rintro (h | h)
    · rcases Queue.Awaits.of_enqueue isOpen h with h | rfl
      · exact .inl (.inl h)
      · exact .inr rfl
    · exact .inl (.inr h)

theorem Relisted.step (h : Relisted s key log t) (step : Step t entry u)
    (exclusive : t.queue.Exclusive) (isOpen : t.queue.closed = false)
    (hrelists : Relists entry.heard?.toList) : Relisted s key (log ++ [entry]) u := by
  cases hentry : entry.heard? with
  | none =>
    obtain ⟨hcache, hnotice, hkept, hnew⟩ :=
      step.unheard hentry exclusive isOpen h.notice key
    refine h.quiet ?_ hcache hnotice hkept hnew
    rw [heard_concat, hentry, Option.toList_none, List.append_nil]
  | some event =>
    rw [hentry] at hrelists
    cases step with
    | hear event hidle =>
      obtain rfl := Option.some.inj hentry
      exact h.hear hidle hrelists
    | _ => cases hentry

theorem Reaches.relisted {before : List (Entry ι)} (reached : Reaches {} before s)
    (hidle : s.notice = .nothing) (reaches : Reaches s log t) (hrelists : Relists (heard log)) :
    Relisted s key log t := by
  induction reaches with
  | start => exact relisted_start hidle key
  | step earlier step ih =>
    rw [heard_concat] at hrelists
    have sound := (reached.trans earlier).sound
    refine (ih ?_).step step sound.exclusive sound.isOpen ?_
    · exact fun event hmem => hrelists event (List.mem_append_left _ hmem)
    · exact fun event hmem => hrelists event (List.mem_append_right _ hmem)

/-- Nobody but the watcher writes to the cache. -/
theorem Reaches.cache (reaches : Reaches s log t) :
    t.cache = s.cache.after (heard log) := by
  induction reaches with
  | start => rfl
  | step earlier step ih =>
    rw [heard_concat, Cache.after_append, ← ih]
    cases step <;> rfl

/-- A relist only ever adds to the cache. The last version that has been listed of an installation
is cached, and what has not been listed stays as it was. And while nobody takes a key, there is a
request for it if it has been listed in a generation that was not cached before; unless there was a
request already or somebody else has made one, there is none otherwise. -/
theorem relist_adds {before : List (Entry ι)} {objects : List InstallationResource}
    (reached : Reaches {} before s) (hidle : s.notice = .nothing) (reaches : Reaches s log t)
    (hrelist : heard log = WatchEvent.relist objects) (hdone : t.notice = .nothing)
    (key : InstallationKey) :
    t.cache.find? key =
        (objects.reverse.find? (·.key = key)).or (s.cache.find? key) ∧
      (∀ chi ∈ objects, chi.key = key → s.cache.generation? key ≠ some chi.metadata.generation →
        (∀ worker, .took worker key ∉ log) → t.queue.Awaits key) ∧
      (t.queue.Awaits key → s.queue.Awaits key ∨ .requested key ∈ log ∨
        ∃ chi ∈ objects, chi.key = key ∧
          s.cache.generation? key ≠ some chi.metadata.generation) := by
  have hrelists : Relists (heard log) := hrelist ▸ relists_relist objects
  have relisted : Relisted s key log t := reached.relisted hidle reaches hrelists
  have hasks : t.Asks key ↔ t.queue.Awaits key :=
    or_iff_left fun hnotice => nomatch hdone.symm.trans hnotice
  have houtdated : s.cache.Outdated key (heard log) ↔ ∃ chi ∈ objects, chi.key = key ∧
      s.cache.generation? key ≠ some chi.metadata.generation := by
    rw [hrelist]
    exact exists_congr fun chi => and_congr_left' WatchEvent.listed_mem_relist
  refine ⟨?_, ?_, ?_⟩
  · rw [reaches.cache, hrelist, Cache.find?_relist]
  · intro chi hmem hkey hgeneration htook
    exact hasks.1 (relisted.asks (houtdated.2 ⟨chi, hmem, hkey, hgeneration⟩) htook)
  · intro hawaits
    rw [← houtdated]
    exact relisted.asked (hasks.2 hawaits)

/-- An installation with nothing but an identity and a generation. -/
def bare (name uid : String) (generation : Int64) : InstallationResource where
  metadata := {
    ns := some "ns", name := some name, uid := some uid, generation := some generation }
  spec := {}

/-- The general result where the generation of an installation has changed. -/
theorem relist_adds_changed :
    let old := bare "demo" "1" 1
    let changed := bare "demo" "1" 2
    ∃ (before log : List (Entry Unit)) (s t : Handover Unit), Reaches {} before s ∧
      s.notice = .nothing ∧ Reaches s log t ∧ heard log = WatchEvent.relist [changed] ∧
      t.notice = .nothing ∧ s.cache.find? changed.key = some old ∧
      t.cache.find? changed.key = some changed ∧ t.queue.Awaits changed.key := by
  intro old changed
  have applied := ((Reaches.start ({} : Handover Unit)).step (.hear (.apply old) rfl)).step .tell
  have passing := (applied.step (.take () rfl rfl)).step (.look () rfl)
  have served := ((passing.step (.pass () .crashed rfl)).step (.release () rfl)).step
    (.schedule () rfl)
  have relists (s : Handover Unit) (hidle : s.notice = .nothing) :=
    ((((Reaches.start s).step (.hear .listing hidle)).step (.hear (.listed changed) rfl)).step
      .tell).step (.hear .listingDone rfl)
  have hlog := relist_adds served rfl (relists _ rfl)
    (show heard _ = WatchEvent.relist [changed] from rfl) rfl changed.key
  have hgeneration : some (some 1) ≠ some changed.metadata.generation := by
    intro h
    cases h
  refine ⟨_, _, _, _, served, rfl, relists _ rfl, rfl, rfl, rfl, hlog.1.trans rfl, ?_⟩
  exact hlog.2.1 changed (List.mem_singleton_self _) rfl hgeneration (by simp)

/-- An installation that has gone while the watch was down stays cached, and one that has been
created again in the same generation is not asked for. -/
theorem relist_leaves :
    let gone := bare "gone" "1" 1
    let kept := bare "kept" "2" 1
    let again := bare "kept" "3" 1
    ∃ (before log : List (Entry Unit)) (s t : Handover Unit),
      Reaches {} before s ∧ s.cache.find? gone.key = some gone ∧
      s.cache.find? again.key = some kept ∧ Reaches s log t ∧
      heard log = WatchEvent.relist [again] ∧ t.notice = .nothing ∧
      t.cache.find? gone.key = some gone ∧ t.cache.find? again.key = some again ∧
      t.queue = {} := by
  intro gone kept again
  have first := ((((Reaches.start {}).step (.hear (.apply gone) rfl)).step .tell).step
    (.take () rfl rfl)).step (.look () rfl)
  have firstDone := ((first.step (.pass () .timedOut rfl)).step (.release () rfl)).step
    (.schedule () rfl)
  have second := (((firstDone.step (.hear (.apply kept) rfl)).step .tell).step
    (.take () rfl rfl)).step (.look () rfl)
  have secondDone := ((second.step (.pass () .timedOut rfl)).step (.release () rfl)).step
    (.schedule () rfl)
  exact ⟨_, _, _, _, secondDone, rfl, rfl, .step (.step (.step (.start _) (.hear .listing rfl))
    (.hear (.listed again) rfl)) (.hear .listingDone rfl), rfl, rfl, rfl, rfl, rfl⟩

end Relist

end Handover

end ShardOperator
