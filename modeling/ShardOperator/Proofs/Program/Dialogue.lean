import ShardOperator.Proofs.Program.Path

namespace ShardOperator

open Simulation

/-- A request, and the reply that it got. -/
structure Exchange where
  request : Request
  reply : request.Reply

/-- The exchange is a call on the stored objects. -/
def Exchange.isCall (x : Exchange) : Bool := x.request.call?.isSome

/-- The calls on the stored objects that were made. -/
def callsOf (log : List Exchange) : List Call := log.filterMap (·.request.call?)

theorem callsOf_append (log later : List Exchange) :
    callsOf (log ++ later) = callsOf log ++ callsOf later :=
  List.filterMap_append

theorem callsOf_of_isCall {log : List Exchange} (h : ∀ x ∈ log, x.isCall = false) :
    callsOf log = [] :=
  List.filterMap_eq_nil_iff.2 fun x hx => by simpa [Exchange.isCall] using h x hx

/-- Someone who has a reply to every request, which may depend on all that was said before. -/
abbrev Answers := List Exchange → (request : Request) → request.Reply

namespace Program

variable {α β : Type}

/-- What a program says and hears until it comes to its end with a value. -/
inductive Dialogue : Program α → List Exchange → α → Prop where
  | done (value : α) : Dialogue (.done value) [] value
  | ask {request : Request} {next : request.Reply → Program α} {log : List Exchange} {value : α}
      (reply : request.Reply) (onward : Dialogue (next reply) log value) :
      Dialogue (.ask request next) (⟨request, reply⟩ :: log) value

variable {log : List Exchange}

theorem dialogue_pure {value result : α} :
    Dialogue (pure value) log result ↔ log = [] ∧ result = value := by
  constructor
  · rintro ⟨⟩
    exact ⟨rfl, rfl⟩
  · rintro ⟨rfl, rfl⟩
    exact .done result

theorem dialogue_ask {request : Request} {next : request.Reply → Program α} {value : α} :
    Dialogue (.ask request next) log value ↔
      ∃ reply rest, log = ⟨request, reply⟩ :: rest ∧ Dialogue (next reply) rest value := by
  constructor
  · rintro (_ | ⟨reply, onward⟩)
    exact ⟨reply, _, rfl, onward⟩
  · rintro ⟨reply, rest, rfl, onward⟩
    exact .ask reply onward

theorem dialogue_bind {program : Program α} {f : α → Program β} {value : β} :
    Dialogue (program >>= f) log value ↔
      ∃ before between after, log = before ++ after ∧ Dialogue program before between ∧
        Dialogue (f between) after value := by
  induction program generalizing log with
  | done a =>
    change Dialogue (f a) log value ↔ _
    constructor
    · intro h
      exact ⟨[], a, log, rfl, .done a, h⟩
    · rintro ⟨before, between, after, rfl, hdone, h⟩
      obtain ⟨rfl, rfl⟩ := dialogue_pure.1 hdone
      exact h
  | ask request next ih =>
    change Dialogue (.ask request fun reply => next reply >>= f) log value ↔ _
    rw [dialogue_ask]
    constructor
    · rintro ⟨reply, rest, rfl, h⟩
      obtain ⟨before, between, after, rfl, hnext, h⟩ := (ih reply).1 h
      exact ⟨⟨request, reply⟩ :: before, between, after, rfl, .ask reply hnext, h⟩
    · rintro ⟨before, between, after, rfl, hprogram, h⟩
      obtain ⟨reply, rest, rfl, hnext⟩ := dialogue_ask.1 hprogram
      exact ⟨reply, rest ++ after, rfl, (ih reply).2 ⟨rest, between, after, rfl, hnext, h⟩⟩

theorem dialogue_call {request : Request} {reply : request.Reply} :
    Dialogue (call request) log reply ↔ log = [⟨request, reply⟩] := by
  rw [call, dialogue_ask]
  constructor
  · rintro ⟨given, rest, rfl, hdone⟩
    obtain ⟨rfl, rfl⟩ := dialogue_pure.1 hdone
    rfl
  · rintro rfl
    exact ⟨reply, [], rfl, .done reply⟩

/-- The exchanges take the stores to what they are last, each of them served as it may be. -/
def Served (service : Service) : Stores → List Exchange → Stores → Prop
  | s, [], last => last = s
  | s, x :: log, last => ∃ mid, service s x.request x.reply mid ∧ Served service mid log last

theorem served_append {service : Service} {later : List Exchange} {s last : Stores} :
    Served service s (log ++ later) last ↔
      ∃ mid, Served service s log mid ∧ Served service mid later last := by
  induction log generalizing s with
  | nil =>
    constructor
    · intro h
      exact ⟨s, rfl, h⟩
    · rintro ⟨_, rfl, h⟩
      exact h
  | cons x log ih =>
    constructor
    · rintro ⟨mid, hx, h⟩
      obtain ⟨between, hlog, hlater⟩ := ih.1 h
      exact ⟨between, ⟨mid, hx, hlog⟩, hlater⟩
    · rintro ⟨between, ⟨mid, hx, hlog⟩, hlater⟩
      exact ⟨mid, hx, ih.2 ⟨between, hlog, hlater⟩⟩

theorem Served.mono {service other : Service} {s last : Stores} (h : Served service s log last)
    (himp : ∀ {s request reply after}, service s request reply after →
      other s request reply after) : Served other s log last := by
  induction log generalizing s with
  | nil => exact h
  | cons x log ih =>
    obtain ⟨mid, hx, hlog⟩ := h
    exact ⟨mid, himp hx, ih hlog⟩

theorem Served.exists_of_mem {service : Service} {s last : Stores} (h : Served service s log last)
    {x : Exchange} (hx : x ∈ log) : ∃ t u, service t x.request x.reply u := by
  induction log generalizing s with
  | nil => exact absurd hx List.not_mem_nil
  | cons y log ih =>
    obtain ⟨mid, hy, hlog⟩ := h
    rcases List.mem_cons.1 hx with rfl | hx
    · exact ⟨s, mid, hy⟩
    · exact ih hlog hx

/-- A program runs by one of its dialogues. -/
theorem runs_iff_dialogue {service : Service} {program : Program α} {s last : Stores} {value : α} :
    Runs service program s value last ↔
      ∃ log, Dialogue program log value ∧ Served service s log last := by
  induction program generalizing s with
  | done result =>
    rw [runs_done]
    constructor
    · rintro ⟨rfl, rfl⟩
      exact ⟨[], .done value, rfl⟩
    · rintro ⟨log, hdone, hserved⟩
      obtain ⟨rfl, rfl⟩ := dialogue_pure.1 hdone
      exact ⟨rfl, hserved⟩
  | ask request next ih =>
    rw [runs_ask]
    constructor
    · rintro ⟨reply, mid, hreply, h⟩
      obtain ⟨log, hnext, hserved⟩ := (ih reply).1 h
      exact ⟨⟨request, reply⟩ :: log, .ask reply hnext, mid, hreply, hserved⟩
    · rintro ⟨log, hprogram, hserved⟩
      obtain ⟨reply, rest, rfl, hnext⟩ := dialogue_ask.1 hprogram
      obtain ⟨mid, hreply, hserved⟩ := hserved
      exact ⟨reply, mid, hreply, (ih reply).2 ⟨rest, hnext, hserved⟩⟩

/-- Whatever a program says is one of the requests that it may make. -/
theorem Only.of_dialogue {allowed : Request → Prop} {program : Program α} {value : α}
    (only : Only allowed program) (h : Dialogue program log value) :
    ∀ x ∈ log, allowed x.request := by
  induction h with
  | done value => exact fun x hx => absurd hx List.not_mem_nil
  | ask reply _ ih =>
    intro x hx
    rcases List.mem_cons.1 hx with rfl | hx
    · exact only.1
    · exact ih (only.2 reply) x hx

/-- Has the program's requests answered until it comes to its end, after what was said already. -/
def converse (answer : Answers) (past : List Exchange) : Program α → List Exchange × α
  | .done value => (past, value)
  | .ask request next =>
    let reply := answer past request
    (next reply).converse answer (past ++ [⟨request, reply⟩])

/-- Whoever answers, a program comes to its end in one of its dialogues. -/
theorem dialogue_converse (answer : Answers) (past : List Exchange) (program : Program α) :
    ∃ log, (program.converse answer past).1 = past ++ log ∧
      Dialogue program log (program.converse answer past).2 := by
  induction program generalizing past with
  | done value => exact ⟨[], (List.append_nil past).symm, .done value⟩
  | ask request next ih =>
    obtain ⟨log, hlog, h⟩ := ih (answer past request) (past ++ [⟨request, answer past request⟩])
    refine ⟨⟨request, answer past request⟩ :: log, ?_, .ask _ h⟩
    simp only [converse, hlog, List.append_assoc, List.singleton_append]

/-- Every reply is the answer to what was said before it. -/
theorem reply_of_converse {answer : Answers} {past before after : List Exchange} {x : Exchange}
    {program : Program α}
    (h : (program.converse answer past).1 = past ++ (before ++ x :: after)) :
    x.reply = answer (past ++ before) x.request := by
  induction program generalizing past before with
  | done value => simp [converse] at h
  | ask request next ih =>
    let said : Exchange := ⟨request, answer past request⟩
    obtain ⟨rest, hrest, -⟩ := dialogue_converse answer (past ++ [said]) (next said.reply)
    have hsaid : past ++ said :: rest = past ++ (before ++ x :: after) := by
      rw [← h, converse, hrest, List.append_assoc, List.singleton_append]
    cases before with
    | nil =>
      obtain ⟨rfl, -⟩ := List.cons.inj (List.append_cancel_left hsaid)
      rw [List.append_nil]
    | cons first before =>
      obtain ⟨rfl, -⟩ := List.cons.inj (List.append_cancel_left hsaid)
      have hlog : ((next said.reply).converse answer (past ++ [said])).1 =
          past ++ [said] ++ (before ++ x :: after) := by
        rw [List.append_assoc]
        exact h
      rw [ih said.reply hlog, List.append_assoc, List.singleton_append]

end Program

end ShardOperator
