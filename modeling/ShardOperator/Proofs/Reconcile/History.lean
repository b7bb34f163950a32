import ShardOperator.Proofs.Desired.Flagged
import ShardOperator.Proofs.Reconcile.Attempts
import ShardOperator.Proofs.Reconcile.Ownership

namespace ShardOperator

open Program Simulation Reconcile

/-- What an accepted resource is normalized to. -/
theorem identity_of_normalize {id : Identity} {chi : InstallationResource}
    {defaults : HostDefaults} (declares : id.Declares chi) {i : Installation}
    (h : chi.normalize defaults = .ok i) :
    i.identity = id ∧ i.Placed ∧ i.removed = [] ∧ i.templates = chi.spec.templates.getD {} := by
  obtain ⟨placed, ns, hns, hspec⟩ := InstallationResource.normalize_spec h
  refine ⟨?_, placed, ?_, ?_⟩
  · rw [hspec]
    cases id
    simp only [Installation.identity, InstallationResource.frame, Identity.mk.injEq]
    exact ⟨Option.some.inj (hns.symm.trans declares.ns), declares.name, declares.uid⟩
  · rw [hspec]
    rfl
  · rw [hspec]
    rfl

namespace Reconcile

variable {flavour : Flavour} {defaults : HostDefaults} {chi : InstallationResource}

theorem runs_writeStatus {ns name : String} {status : InstallationStatus} {s last : Stores}
    {value : Unit} (run : Runs Stores.Serves (writeStatus ns name status) s value last) :
    last = s := by
  obtain ⟨reply, mid, hcall, hdone⟩ := runs_bind.1 run
  obtain ⟨-, rfl⟩ := runs_pure.1 hdone
  rcases runs_call.1 hcall with h | ⟨h, -⟩
  · exact h
  · exact h

/-- An observation that succeeds rests on the workloads with the installation's labels. -/
theorem runs_observe {i j : Installation} {s last : Stores}
    (run : Runs Stores.Serves (observe i) s (.ok j) last) :
    last = s ∧ ∃ existing, s.Lists .statefulSet i.ns i.selector existing ∧
      j = observed i existing := by
  obtain ⟨reply, mid, hcall, hdone⟩ := runs_bind.1 run
  cases reply with
  | error e => cases (runs_pure.1 hdone).1
  | ok existing =>
    obtain ⟨hj, rfl⟩ := runs_pure.1 hdone
    rcases runs_call.1 hcall with ⟨⟨objects, h, hlists⟩, hlast⟩ | ⟨-, e, h⟩
    · obtain rfl := Except.ok.inj h
      exact ⟨hlast, existing, hlists, Except.ok.inj hj⟩
    · cases h

/-- A pass with a report has normalized and observed its resource, and has brought about what it
takes. -/
theorem runs_pass {service : Service} (serves : ∀ {s request reply after},
      service s request reply after → s.Serves request reply after)
    {s last : Stores} {report : PassReport}
    (run : Runs service (pass flavour defaults chi) s (.ok report) last) :
    ∃ i existing, chi.normalize defaults = .ok i ∧ s.Lists .statefulSet i.ns i.selector existing ∧
      Runs service (converge ⟨observed i existing, defaults, flavour⟩ chi.reference) s report
        last := by
  unfold pass at run
  cases hnormal : chi.normalize defaults with
  | error e =>
    rw [hnormal] at run
    obtain ⟨_, mid, -, hdone⟩ := runs_bind.1 run
    cases (runs_pure.1 hdone).1
  | ok i =>
    rw [hnormal] at run
    obtain ⟨_, s₁, hstatus, run⟩ := runs_bind.1 run
    obtain ⟨_, s₂, hpublish, run⟩ := runs_bind.1 run
    obtain ⟨seen, s₃, hobserve, run⟩ := runs_bind.1 run
    have hs : s₂ = s := (runs_publish (hpublish.mono serves)).trans
      (runs_writeStatus (hstatus.mono serves))
    cases seen with
    | error e =>
      obtain ⟨_, mid, -, hdone⟩ := runs_bind.1 run
      cases (runs_pure.1 hdone).1
    | ok j =>
      obtain ⟨hs₃, existing, hlists, rfl⟩ := runs_observe (hobserve.mono serves)
      obtain ⟨done, s₄, hconverge, run⟩ := runs_bind.1 run
      obtain ⟨_, s₅, hfinal, run⟩ := runs_bind.1 run
      obtain ⟨_, s₆, houtcome, hdone⟩ := runs_bind.1 run
      obtain ⟨hreport, rfl⟩ := runs_pure.1 hdone
      obtain rfl := Except.ok.inj hreport
      have hlast : last = s₄ := (runs_publish (houtcome.mono serves)).trans
        (runs_writeStatus (hfinal.mono serves))
      rw [hs₃, hs] at hconverge
      rw [hs] at hlists
      rw [hlast]
      exact ⟨i, existing, rfl, hlists, hconverge⟩

theorem only_writeStatus {allowed : Request → Prop} {ns name : String} {status : InstallationStatus}
    (h : allowed (.writeStatus ns name status)) : Only allowed (writeStatus ns name status) :=
  (only_call h).bind fun _ => only_pure _

/-- A pass over a resource of the installation writes objects of the installation only. -/
theorem only_pass {id : Identity} (declares : id.Declares chi)
    (spare : (chi.spec.templates.getD {}).SpareLabels) :
    Only (·.Writes fun object => Belongs id object) (pass flavour defaults chi) := by
  unfold pass
  split
  · next e he =>
    refine Only.bind ?_ fun _ => only_pure _
    unfold rejectPass
    split
    · exact (only_writeStatus trivial).bind fun _ => only_call trivial
    · exact only_call trivial
  · next i hi =>
    obtain ⟨hidentity, placed, -, htemplates⟩ := identity_of_normalize declares hi
    refine (only_writeStatus trivial).bind fun _ => (only_call trivial).bind fun _ => ?_
    rw [observe, LawfulMonad.bind_assoc]
    refine (only_call trivial).bind fun reply => ?_
    cases reply with
    | error e => exact (only_writeStatus trivial).bind fun _ => only_pure _
    | ok existing =>
      have hseen : (observed i existing).identity = id := hidentity
      have hspare : (observed i existing).templates.SpareLabels := by
        change i.templates.SpareLabels
        rw [htemplates]
        exact spare
      have hconverge : Only (·.Writes fun object => Belongs (observed i existing).identity object)
          (converge ⟨observed i existing, defaults, flavour⟩ chi.reference) :=
        (Blueprint.only_converge
          (Blueprint.permits_owns (placed_observed placed existing) hspare)).mono
          fun request owns => owns.writes
      rw [hseen] at hconverge
      exact hconverge.bind fun _ => (only_writeStatus trivial).bind fun _ =>
        (only_call trivial).bind fun _ => only_pure _

end Reconcile

/-- What the stores can come to by passes over resources of one installation, each of them in any
way that its calls may be served, and cut off anywhere. -/
inductive History (service : Service) (id : Identity) (start : Stores) : Stores → Prop where
  | start : History service id start start
  | pass {s last : Stores} {flavour : Flavour} {defaults : HostDefaults}
      {chi : InstallationResource} {trace : List Request} {rest : Program (Outcome PassReport)}
      (before : History service id start s) (declares : id.Declares chi)
      (spare : (chi.spec.templates.getD {}).SpareLabels)
      (path : (Reconcile.pass flavour defaults chi).Path service s trace rest last) :
      History service id start last

theorem History.mono {service other : Service} {id : Identity} {start s : Stores}
    (history : History service id start s)
    (himp : ∀ {s request reply after}, service s request reply after →
      other s request reply after) : History other id start s := by
  induction history with
  | start => exact .start
  | pass before declares spare path ih => exact .pass ih declares spare (path.mono himp)

/-- However passes end, they leave behind what the operator writes and nothing else. -/
theorem History.accounts {id : Identity} {start s : Stores}
    (history : History Stores.Serves id start s) : id.Accounts start s := by
  induction history with
  | start => exact fun kind name object h => .inl h
  | pass before declares spare path ih =>
    exact path.invariant _ (fun writes served accounts => accounts.served writes served)
      (only_pass declares spare) ih

end ShardOperator
