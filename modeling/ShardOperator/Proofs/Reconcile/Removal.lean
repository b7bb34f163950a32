import ShardOperator.Proofs.Reconcile.Accounting

namespace ShardOperator

open Program Reconcile

variable {flavour : Flavour} {defaults : HostDefaults} {chi : InstallationResource}
  {i : Installation} {existing : List (Resource .statefulSet)}

/-- The deletion that a duty sets out to do, if it is one. -/
def Duty.deletions : Duty → List Call
  | .delete kind ns name => [⟨.delete, kind, ns, name⟩]
  | .apply _ | .list .. => []

/-- The calls by which everything with the address is deleted. -/
def HostAddress.deletions (a : HostAddress) : List Call :=
  [⟨.delete, .statefulSet, a.ns, a.workloadName⟩, ⟨.delete, .service, a.ns, a.workloadName⟩,
    ⟨.delete, .configMap, a.ns, a.configMapName⟩]

theorem Fate.calls_removal {regarding : Regarding} {fates : List (Fate Unit)} {log : List Exchange}
    (h : Chronicle regarding (fates.flatMap Fate.removal) log) :
    callsOf log = (fates.map Fate.host).flatMap (·.address.deletions) := by
  have hcalls : callsOf log = (fates.flatMap Fate.removal).flatMap (·.duty.deletions) := by
    refine h.calls_eq fun entry hentry said hsaid => ?_
    obtain ⟨f, -, hf⟩ := List.mem_flatMap.1 hentry
    simp only [Fate.removal, List.mem_cons, List.not_mem_nil, or_false] at hf
    rcases hf with rfl | rfl | rfl <;> exact calls_delete hsaid
  rw [hcalls, List.flatMap_assoc, List.flatMap_map]
  rfl

namespace Reconcile

theorem addresses_removed (hremoved : i.removed = []) :
    (observed i existing).removed.map Host.address = orphanAddresses i existing := by
  have haddress : Host.address ∘ (fun orphan : HostAddress × Nat =>
      orphanHost orphan.1 (i.removed.length + orphan.2)) = Prod.fst :=
    rfl
  simp only [observed, hremoved, List.nil_append, List.map_map]
  rw [← hremoved, haddress, List.zipIdx_map_fst]

theorem mem_orphanAddresses {a : HostAddress} :
    a ∈ orphanAddresses i existing ↔ ∃ workload ∈ existing, isClaimed i workload = false ∧
      HostAddress.ofLabels? (workload.metadata.labels.getD .empty) i.ns = some a := by
  simp only [orphanAddresses, List.mem_filterMap, List.mem_filter, Bool.not_eq_true', and_assoc]

/-- Every workload that no host claims, and whose labels tell an address, has the name that belongs
to the address. -/
def Named (i : Installation) (existing : List (Resource .statefulSet)) : Prop :=
  ∀ workload ∈ existing, isClaimed i workload = false → ∀ a,
    HostAddress.ofLabels? (workload.metadata.labels.getD .empty) i.ns = some a →
      a.workloadName = workload.anyName

/-- Where labels and names agree, what is deleted with an orphan is none of the objects that the
installation is made of. -/
theorem spares_of_named (placed : i.Placed)
    (hlists : ∀ workload ∈ existing, workload.Carries i.selector) (named : Named i existing)
    {call : Call} (h : call ∈ (orphanAddresses i existing).flatMap HostAddress.deletions) :
    call.name ∉ i.objectNames call.kind ∧
      (call.kind = .statefulSet →
        ∃ workload ∈ existing, workload.anyName = call.name ∧ isClaimed i workload = false) := by
  obtain ⟨a, ha, hcall⟩ := List.mem_flatMap.1 h
  obtain ⟨workload, hworkload, hclaimed, hlabels⟩ := mem_orphanAddresses.1 ha
  have hname := named workload hworkload hclaimed a hlabels
  have hunclaimed : a.workloadName ∉ i.objectNames .statefulSet := by
    rw [hname, ← isClaimed_iff, hclaimed]
    exact Bool.false_ne_true
  have hinstallation : a.installation = i.name := by
    have hmark := Labels.carries_iff.1 (hlists workload hworkload)
    obtain ⟨_, _, _, _, -, -, hinst, -, rfl⟩ := HostAddress.ofLabels?_eq_some.1 hlabels
    exact Option.some.inj (hinst.symm.trans hmark.2)
  simp only [HostAddress.deletions, List.mem_cons, List.not_mem_nil, or_false] at hcall
  rcases hcall with rfl | rfl | rfl
  · exact ⟨hunclaimed, fun _ => ⟨workload, hworkload, hname.symm, hclaimed⟩⟩
  · exact ⟨Installation.workloadName_notMem_services hunclaimed, fun hkind => nomatch hkind⟩
  · exact ⟨Installation.configMapName_notMem_configMaps placed hinstallation hunclaimed,
      fun hkind => nomatch hkind⟩

/-- The orphans of a pass are taken down after the hosts have been attended to, by the deletions of
the addresses that the labels of unclaimed workloads tell. -/
theorem exists_removal (hnormal : chi.normalize defaults = .ok i) (answer : Answers) :
    ∃ before listed later outcome,
      (pass flavour defaults chi).converse answer [] =
        (before ++ ⟨.list .statefulSet i.ns i.selector, listed⟩ :: later, outcome) ∧
      ∀ existing, listed = .ok existing →
        ∃ (l : Ledger (i.seenAs existing defaults flavour)) (kept removal rest : List Exchange),
          let b := i.seenAs existing defaults flavour
          later = kept ++ (removal ++ rest) ∧
          Chronicle chi.reference
            (⟨.apply (.ok (b.commonConfigMap peersBefore)), l.opening⟩ :: l.hosts.flatMap b.upkeep)
            kept ∧
          Chronicle chi.reference (l.orphans.flatMap Fate.removal) removal ∧
          callsOf removal = (orphanAddresses i existing).flatMap HostAddress.deletions := by
  obtain ⟨before, listed, later, outcome, hlog, -, htold⟩ := pass_ledger hnormal answer
  refine ⟨before, listed, later, outcome, hlog, fun existing hlisted => ?_⟩
  obtain ⟨l, body, reply, hsaid, -, hlater⟩ := htold existing hlisted
  -- What comes before the orphans is the opening with the hosts.
  simp only [Ledger.entries, List.append_assoc] at hsaid
  rw [← List.append_assoc] at hsaid
  obtain ⟨kept, _, rfl, hkept, hsaid⟩ := hsaid.split
  obtain ⟨removal, rest, rfl, hremoval, -⟩ := hsaid.split
  simp only [List.append_assoc] at hlater
  refine ⟨l, kept, removal, _, hlater, hkept, hremoval, ?_⟩
  rw [Fate.calls_removal hremoval, show l.orphans.map Fate.host = (observed i existing).removed from
    l.all_orphans, ← addresses_removed (removed_normalize hnormal), List.flatMap_map]

end Reconcile

/-- Whoever answers the calls of a pass over an accepted resource, the orphans are taken down by the
names that their labels tell. Where every listed workload has the name that its labels tell, or is
claimed by a host, this deletes nothing that the installation is made of, and no workload but
unclaimed ones that were listed. -/
theorem removal_spares_hosts (hnormal : chi.normalize defaults = .ok i) (answer : Answers) :
    ∃ before listed later outcome,
      (pass flavour defaults chi).converse answer [] =
        (before ++ ⟨.list .statefulSet i.ns i.selector, listed⟩ :: later, outcome) ∧
      ∀ existing, listed = .ok existing →
        ∃ (l : Ledger (i.seenAs existing defaults flavour)) (kept removal rest : List Exchange),
          let b := i.seenAs existing defaults flavour
          later = kept ++ (removal ++ rest) ∧
          Chronicle chi.reference
            (⟨.apply (.ok (b.commonConfigMap peersBefore)), l.opening⟩ :: l.hosts.flatMap b.upkeep)
            kept ∧
          Chronicle chi.reference (l.orphans.flatMap Fate.removal) removal ∧
          callsOf removal = (orphanAddresses i existing).flatMap HostAddress.deletions ∧
          ((∀ workload ∈ existing, workload.Carries i.selector) → Named i existing →
            ∀ call ∈ callsOf removal, call.name ∉ i.objectNames call.kind ∧
              (call.kind = .statefulSet →
                ∃ workload ∈ existing, workload.anyName = call.name ∧
                  isClaimed i workload = false)) := by
  obtain ⟨before, listed, later, outcome, hlog, htold⟩ := exists_removal hnormal answer
  refine ⟨before, listed, later, outcome, hlog, fun existing hlisted => ?_⟩
  obtain ⟨l, kept, removal, rest, hlater, hkept, hremoval, hcalls⟩ := htold existing hlisted
  refine ⟨l, kept, removal, rest, hlater, hkept, hremoval, hcalls, fun hlists named call hcall => ?_⟩
  rw [hcalls] at hcall
  exact spares_of_named (InstallationResource.normalize_spec hnormal).1 hlists named hcall

section Demo

/-- The address of the one host that a cluster of this name has. -/
def soleAddress (cluster : String) : HostAddress :=
  { ns := "ns", installation := "demo", cluster, shard := "0", replica := "0", host := "0-0" }

/-- A workload with the labels of a cluster's one host. -/
def labelled (name cluster : String) : Resource .statefulSet :=
  .bare name (soleAddress cluster).labels

section Labelled

variable {i : Installation} (h : (demo ["main"]).normalize {} = .ok i) {name cluster : String}

include h

theorem carries_labelled : (labelled name cluster).Carries i.selector := by
  obtain ⟨hidentity, -⟩ := identity_of_normalize (declares_demo ["main"]) h
  have hname : i.name = "demo" := congrArg Identity.name hidentity
  rw [Installation.selector, hname, Labels.carries_iff]
  exact Labels.mark_address (soleAddress cluster)

variable (hname : name ∉ demoNames .statefulSet)

include hname

theorem isClaimed_labelled : isClaimed i (labelled name cluster) = false := by
  rw [Bool.eq_false_iff, Ne, isClaimed_iff, objectNames_demo h]
  exact hname

theorem orphanAddresses_labelled :
    orphanAddresses i [labelled name cluster] = [soleAddress cluster] := by
  obtain ⟨hidentity, -⟩ := identity_of_normalize (declares_demo ["main"]) h
  have hns : i.ns = "ns" := congrArg Identity.ns hidentity
  have hlabels : HostAddress.ofLabels?
      ((labelled name cluster).metadata.labels.getD .empty) i.ns = some (soleAddress cluster) := by
    rw [hns]
    exact (soleAddress cluster).ofLabels?_labels_eq "ns"
  have hunclaimed : [labelled name cluster].filter (!isClaimed i ·) = [labelled name cluster] := by
    simp [isClaimed_labelled h hname]
  rw [orphanAddresses, hunclaimed, List.filterMap_cons, hlabels, List.filterMap_nil]

end Labelled

/-- After a cluster was taken out, the workload of its host is taken down, and the other host is
spared. -/
theorem removal_spares_hosts_left :
    ∃ i removal, (demo ["main"]).normalize {} = .ok i ∧
      callsOf removal = (soleAddress "spare").deletions ∧
      ∀ call ∈ callsOf removal, call.name ∉ i.objectNames call.kind := by
  obtain ⟨i, hnormal⟩ := exists_normalize_demo ["main"] rfl
  obtain ⟨before, listed, later, outcome, hsaid, htold⟩ :=
    @removal_spares_hosts .server {} (demo ["main"]) i hnormal
      (unwilling [labelled "chi-demo-spare-0-0" "spare"])
  obtain rfl := listed_unwilling hsaid
  obtain ⟨l, kept, removal, rest, -, -, -, hcalls, hspares⟩ := htold _ rfl
  have horphans : orphanAddresses i [labelled "chi-demo-spare-0-0" "spare"] =
      [soleAddress "spare"] :=
    orphanAddresses_labelled hnormal (by decide)
  refine ⟨i, removal, hnormal, ?_, fun call hcall => ?_⟩
  · rw [hcalls, horphans, List.flatMap_singleton]
  · refine (hspares ?_ ?_ call hcall).1
    · intro workload hworkload
      rw [List.mem_singleton.1 hworkload]
      exact carries_labelled hnormal
    · intro workload hworkload hclaimed a ha
      have hmem : a ∈ orphanAddresses i [labelled "chi-demo-spare-0-0" "spare"] :=
        mem_orphanAddresses.2 ⟨workload, hworkload, hclaimed, ha⟩
      rw [horphans] at hmem
      rw [List.mem_singleton.1 hmem, List.mem_singleton.1 hworkload]
      rfl

/-- A workload under a name of its own that has the labels of the only host is no host's workload,
and everything that the host has is deleted in its place. -/
theorem removal_hits_host :
    ∃ i, (demo ["main"]).normalize {} = .ok i ∧
      (labelled "copy" "main").Carries i.selector ∧
      isClaimed i (labelled "copy" "main") = false ∧
      ∃ (l : Ledger (i.seenAs [labelled "copy" "main"] {} .server))
        (before kept removal rest : List Exchange) (outcome : Outcome PassReport),
        (pass .server {} (demo ["main"])).converse (unwilling [labelled "copy" "main"]) [] =
          (before ++ ⟨.list .statefulSet i.ns i.selector, .ok [labelled "copy" "main"]⟩ ::
            (kept ++ (removal ++ rest)), outcome) ∧
        Chronicle (demo ["main"]).reference (l.orphans.flatMap Fate.removal) removal ∧
        ∃ host ∈ i.hosts, callsOf removal = host.address.deletions := by
  obtain ⟨i, hnormal⟩ := exists_normalize_demo ["main"] rfl
  obtain ⟨before, listed, later, outcome, hsaid, htold⟩ :=
    @exists_removal .server {} (demo ["main"]) i hnormal (unwilling [labelled "copy" "main"])
  obtain rfl := listed_unwilling hsaid
  obtain ⟨l, kept, removal, rest, rfl, -, hremoval, hcalls⟩ := htold _ rfl
  -- The labels tell the address of the host, though the name is not the host's.
  have hother : "copy" ∉ demoNames .statefulSet := by decide
  have hhosts : ((demo ["main"]).normalize {}).map (·.hosts.map Host.address) =
      .ok [soleAddress "main"] := by
    rfl
  rw [hnormal] at hhosts
  obtain ⟨host, hhost, haddress⟩ := List.map_eq_singleton_iff.1 (Except.ok.inj hhosts)
  refine ⟨i, hnormal, carries_labelled hnormal, isClaimed_labelled hnormal hother, l, before, kept,
    removal, rest, outcome, hsaid, hremoval, host, hhost ▸ List.mem_singleton_self host, ?_⟩
  rw [hcalls, orphanAddresses_labelled hnormal hother, List.flatMap_singleton, haddress]

end Demo

end ShardOperator
