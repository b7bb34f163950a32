import Mathlib.Data.List.Forall2
import ShardOperator.Proofs.Desired.Mounting

namespace ShardOperator

/-- Of several templates with one name the first is found. -/
theorem Templates.name_of_volumeClaim? {templates : Templates} {name : String}
    {t : VolumeClaimTemplate} (h : templates.volumeClaim? name = some t) : t.name = name := by
  simpa using List.find?_some (p := fun t : VolumeClaimTemplate => t.name == name) h

/-- Claim templates with the paths at which their claims are to be mounted. -/
abbrev ClaimPlaces := List (VolumeClaimTemplate × String)

/-- The same by the names of the claims. -/
def ClaimPlaces.places (mounts : ClaimPlaces) : Places := mounts.map fun m => (m.1.name, m.2)

theorem ClaimPlaces.mem_names {mounts : ClaimPlaces} {name : String} :
    name ∈ mounts.places.map Prod.fst ↔ ∃ m ∈ mounts, m.1.name = name := by
  simp [places]

namespace StatefulSetSpec

variable {spec : StatefulSetSpec} {t : VolumeClaimTemplate} {name path : String} {pod : PodSpec}
  {templates : Templates}

theorem hasClaim_iff : spec.hasClaim name = true ↔ ∃ claim ∈ spec.claims,
    claim.metadata.name = some name := by
  simp [hasClaim]

theorem hasClaim_addClaim (spec : StatefulSetSpec) (t : VolumeClaimTemplate) :
    (spec.addClaim t).hasClaim name = true ↔ spec.hasClaim name = true ∨ t.name = name := by
  by_cases h : spec.hasClaim t.name = true
  · have hsame : (spec.addClaim t).claims = spec.claims := if_pos h
    rw [hasClaim, hsame, ← hasClaim]
    exact ⟨.inl, (·.elim id (· ▸ h))⟩
  · have hmore : (spec.addClaim t).claims = spec.claims ++ [t.claim] := if_neg h
    rw [hasClaim, hmore, List.any_append, Bool.or_eq_true, ← hasClaim]
    simp [VolumeClaimTemplate.claim]

/-- Names are used once, and every claim is that of the first template of its name. -/
structure ClaimsFrom (spec : StatefulSetSpec) (templates : Templates) : Prop where
  distinct : (spec.claims.map (·.metadata.name)).Nodup
  declared : ∀ claim ∈ spec.claims, ∃ t, templates.volumeClaim? t.name = some t ∧ claim = t.claim

theorem ClaimsFrom.addClaim (h : spec.ClaimsFrom templates)
    (ht : templates.volumeClaim? t.name = some t) : (spec.addClaim t).ClaimsFrom templates := by
  by_cases hknown : spec.hasClaim t.name = true
  · have hsame : (spec.addClaim t).claims = spec.claims := if_pos hknown
    exact ⟨hsame ▸ h.distinct, hsame ▸ h.declared⟩
  · have hmore : (spec.addClaim t).claims = spec.claims ++ [t.claim] := if_neg hknown
    constructor
    · rw [hmore, List.map_append, List.map_singleton, ← List.concat_eq_append, List.nodup_concat]
      refine ⟨fun hmem => hknown ?_, h.distinct⟩
      obtain ⟨claim, hclaim, hname⟩ := List.mem_map.1 hmem
      exact hasClaim_iff.2 ⟨claim, hclaim, hname⟩
    · intro claim hclaim
      rcases List.mem_append.1 (hmore ▸ hclaim) with hclaim | hclaim
      · exact h.declared claim hclaim
      · exact ⟨t, ht, List.mem_singleton.1 hclaim⟩

theorem pod_mountClaim (spec : StatefulSetSpec) (t : VolumeClaimTemplate) (path : String) :
    (spec.mountClaim t path).template.spec =
      spec.template.spec.map (·.mapContainers (·.mountIfFree t.name path)) := by
  unfold mountClaim
  split
  · next h => rw [h]; rfl
  · next h =>
    rw [h]
    dsimp only
    split <;> rfl

/-- The claim is added where a container mounts it then. -/
theorem hasClaim_mountClaim (h : spec.template.spec = some pod) (t : VolumeClaimTemplate)
    (path : String) :
    (spec.mountClaim t path).hasClaim name = true ↔ spec.hasClaim name = true ∨ t.name = name ∧
      ∃ c ∈ pod.containers, (c.mountIfFree t.name path).mountsVolume name = true := by
  have hmounted : ((pod.mapContainers (·.mountIfFree t.name path)).containers.any
      (·.mountsVolume t.name)) = true ↔
        ∃ c ∈ pod.containers, (c.mountIfFree t.name path).mountsVolume t.name = true := by
    simp
  simp only [mountClaim, h]
  split
  · next hany =>
    rw [hasClaim_addClaim]
    refine or_congr_right (Iff.symm (and_iff_left_of_imp ?_))
    rintro rfl
    exact hmounted.1 hany
  · next hany =>
    refine (or_iff_left ?_).symm
    rintro ⟨rfl, hsome⟩
    exact hany (hmounted.2 hsome)

theorem ClaimsFrom.mountClaim (h : spec.ClaimsFrom templates)
    (ht : templates.volumeClaim? t.name = some t) (path : String) :
    (spec.mountClaim t path).ClaimsFrom templates := by
  unfold StatefulSetSpec.mountClaim
  split
  · exact h
  · dsimp only
    have hpod (template : PodTemplateSpec) : ({ spec with template } : StatefulSetSpec).ClaimsFrom
        templates := ⟨h.distinct, h.declared⟩
    split
    · exact (hpod _).addClaim ht
    · exact hpod _

/-- The specification without its pod and its claims. -/
def outline (spec : StatefulSetSpec) : StatefulSetSpec :=
  { spec with template := { spec.template with spec := none }, volumeClaimTemplates := none }

theorem outline_mountClaim (spec : StatefulSetSpec) (t : VolumeClaimTemplate) (path : String) :
    (spec.mountClaim t path).outline = spec.outline := by
  unfold mountClaim
  split
  · rfl
  · dsimp only
    split <;> rfl

def addClaims (spec : StatefulSetSpec) (ts : List VolumeClaimTemplate) : StatefulSetSpec :=
  ts.foldl addClaim spec

/-- Claims are added behind those that are there; the rest stays as it is. -/
theorem addClaims_eq (spec : StatefulSetSpec) (ts : List VolumeClaimTemplate) :
    (spec.addClaims ts).template = spec.template ∧ (spec.addClaims ts).outline = spec.outline := by
  induction ts generalizing spec with
  | nil => exact ⟨rfl, rfl⟩
  | cons t rest ih => exact ih (spec.addClaim t)

theorem hasClaim_addClaims (spec : StatefulSetSpec) (ts : List VolumeClaimTemplate) :
    (spec.addClaims ts).hasClaim name = true ↔
      spec.hasClaim name = true ∨ ∃ t ∈ ts, t.name = name := by
  induction ts generalizing spec with
  | nil => simp [addClaims]
  | cons t rest ih =>
    refine (ih (spec.addClaim t)).trans ?_
    rw [hasClaim_addClaim, or_assoc, List.exists_mem_cons_iff]

theorem ClaimsFrom.addClaims (h : spec.ClaimsFrom templates) {ts : List VolumeClaimTemplate}
    (hts : ∀ t ∈ ts, templates.volumeClaim? t.name = some t) :
    (spec.addClaims ts).ClaimsFrom templates := by
  induction ts generalizing spec with
  | nil => exact h
  | cons t rest ih =>
    exact ih (h.addClaim (hts t (List.mem_cons_self ..)))
      fun other hother => hts other (List.mem_cons_of_mem _ hother)

def mountClaims (spec : StatefulSetSpec) (mounts : ClaimPlaces) : StatefulSetSpec :=
  mounts.foldl (fun spec m => spec.mountClaim m.1 m.2) spec

@[simp] theorem mountClaims_nil (spec : StatefulSetSpec) : spec.mountClaims [] = spec :=
  rfl

@[simp] theorem mountClaims_cons (spec : StatefulSetSpec) (m : VolumeClaimTemplate × String)
    (mounts : ClaimPlaces) :
    spec.mountClaims (m :: mounts) = (spec.mountClaim m.1 m.2).mountClaims mounts :=
  rfl

theorem mountClaims_append (spec : StatefulSetSpec) (mounts more : ClaimPlaces) :
    spec.mountClaims (mounts ++ more) = (spec.mountClaims mounts).mountClaims more :=
  List.foldl_append ..

theorem outline_mountClaims (spec : StatefulSetSpec) (mounts : ClaimPlaces) :
    (spec.mountClaims mounts).outline = spec.outline := by
  induction mounts generalizing spec with
  | nil => rfl
  | cons m rest ih => exact (ih _).trans (spec.outline_mountClaim m.1 m.2)

theorem ClaimsFrom.mountClaims (h : spec.ClaimsFrom templates) {mounts : ClaimPlaces}
    (hmounts : ∀ m ∈ mounts, templates.volumeClaim? m.1.name = some m.1) :
    (spec.mountClaims mounts).ClaimsFrom templates := by
  induction mounts generalizing spec with
  | nil => exact h
  | cons m rest ih =>
    exact ih (h.mountClaim (hmounts m (List.mem_cons_self ..)) m.2)
      fun other hother => hmounts other (List.mem_cons_of_mem _ hother)

theorem pod_mountClaims (h : spec.template.spec = some pod) (mounts : ClaimPlaces) :
    (spec.mountClaims mounts).template.spec =
      some (pod.mapContainers (·.mountAllFree mounts.places)) := by
  induction mounts generalizing spec pod with
  | nil => exact h.trans (congrArg some (pod.mapContainers_eq_self fun _ => rfl).symm)
  | cons m rest ih =>
    refine (ih (by rw [pod_mountClaim, h, Option.map_some])).trans ?_
    rw [PodSpec.mapContainers_mapContainers]
    rfl

/-- The claims that are added are those that a container mounts in the end. -/
theorem hasClaim_mountClaims (h : spec.template.spec = some pod) (mounts : ClaimPlaces) :
    (spec.mountClaims mounts).hasClaim name = true ↔
      spec.hasClaim name = true ∨ ∃ m ∈ mounts, m.1.name = name ∧
        ∃ c ∈ pod.containers, (c.mountAllFree mounts.places).mountsVolume name = true := by
  induction mounts generalizing spec pod with
  | nil => simp [mountClaims]
  | cons m rest ih =>
    have hpod : (spec.mountClaim m.1 m.2).template.spec =
        some (pod.mapContainers (·.mountIfFree m.1.name m.2)) := by
      rw [pod_mountClaim, h, Option.map_some]
    have hrest : (∃ c ∈ (pod.mapContainers (·.mountIfFree m.1.name m.2)).containers,
        (c.mountAllFree (ClaimPlaces.places rest)).mountsVolume name = true) ↔
          ∃ c ∈ pod.containers,
            (c.mountAllFree (ClaimPlaces.places (m :: rest))).mountsVolume name = true :=
      PodSpec.exists_mem_mapContainers
    have hgains (c : Container) := (c.mountIfFree m.1.name m.2).gains_mountAllFree
      (ClaimPlaces.places rest)
    refine (ih hpod).trans ?_
    rw [hasClaim_mountClaim h, hrest, or_assoc, List.exists_mem_cons_iff]
    refine or_congr_right ⟨?_, ?_⟩
    · rintro (⟨hname, c, hc, hmounts⟩ | hlater)
      · exact .inl ⟨hname, c, hc, (hgains c).mountsVolume hmounts⟩
      · exact .inr hlater
    · rintro (⟨hname, c, hc, hmounts⟩ | hlater)
      · -- What the container mounts in the end it mounts at once, or by one of the others.
        rcases (hgains c).mountsVolume_cases hmounts with hnow | hlater
        · exact .inl ⟨hname, c, hc, hnow⟩
        · obtain ⟨other, hother, heq⟩ := ClaimPlaces.mem_names.1 hlater
          exact .inr ⟨other, hother, heq, c, hc, hmounts⟩
      · exact .inr hlater

end StatefulSetSpec

namespace Blueprint

variable {b : Blueprint} {host : Host} {name : String}

/-- The templates whose claims containers mount by name. -/
def namedClaims (b : Blueprint) (host : Host) : List VolumeClaimTemplate :=
  (b.pod host).mountedClaims.filterMap b.installation.templates.volumeClaim?

/-- The templates for data and logs, as far as they are declared. -/
def claimPlaces (b : Blueprint) (host : Host) : ClaimPlaces :=
  ((b.claimTemplate? host.templates.dataVolumeClaimTemplate).map (·, Directory.data)).toList ++
    ((b.claimTemplate? host.templates.logVolumeClaimTemplate).map (·, Directory.log)).toList

/-- The pod of a host with everything mounted. -/
def equippedPod (b : Blueprint) (host : Host) : PodSpec :=
  (b.pod host).mapContainers (·.mountAllFree (b.claimPlaces host).places)

theorem workloadSpec_eq (b : Blueprint) (host : Host) :
    b.workloadSpec host =
      ((b.workloadFrame host).addClaims (b.namedClaims host)).mountClaims (b.claimPlaces host) := by
  unfold workloadSpec claimPlaces namedClaims StatefulSetSpec.addClaims
  rw [StatefulSetSpec.mountClaims_append]
  dsimp only
  cases b.claimTemplate? host.templates.dataVolumeClaimTemplate <;>
    cases b.claimTemplate? host.templates.logVolumeClaimTemplate <;>
      simp only [Option.map_some, Option.map_none, Option.toList_some, Option.toList_none,
        StatefulSetSpec.mountClaims_nil, StatefulSetSpec.mountClaims_cons]

theorem mem_claimPlaces {m : VolumeClaimTemplate × String} :
    m ∈ b.claimPlaces host ↔
      b.claimTemplate? host.templates.dataVolumeClaimTemplate = some m.1 ∧ m.2 = Directory.data ∨
        b.claimTemplate? host.templates.logVolumeClaimTemplate = some m.1 ∧
          m.2 = Directory.log := by
  obtain ⟨t, path⟩ := m
  simp [claimPlaces, eq_comm (a := path)]

theorem nodup_paths_claimPlaces (b : Blueprint) (host : Host) :
    ((b.claimPlaces host).places.map Prod.snd).Nodup := by
  have hne : Directory.data ≠ Directory.log := by decide
  unfold claimPlaces
  cases b.claimTemplate? host.templates.dataVolumeClaimTemplate <;>
    cases b.claimTemplate? host.templates.logVolumeClaimTemplate <;>
      simp [ClaimPlaces.places, hne]

theorem declared_of_claimTemplate? {wanted : Option String} {t : VolumeClaimTemplate}
    (h : b.claimTemplate? wanted = some t) :
    b.installation.templates.volumeClaim? t.name = some t := by
  obtain ⟨name, -, ht⟩ := Option.bind_eq_some_iff.1 h
  rw [Templates.name_of_volumeClaim? ht]
  exact ht

theorem declared_of_mem_claimPlaces {m : VolumeClaimTemplate × String}
    (hm : m ∈ b.claimPlaces host) :
    b.installation.templates.volumeClaim? m.1.name = some m.1 := by
  rcases mem_claimPlaces.1 hm with ⟨h, -⟩ | ⟨h, -⟩ <;> exact declared_of_claimTemplate? h

theorem outline_workloadSpec (b : Blueprint) (host : Host) :
    (b.workloadSpec host).outline = (b.workloadFrame host).outline := by
  rw [workloadSpec_eq, StatefulSetSpec.outline_mountClaims]
  exact (StatefulSetSpec.addClaims_eq _ _).2

theorem pod_workloadSpec (b : Blueprint) (host : Host) :
    (b.workloadSpec host).template.spec = some (b.equippedPod host) := by
  rw [workloadSpec_eq]
  refine StatefulSetSpec.pod_mountClaims ?_ _
  rw [(StatefulSetSpec.addClaims_eq _ _).1]
  rfl

theorem mem_mountedClaims {pod : PodSpec} :
    name ∈ pod.mountedClaims ↔
      (∃ c ∈ pod.containers, c.mountsVolume name = true) ∧ name ∉ pod.volumeNames := by
  simp [PodSpec.mountedClaims, Container.mountsVolume_iff]

theorem exists_namedClaim_iff :
    (∃ t ∈ b.namedClaims host, t.name = name) ↔
      (∃ t, b.installation.templates.volumeClaim? name = some t) ∧
        (∃ c ∈ (b.pod host).containers, c.mountsVolume name = true) ∧
          name ∉ (b.pod host).volumeNames := by
  rw [← mem_mountedClaims]
  constructor
  · rintro ⟨t, ht, rfl⟩
    obtain ⟨mounted, hmounted, hfound⟩ := List.mem_filterMap.1 ht
    obtain rfl := Templates.name_of_volumeClaim? hfound
    exact ⟨⟨t, hfound⟩, hmounted⟩
  · rintro ⟨⟨t, hfound⟩, hmounted⟩
    exact ⟨t, List.mem_filterMap.2 ⟨name, hmounted, hfound⟩, Templates.name_of_volumeClaim? hfound⟩

/-- The claims of a workload are those that are declared and mounted, and that are no volumes of the
pod or else the ones for data and logs. -/
theorem hasClaim_workloadSpec :
    (b.workloadSpec host).hasClaim name = true ↔
      (∃ t, b.installation.templates.volumeClaim? name = some t) ∧
        (∃ c ∈ (b.equippedPod host).containers, c.mountsVolume name = true) ∧
          (name ∉ (b.equippedPod host).volumeNames ∨
            ∃ m ∈ b.claimPlaces host, m.1.name = name) := by
  have hpod : ((b.workloadFrame host).addClaims (b.namedClaims host)).template.spec =
      some (b.pod host) := by
    rw [(StatefulSetSpec.addClaims_eq _ _).1]
    rfl
  have hnone : ¬(b.workloadFrame host).hasClaim name = true := Bool.false_ne_true
  rw [workloadSpec_eq, StatefulSetSpec.hasClaim_mountClaims hpod,
    StatefulSetSpec.hasClaim_addClaims, or_iff_right hnone, exists_namedClaim_iff]
  rw [equippedPod, PodSpec.exists_mem_mapContainers, PodSpec.volumeNames_mapContainers]
  have hgains (c : Container) := c.gains_mountAllFree (b.claimPlaces host).places
  constructor
  · rintro (⟨hdeclared, ⟨c, hc, hmounts⟩, hfresh⟩ | ⟨m, hm, rfl, hmounts⟩)
    · exact ⟨hdeclared, ⟨c, hc, (hgains c).mountsVolume hmounts⟩, .inl hfresh⟩
    · exact ⟨⟨m.1, declared_of_mem_claimPlaces hm⟩, hmounts, .inr ⟨m, hm, rfl⟩⟩
  · rintro ⟨hdeclared, ⟨c, hc, hmounts⟩, hfresh | ⟨m, hm, hname⟩⟩
    · rcases (hgains c).mountsVolume_cases hmounts with hbefore | hadded
      · exact .inl ⟨hdeclared, ⟨c, hc, hbefore⟩, hfresh⟩
      · obtain ⟨m, hm, hname⟩ := ClaimPlaces.mem_names.1 hadded
        exact .inr ⟨m, hm, hname, c, hc, hmounts⟩
    · exact .inr ⟨m, hm, hname, c, hc, hmounts⟩

theorem claimsFrom_workloadSpec (b : Blueprint) (host : Host) :
    (b.workloadSpec host).ClaimsFrom b.installation.templates := by
  have hstart : (b.workloadFrame host).ClaimsFrom b.installation.templates :=
    ⟨List.nodup_nil, fun claim hclaim => absurd hclaim List.not_mem_nil⟩
  rw [workloadSpec_eq]
  refine (hstart.addClaims fun t ht => ?_).mountClaims fun m => declared_of_mem_claimPlaces
  obtain ⟨name, -, hfound⟩ := List.mem_filterMap.1 ht
  rw [Templates.name_of_volumeClaim? hfound]
  exact hfound

theorem outline_equippedPod (b : Blueprint) (host : Host) :
    (b.equippedPod host).outline = (b.barePod host).outline := by
  rw [equippedPod, PodSpec.outline_mapContainers, outline_pod]

theorem mem_volumeNames_equippedPod :
    name ∈ (b.equippedPod host).volumeNames ↔
      name ∈ (b.barePod host).volumeNames ∨ name ∈ (b.configVolumes host).map Prod.fst := by
  rw [equippedPod, PodSpec.volumeNames_mapContainers, mem_volumeNames_pod]

/-- What becomes of a container of the bare pod. -/
def equip (b : Blueprint) (host : Host) (c : Container) : Container :=
  ((c.exposePorts host).mountAll (b.configVolumes host)).mountAllFree (b.claimPlaces host).places

theorem containers_equippedPod (b : Blueprint) (host : Host) :
    (b.equippedPod host).containers = (b.barePod host).containers.map (b.equip host) := by
  rw [equippedPod, PodSpec.containers_mapContainers, containers_pod, List.map_map]
  rfl

theorem gains_equip (b : Blueprint) (host : Host) (c : Container) :
    c.Gains (b.equip host c) (b.configVolumes host ++ (b.claimPlaces host).places) :=
  have hports : c.Gains (c.exposePorts host) [] := .of_eq rfl
  (hports.trans (Container.gains_mountAll _ _)).trans (Container.gains_mountAllFree _ _)

/-- The claim of a template is mounted, or the path that it is for was taken by another mount. -/
def MountedUnlessTaken (c d : Container) (t : VolumeClaimTemplate) (path : String) : Prop :=
  d.mountsVolume t.name = true ∨ ∃ m ∈ c.mounts, m.mountPath = path ∧ m.name ≠ t.name

theorem mountedUnlessTaken_equip {m : VolumeClaimTemplate × String}
    (hm : m ∈ b.claimPlaces host) (c : Container) :
    MountedUnlessTaken c (b.equip host c) m.1 m.2 := by
  refine or_iff_not_imp_left.2 fun hmissing => ?_
  have hconfig : m.2 ∉ (b.configVolumes host).map Prod.snd := by
    change m.2 ∉ [Directory.common, Directory.users, Directory.host]
    rcases mem_claimPlaces.1 hm with ⟨-, hpath⟩ | ⟨-, hpath⟩ <;> rw [hpath] <;> decide
  have htaken := Container.mountsAt_of_not_mountsVolume (nodup_paths_claimPlaces b host)
    (List.mem_map_of_mem hm) hmissing
  -- The files of the ConfigMaps are mounted elsewhere, so the path was taken before.
  have hbefore := ((Container.gains_mountAll _ _).mountsAt_cases htaken).resolve_right hconfig
  obtain ⟨other, hother, hpath⟩ := List.mem_map.1 (Container.mountsAt_iff.1 hbefore)
  refine ⟨other, hother, hpath, fun hname => hmissing ?_⟩
  exact (b.gains_equip host c).mountsVolume (Container.mountsVolume_iff.2 ⟨other, hother, hname⟩)

/-- What a container mounts in the end: everything from before, besides it only what the pod has a
volume or the workload a claim for, and the claims for data and logs unless their paths were
taken. -/
structure Equips (b : Blueprint) (host : Host) (spec : StatefulSetSpec) (pod : PodSpec)
    (c d : Container) : Prop where
  backed : ∃ added, d.mounts = c.mounts ++ added ∧
    ∀ m ∈ added, m.name ∈ pod.volumeNames ∨ spec.hasClaim m.name = true
  data : ∀ t, b.claimTemplate? host.templates.dataVolumeClaimTemplate = some t →
    MountedUnlessTaken c d t Directory.data
  log : ∀ t, b.claimTemplate? host.templates.logVolumeClaimTemplate = some t →
    MountedUnlessTaken c d t Directory.log

theorem equips_equip {c : Container} (hc : c ∈ (b.barePod host).containers) :
    b.Equips host (b.workloadSpec host) (b.equippedPod host) c (b.equip host c) := by
  refine ⟨?_, fun t ht => ?_, fun t ht => ?_⟩
  · obtain ⟨added, hmounts, hadded⟩ := b.gains_equip host c
    refine ⟨added, hmounts, fun m hm => ?_⟩
    rcases List.mem_append.1 (hadded m hm) with hplace | hplace
    · exact .inl (mem_volumeNames_equippedPod.2 (.inr (List.mem_map_of_mem hplace)))
    · obtain ⟨claimed, hclaimed, heq⟩ := List.mem_map.1 hplace
      obtain ⟨hname, -⟩ := Prod.mk.inj heq
      refine .inr (hasClaim_workloadSpec.2 ⟨⟨claimed.1, ?_⟩, ?_, .inr ⟨claimed, hclaimed, hname⟩⟩)
      · rw [← hname]
        exact declared_of_mem_claimPlaces hclaimed
      · refine ⟨b.equip host c, ?_, Container.mountsVolume_iff.2 ⟨m, ?_, rfl⟩⟩
        · rw [containers_equippedPod]
          exact List.mem_map_of_mem hc
        · rw [hmounts]
          exact List.mem_append_right _ hm
  · exact mountedUnlessTaken_equip (m := (t, Directory.data)) (mem_claimPlaces.2 (.inl ⟨ht, rfl⟩)) c
  · exact mountedUnlessTaken_equip (m := (t, Directory.log)) (mem_claimPlaces.2 (.inr ⟨ht, rfl⟩)) c

/-- The claims of a workload and the mounts of its containers go together. -/
structure ClaimsMatchMounts (b : Blueprint) (host : Host) (spec : StatefulSetSpec)
    (pod : PodSpec) : Prop where
  distinct : (spec.claims.map (·.metadata.name)).Nodup
  declared : ∀ claim ∈ spec.claims, ∃ t,
    b.installation.templates.volumeClaim? t.name = some t ∧
      claim = {
        metadata := { t.metadata.getD {} with name := some t.name, ns := none }
        spec := some t.spec }
  mounted : ∀ claim ∈ spec.claims, ∃ c ∈ pod.containers, ∃ m ∈ c.mounts,
    claim.metadata.name = some m.name
  present : ∀ c ∈ pod.containers, ∀ m ∈ c.mounts,
    (b.installation.templates.volumeClaim? m.name).isSome = true → m.name ∉ pod.volumeNames →
      spec.hasClaim m.name = true
  equipped : List.Forall₂ (b.Equips host spec pod) (b.barePod host).containers pod.containers

end Blueprint

/-- In the workload that is built for a host, whatever the installation, the claims are named apart,
each is that of the first template declared under its name, and a container mounts it. What a
container mounts of a declared template has its claim, unless it is a volume of the pod. -/
theorem claims_match_mounts (b : Blueprint) (host : Host) :
    ∃ spec pod, (b.workload host).body = { spec := some spec } ∧
      spec.template.spec = some pod ∧ b.ClaimsMatchMounts host spec pod := by
  have hfrom := b.claimsFrom_workloadSpec host
  refine ⟨b.workloadSpec host, b.equippedPod host, rfl, b.pod_workloadSpec host, ?_⟩
  refine ⟨hfrom.distinct, hfrom.declared, fun claim hclaim => ?_, ?_, ?_⟩
  · obtain ⟨t, -, rfl⟩ := hfrom.declared claim hclaim
    have hhas := StatefulSetSpec.hasClaim_iff.2 ⟨t.claim, hclaim, rfl⟩
    obtain ⟨-, ⟨c, hc, hmounts⟩, -⟩ := Blueprint.hasClaim_workloadSpec.1 hhas
    obtain ⟨m, hm, hname⟩ := Container.mountsVolume_iff.1 hmounts
    exact ⟨c, hc, m, hm, congrArg some hname.symm⟩
  · intro c hc m hm hdeclared hfresh
    have hmounts := Container.mountsVolume_iff.2 ⟨m, hm, rfl⟩
    exact Blueprint.hasClaim_workloadSpec.2
      ⟨Option.isSome_iff_exists.1 hdeclared, ⟨c, hc, hmounts⟩, .inl hfresh⟩
  · rw [Blueprint.containers_equippedPod, List.forall₂_map_right_iff, List.forall₂_same]
    exact fun c => Blueprint.equips_equip

end ShardOperator
