import Mathlib.Data.List.Nodup
import ShardOperator.Desired.Workloads

namespace ShardOperator

/-- Volumes with the paths at which they are to be mounted. -/
abbrev Places := List (String × String)

namespace Container

variable {c d e : Container} {volume path : String} {places : Places}

def mountPaths (c : Container) : List String := c.mounts.map (·.mountPath)

theorem mountsVolume_iff : c.mountsVolume volume = true ↔ ∃ m ∈ c.mounts, m.name = volume := by
  simp [mountsVolume]

theorem mountsAt_iff : c.mountsAt path = true ↔ path ∈ c.mountPaths := by
  simp [mountsAt, mountPaths]

@[simp] theorem mounts_addMount (c : Container) (volume path : String) :
    (c.addMount volume path).mounts = c.mounts ++ [{ mountPath := path, name := volume }] :=
  rfl

theorem mount_eq_self (h : c.mountsVolume volume = true) (path : String) :
    c.mount volume path = c :=
  if_pos h

theorem mount_eq_addMount (h : ¬c.mountsVolume volume = true) (path : String) :
    c.mount volume path = c.addMount volume path :=
  if_neg h

theorem mountsVolume_addMount (c : Container) (added path : String) :
    (c.addMount added path).mountsVolume volume = true ↔
      c.mountsVolume volume = true ∨ added = volume := by
  simp [mountsVolume]

theorem mountsAt_addMount (c : Container) (volume added : String) :
    (c.addMount volume added).mountsAt path = true ↔
      c.mountsAt path = true ∨ added = path := by
  simp [mountsAt]

theorem mountsVolume_mount (c : Container) (added path : String) :
    (c.mount added path).mountsVolume volume = true ↔
      c.mountsVolume volume = true ∨ added = volume := by
  by_cases h : c.mountsVolume added = true
  · rw [mount_eq_self h]
    exact ⟨.inl, (·.elim id (· ▸ h))⟩
  · rw [mount_eq_addMount h]
    exact mountsVolume_addMount c added path

/-- The second container has the mounts of the first, and behind them some of the places. -/
def Gains (c d : Container) (places : Places) : Prop :=
  ∃ added, d.mounts = c.mounts ++ added ∧ ∀ m ∈ added, (m.name, m.mountPath) ∈ places

namespace Gains

theorem of_eq (h : d.mounts = c.mounts) : c.Gains d places :=
  ⟨[], by rw [h, List.append_nil], fun m hm => absurd hm List.not_mem_nil⟩

theorem trans {more : Places} (h : c.Gains d places) (h' : d.Gains e more) :
    c.Gains e (places ++ more) := by
  obtain ⟨added, hd, hadded⟩ := h
  obtain ⟨later, he, hlater⟩ := h'
  refine ⟨added ++ later, by rw [he, hd, List.append_assoc], fun m hm => ?_⟩
  rcases List.mem_append.1 hm with hm | hm
  · exact List.mem_append_left _ (hadded m hm)
  · exact List.mem_append_right _ (hlater m hm)

theorem mountsVolume (h : c.Gains d places) (hc : c.mountsVolume volume = true) :
    d.mountsVolume volume = true := by
  obtain ⟨added, hd, -⟩ := h
  obtain ⟨m, hm, hname⟩ := mountsVolume_iff.1 hc
  exact mountsVolume_iff.2 ⟨m, hd ▸ List.mem_append_left _ hm, hname⟩

theorem mountsVolume_cases (h : c.Gains d places) (hd : d.mountsVolume volume = true) :
    c.mountsVolume volume = true ∨ volume ∈ places.map Prod.fst := by
  obtain ⟨added, hmounts, hadded⟩ := h
  obtain ⟨m, hm, rfl⟩ := mountsVolume_iff.1 hd
  rcases List.mem_append.1 (hmounts ▸ hm) with hm | hm
  · exact .inl (mountsVolume_iff.2 ⟨m, hm, rfl⟩)
  · exact .inr (List.mem_map.2 ⟨_, hadded m hm, rfl⟩)

theorem mountsAt_cases (h : c.Gains d places) (hd : d.mountsAt path = true) :
    c.mountsAt path = true ∨ path ∈ places.map Prod.snd := by
  obtain ⟨added, hmounts, hadded⟩ := h
  obtain ⟨m, hm, rfl⟩ := List.mem_map.1 (mountsAt_iff.1 hd)
  rcases List.mem_append.1 (hmounts ▸ hm) with hm | hm
  · exact .inl (mountsAt_iff.2 (List.mem_map_of_mem hm))
  · exact .inr (List.mem_map.2 ⟨_, hadded m hm, rfl⟩)

/-- Mounts that have a path in common keep it. -/
theorem nodup_mountPaths (h : c.Gains d places) (hd : d.mountPaths.Nodup) :
    c.mountPaths.Nodup := by
  obtain ⟨added, hmounts, -⟩ := h
  rw [mountPaths, hmounts, List.map_append] at hd
  exact hd.of_append_left

end Gains

theorem gains_addMount (c : Container) (volume path : String) :
    c.Gains (c.addMount volume path) [(volume, path)] :=
  ⟨_, rfl, fun m hm => by rw [List.mem_singleton.1 hm]; exact List.mem_singleton_self _⟩

theorem gains_mount (c : Container) (place : String × String) :
    c.Gains (c.mount place.1 place.2) [place] := by
  unfold mount
  split
  · exact .of_eq rfl
  · exact gains_addMount c place.1 place.2

theorem gains_mountIfFree (c : Container) (place : String × String) :
    c.Gains (c.mountIfFree place.1 place.2) [place] := by
  unfold mountIfFree
  split
  · exact .of_eq rfl
  · exact gains_addMount c place.1 place.2

/-- What every step gains one place by gains all of them one after the other. -/
theorem gains_foldl {step : Container → String × String → Container}
    (hstep : ∀ (c : Container) place, c.Gains (step c place) [place]) (c : Container)
    (places : Places) :
    c.Gains (places.foldl step c) places := by
  induction places generalizing c with
  | nil => exact .of_eq rfl
  | cons place rest ih => exact (hstep c place).trans (ih (step c place))

/-- Mounts the places in their order. -/
def mountAll (c : Container) (places : Places) : Container :=
  places.foldl (fun c place => c.mount place.1 place.2) c

/-- Mounts the places in their order, each where its path is free. -/
def mountAllFree (c : Container) (places : Places) : Container :=
  places.foldl (fun c place => c.mountIfFree place.1 place.2) c

theorem gains_mountAll (c : Container) (places : Places) : c.Gains (c.mountAll places) places :=
  gains_foldl gains_mount c places

theorem gains_mountAllFree (c : Container) (places : Places) :
    c.Gains (c.mountAllFree places) places :=
  gains_foldl gains_mountIfFree c places

theorem nodup_mountPaths_addMount (c : Container) (volume path : String) :
    (c.addMount volume path).mountPaths.Nodup ↔
      c.mountPaths.Nodup ∧ ¬c.mountsAt path = true := by
  rw [mountsAt_iff, mountPaths, mounts_addMount, List.map_append, List.map_singleton, ← mountPaths,
    ← List.concat_eq_append, List.nodup_concat, and_comm]

/-- A free path is no path of another mount. -/
theorem nodup_mountPaths_mountIfFree (c : Container) (volume path : String) :
    (c.mountIfFree volume path).mountPaths.Nodup ↔ c.mountPaths.Nodup := by
  unfold mountIfFree
  split
  · rfl
  · next h =>
    rw [nodup_mountPaths_addMount]
    exact and_iff_left fun hat => h (by rw [hat, Bool.or_true])

theorem nodup_mountPaths_mountAllFree (c : Container) (places : Places) :
    (c.mountAllFree places).mountPaths.Nodup ↔ c.mountPaths.Nodup := by
  induction places generalizing c with
  | nil => rfl
  | cons place rest ih => exact (ih _).trans (nodup_mountPaths_mountIfFree c place.1 place.2)

theorem mountsVolume_mountIfFree (volume : String) (h : ¬c.mountsAt path = true) :
    (c.mountIfFree volume path).mountsVolume volume = true := by
  unfold mountIfFree
  split
  · next htaken => exact (Bool.or_eq_true_iff.1 htaken).resolve_right h
  · exact (mountsVolume_addMount ..).2 (.inr rfl)

/-- A volume that is missing although it was to be mounted found its path taken. -/
theorem mountsAt_of_not_mountsVolume (hpaths : (places.map Prod.snd).Nodup)
    {place : String × String} (hplace : place ∈ places)
    (h : ¬(c.mountAllFree places).mountsVolume place.1 = true) : c.mountsAt place.2 = true := by
  induction places generalizing c with
  | nil => exact absurd hplace List.not_mem_nil
  | cons head rest ih =>
    obtain ⟨hhead, hrest⟩ := List.nodup_cons.1 hpaths
    rcases List.mem_cons.1 hplace with rfl | hplace
    · by_contra hfree
      -- It would be mounted, and nothing that comes after takes it away.
      exact h ((gains_mountAllFree _ rest).mountsVolume (mountsVolume_mountIfFree place.1 hfree))
    · refine ((gains_mountIfFree c head).mountsAt_cases (ih hrest hplace h)).resolve_right ?_
      rw [List.map_singleton, List.mem_singleton]
      intro heq
      exact hhead (heq ▸ List.mem_map_of_mem hplace)

/-- Where the container has taken the path of a place, it mounts the volume already, or has mounted
it by then for an earlier place. -/
def Admits (c : Container) (places : Places) : Prop :=
  ∀ earlier place later, places = earlier ++ place :: later → c.mountsAt place.2 = true →
    c.mountsVolume place.1 = true ∨ place.1 ∈ earlier.map Prod.fst

/-- Where all paths are free everything is admitted. -/
theorem admits_of_free (h : ∀ place ∈ places, ¬c.mountsAt place.2 = true) : c.Admits places :=
  fun _ place _ hsplit htaken =>
    absurd htaken (h place (hsplit ▸ List.mem_append_right _ (List.mem_cons_self ..)))

/-- The first place is admitted if its volume is mounted or its path is free, and the others if the
container admits them after it. -/
theorem admits_cons {place : String × String} (hfresh : place.2 ∉ places.map Prod.snd) :
    c.Admits (place :: places) ↔
      (c.mountsAt place.2 = true → c.mountsVolume place.1 = true) ∧
        (c.mount place.1 place.2).Admits places := by
  have hat {other : String × String} (hother : other ∈ places) :
      (c.mount place.1 place.2).mountsAt other.2 = true ↔ c.mountsAt other.2 = true := by
    have hne : place.2 ≠ other.2 := fun heq => hfresh (heq ▸ List.mem_map_of_mem hother)
    unfold mount
    split
    · rfl
    · rw [mountsAt_addMount, or_iff_left hne]
  constructor
  · intro h
    refine ⟨fun htaken => ?_, fun earlier other later hsplit htaken => ?_⟩
    · exact (h [] place places rfl htaken).resolve_right List.not_mem_nil
    · have hother : other ∈ places := hsplit ▸ List.mem_append_right _ (List.mem_cons_self ..)
      have hsame := h (place :: earlier) other later (by rw [hsplit]; rfl) ((hat hother).1 htaken)
      rw [mountsVolume_mount]
      rw [List.map_cons, List.mem_cons] at hsame
      tauto
  · rintro ⟨hfirst, hrest⟩ earlier other later hsplit htaken
    cases earlier with
    | nil =>
      obtain ⟨rfl, rfl⟩ := List.cons.inj hsplit
      exact .inl (hfirst htaken)
    | cons head earlier =>
      obtain ⟨rfl, htail⟩ := List.cons.inj hsplit
      have hother : other ∈ places := htail ▸ List.mem_append_right _ (List.mem_cons_self ..)
      have hsame := hrest earlier other later htail ((hat hother).2 htaken)
      rw [mountsVolume_mount] at hsame
      rw [List.map_cons, List.mem_cons]
      tauto

/-- Paths stay distinct exactly where the container admits the places. -/
theorem nodup_mountPaths_mountAll (hpaths : (places.map Prod.snd).Nodup)
    (hc : c.mountPaths.Nodup) : (c.mountAll places).mountPaths.Nodup ↔ c.Admits places := by
  induction places generalizing c with
  | nil =>
    exact iff_of_true hc (admits_of_free fun place hplace => absurd hplace List.not_mem_nil)
  | cons place rest ih =>
    obtain ⟨hfresh, hrest⟩ := List.nodup_cons.1 hpaths
    rw [admits_cons hfresh]
    change ((c.mount place.1 place.2).mountAll rest).mountPaths.Nodup ↔ _
    by_cases hmounted : c.mountsVolume place.1 = true
    · rw [mount_eq_self hmounted, and_iff_right fun _ => hmounted]
      exact ih hrest hc
    · rw [mount_eq_addMount hmounted]
      by_cases hfree : c.mountsAt place.2 = true
      · refine iff_of_false (fun h => ?_) fun h => hmounted (h.1 hfree)
        have hnodup := (gains_mountAll _ rest).nodup_mountPaths h
        exact ((nodup_mountPaths_addMount ..).1 hnodup).2 hfree
      · rw [and_iff_right fun htaken => absurd htaken hfree]
        exact ih hrest ((nodup_mountPaths_addMount ..).2 ⟨hc, hfree⟩)

end Container

namespace PodSpec

@[simp] theorem containers_mapContainers (pod : PodSpec) (f : Container → Container) :
    (pod.mapContainers f).containers = pod.containers.map f :=
  rfl

theorem exists_mem_mapContainers {pod : PodSpec} {f : Container → Container}
    {p : Container → Prop} :
    (∃ c ∈ (pod.mapContainers f).containers, p c) ↔ ∃ c ∈ pod.containers, p (f c) := by
  simp

theorem mapContainers_eq_self {f : Container → Container} (pod : PodSpec) (h : ∀ c, f c = c) :
    pod.mapContainers f = pod := by
  rw [mapContainers, List.map_id'' h]

theorem mapContainers_mapContainers (pod : PodSpec) (f g : Container → Container) :
    (pod.mapContainers f).mapContainers g = pod.mapContainers fun c => g (f c) := by
  rw [mapContainers, containers_mapContainers, List.map_map]
  rfl

@[simp] theorem volumeNames_mapContainers (pod : PodSpec) (f : Container → Container) :
    (pod.mapContainers f).volumeNames = pod.volumeNames :=
  rfl

@[simp] theorem containers_addConfigVolume (pod : PodSpec) (name : String) :
    (pod.addConfigVolume name).containers = pod.containers := by
  unfold addConfigVolume
  split <;> rfl

theorem volumeNames_addConfigVolume (pod : PodSpec) (name : String) :
    (pod.addConfigVolume name).volumeNames =
      if name ∈ pod.volumeNames then pod.volumeNames else pod.volumeNames ++ [name] := by
  by_cases h : name ∈ pod.volumeNames
  · rw [if_pos h, addConfigVolume, if_pos (List.contains_iff_mem.2 h)]
  · rw [if_neg h, addConfigVolume, if_neg fun hin => h (List.contains_iff_mem.1 hin)]
    exact List.map_append ..

theorem mem_volumeNames_addConfigVolume {pod : PodSpec} {name other : String} :
    other ∈ (pod.addConfigVolume name).volumeNames ↔ other ∈ pod.volumeNames ∨ other = name := by
  rw [volumeNames_addConfigVolume]
  split
  · next h => exact ⟨.inl, (·.elim id (· ▸ h))⟩
  · rw [List.mem_append, List.mem_singleton]

theorem nodup_volumeNames_addConfigVolume {pod : PodSpec} (h : pod.volumeNames.Nodup)
    (name : String) : (pod.addConfigVolume name).volumeNames.Nodup := by
  rw [volumeNames_addConfigVolume]
  split
  · exact h
  · next hfresh =>
    rw [← List.concat_eq_append, List.nodup_concat]
    exact ⟨hfresh, h⟩

/-- Mounts the files of ConfigMaps, each at its place, and adds the volumes that this takes. -/
def mountConfig (pod : PodSpec) (places : Places) : PodSpec :=
  places.foldl (fun pod place =>
    (pod.mapContainers (·.mount place.1 place.2)).addConfigVolume place.1) pod

theorem containers_mountConfig (pod : PodSpec) (places : Places) :
    (pod.mountConfig places).containers = pod.containers.map (·.mountAll places) := by
  induction places generalizing pod with
  | nil => exact (List.map_id _).symm
  | cons place rest ih =>
    refine (ih _).trans ?_
    rw [containers_addConfigVolume, containers_mapContainers, List.map_map]
    rfl

theorem mem_volumeNames_mountConfig {pod : PodSpec} {places : Places} {name : String} :
    name ∈ (pod.mountConfig places).volumeNames ↔
      name ∈ pod.volumeNames ∨ name ∈ places.map Prod.fst := by
  induction places generalizing pod with
  | nil => simp [mountConfig]
  | cons place rest ih =>
    refine ih.trans ?_
    rw [mem_volumeNames_addConfigVolume, volumeNames_mapContainers, List.map_cons, List.mem_cons,
      or_assoc]

theorem nodup_volumeNames_mountConfig {pod : PodSpec} (h : pod.volumeNames.Nodup)
    (places : Places) : (pod.mountConfig places).volumeNames.Nodup := by
  induction places generalizing pod with
  | nil => exact h
  | cons place rest ih =>
    have hmounted : (pod.mapContainers (·.mount place.1 place.2)).volumeNames.Nodup := h
    exact ih (nodup_volumeNames_addConfigVolume hmounted place.1)

/-- The pod without its containers, its volumes and its hosts file. -/
def outline (pod : PodSpec) : PodSpec :=
  { pod with containers := [], hostAliases := none, volumes := none }

@[simp] theorem outline_mapContainers (pod : PodSpec) (f : Container → Container) :
    (pod.mapContainers f).outline = pod.outline :=
  rfl

theorem outline_addConfigVolume (pod : PodSpec) (name : String) :
    (pod.addConfigVolume name).outline = pod.outline := by
  unfold addConfigVolume
  split <;> rfl

theorem outline_mountConfig (pod : PodSpec) (places : Places) :
    (pod.mountConfig places).outline = pod.outline := by
  induction places generalizing pod with
  | nil => rfl
  | cons place rest ih => exact (ih _).trans (outline_addConfigVolume _ place.1)

end PodSpec

namespace Blueprint

variable (b : Blueprint) (host : Host)

/-- The pod of a host before ports, files and claims are added to it: that of its template or the
default one, with the log sidecar where the host names a template for logs. -/
def barePod : PodSpec :=
  let pod := ((b.podTemplate? host).map (·.spec)).getD b.defaultPod
  if host.templates.logVolumeClaimTemplate.isSome then b.addLogSidecar pod else pod

theorem pod_eq :
    b.pod host = (((b.barePod host).mapContainers (·.exposePorts host)).addHostAlias "127.0.0.1"
      host.address.workloadName).mountConfig (b.configVolumes host) :=
  rfl

theorem containers_pod :
    (b.pod host).containers = (b.barePod host).containers.map fun c =>
      (c.exposePorts host).mountAll (b.configVolumes host) := by
  rw [pod_eq, PodSpec.containers_mountConfig]
  exact List.map_map

theorem mem_volumeNames_pod {name : String} :
    name ∈ (b.pod host).volumeNames ↔
      name ∈ (b.barePod host).volumeNames ∨ name ∈ (b.configVolumes host).map Prod.fst := by
  rw [pod_eq, PodSpec.mem_volumeNames_mountConfig]
  rfl

theorem outline_pod : (b.pod host).outline = (b.barePod host).outline := by
  rw [pod_eq, PodSpec.outline_mountConfig]
  rfl

theorem nodup_volumeNames_pod (h : (b.barePod host).volumeNames.Nodup) :
    (b.pod host).volumeNames.Nodup := by
  rw [pod_eq]
  apply PodSpec.nodup_volumeNames_mountConfig
  exact h

end Blueprint

end ShardOperator
