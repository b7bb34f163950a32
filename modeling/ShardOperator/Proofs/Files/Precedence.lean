import ShardOperator.Files.ServerFiles
import ShardOperator.Proofs.Topology.Inheritance

namespace ShardOperator

namespace Settings

/-- The path is that of a file of the host section. -/
def IsHostFile (path file : String) : Prop :=
  Section.isHost path = true ∧ fileName? path = some file

/-- The level declares the file for its hosts. -/
def Declares (level : Settings) (file content : String) : Prop :=
  ∃ path, IsHostFile path file ∧ level.entries.find? path = some (.scalar content)

/-- The first level that sets the path declares the file there. -/
def Serves (levels : List Settings) (file path content : String) : Prop :=
  IsHostFile path file ∧ levels.findSome? (·.entries.find? path) = some (.scalar content)

/-- The file has the content that the first level to declare it says. -/
def NearestWins (levels : List Settings) (files : SortedMap String) (file : String) : Prop :=
  ∀ near level far content, levels = near ++ level :: far →
    (∀ nearer ∈ near, ∀ other, ¬ nearer.Declares file other) → level.Declares file content →
    ∃ found, level.Declares file found ∧ files.find? file = some found

section Files

variable {s : Settings} {file content : String}

theorem isHost_iff {path : String} :
    Section.isHost path = true ↔ Section.ofPath path = .ok .host := by
  unfold Section.isHost
  split
  · next h => simp [h]
  · next h => simpa using h

theorem declares_of_find?_files (h : (s.files .host false).find? file = some content) :
    s.Declares file content := by
  unfold files SortedMap.ofList at h
  rcases SortedMap.mem_of_find?_insertAll h with hmem | hnone
  · obtain ⟨⟨path, value⟩, hentry, hfile⟩ := List.mem_filterMap.1 hmem
    have hhost : Section.ofPath path = .ok .host := by
      cases hsection : Section.ofPath path with
      | error e => simp [hsection] at hfile
      | ok found => cases found <;> simp [hsection] at hfile ⊢
    simp only [hhost, decide_true, if_true] at hfile
    split at hfile
    · next hname hscalar =>
      obtain ⟨rfl, rfl⟩ := Prod.mk.inj (Option.some.inj hfile)
      refine ⟨path, ⟨isHost_iff.2 hhost, hname⟩, ?_⟩
      cases value with
      | scalar text =>
        obtain rfl := Option.some.inj hscalar
        exact SortedMap.find?_of_mem hentry
      | vector texts => cases hscalar
    · cases hfile
  · cases hnone

theorem isSome_find?_files (h : s.Declares file content) :
    ((s.files .host false).find? file).isSome = true := by
  obtain ⟨path, ⟨hhost, hname⟩, hfound⟩ := h
  refine (SortedMap.isSome_find?_insertAll _ _ _).2 (.inl ⟨content, ?_⟩)
  refine List.mem_filterMap.2 ⟨(path, .scalar content), SortedMap.mem_of_find? hfound, ?_⟩
  simp [isHost_iff.1 hhost, hname, Setting.scalar?]

end Files

section Levels

variable {levels : List Settings} {file : String} {s : Settings}

/-- Where a level has all that comes down to it, its files are those that are served. -/
theorem declares_iff_serves
    (h : ∀ path, Section.isHost path = true →
      s.entries.find? path = levels.findSome? (·.entries.find? path)) {content : String} :
    s.Declares file content ↔ ∃ path, Serves levels file path content := by
  refine exists_congr fun path => and_congr_right fun hpath => ?_
  rw [h path hpath.1]

/-- The levels that set the file at all set it under one path, and none of them to a list. -/
def Alike (levels : List Settings) (file : String) : Prop :=
  ∃ path, ∀ level ∈ levels, ∀ other value, IsHostFile other file →
    level.entries.find? other = some value → other = path ∧ ∃ content, value = .scalar content

theorem Alike.serves (alike : Alike levels file) {near far : List Settings} {level : Settings}
    {content : String} (hlevels : levels = near ++ level :: far)
    (hnear : ∀ nearer ∈ near, ∀ other, ¬ nearer.Declares file other)
    (hdeclares : level.Declares file content) : ∃ path, Serves levels file path content := by
  subst hlevels
  obtain ⟨path, hpath, hfound⟩ := hdeclares
  obtain ⟨common, alike⟩ := alike
  refine ⟨path, hpath, ?_⟩
  have hnone : near.findSome? (·.entries.find? path) = none := by
    refine List.findSome?_eq_none_iff.2 fun nearer hnearer => ?_
    refine Option.eq_none_iff_forall_ne_some.2 fun value hvalue => ?_
    obtain ⟨-, other, rfl⟩ := alike nearer (List.mem_append_left _ hnearer) path value hpath hvalue
    exact hnear nearer hnearer other ⟨path, hpath, hvalue⟩
  rw [List.findSome?_append, hnone, List.findSome?_cons, hfound]
  rfl

theorem Alike.eq_of_serves (alike : Alike levels file) {path other content text : String}
    (h : Serves levels file path content) (h' : Serves levels file other text) :
    content = text := by
  obtain ⟨common, alike⟩ := alike
  obtain ⟨hpath, hfound⟩ := h
  obtain ⟨hother, hfound'⟩ := h'
  obtain ⟨level, hlevel, hvalue⟩ := List.exists_of_findSome?_eq_some hfound
  obtain ⟨level', hlevel', hvalue'⟩ := List.exists_of_findSome?_eq_some hfound'
  obtain ⟨rfl, -⟩ := alike level hlevel path _ hpath hvalue
  obtain ⟨rfl, -⟩ := alike level' hlevel' other _ hother hvalue'
  exact Setting.scalar.inj (Option.some.inj (hfound.symm.trans hfound'))

end Levels

end Settings

namespace ServerFiles

open Settings

/-- The files of a host that nobody declares. -/
def generatedHostFiles : List String := [macrosFile, hostPortsFile, hostSettingsFile]

theorem find?_host {host : Host} {file : String} (hfile : file ∉ generatedHostFiles) :
    (ServerFiles.host host).find? file = (host.files.files .host false).find? file := by
  simp only [generatedHostFiles, List.mem_cons, List.not_mem_nil, or_false, not_or] at hfile
  obtain ⟨hmacros, hports, hsettings⟩ := hfile
  refine (SortedMap.find?_override _ _ _).trans ?_
  rw [SortedMap.ofList, SortedMap.find?_insertAll_of_ne, SortedMap.find?_empty, Option.or_none]
  intro entry hentry heq
  simp only [settingsIfAny, List.mem_append, List.mem_cons, List.not_mem_nil, or_false] at hentry
  rcases hentry with (rfl | rfl) | hentry
  · exact hmacros heq.symm
  · exact hports heq.symm
  · split at hentry
    · cases hentry
    · rw [List.mem_singleton.1 hentry] at heq
      exact hsettings heq.symm

end ServerFiles

section Host

open Settings

variable {chi : InstallationResource} {defaults : HostDefaults} {i : Installation} {host : Host}

/-- What is declared of files on the levels of a host, the nearest first. -/
def InstallationResource.fileLevels (chi : InstallationResource) (spec : ClusterSpec)
    (id : HostId) : List Settings :=
  [(spec.layout.hostSpec id.shard id.replica).files, (spec.layout.line id.shard id.replica).files,
    spec.files, chi.spec.configuration.files]

theorem Host.declares_iff (h : chi.normalize defaults = .ok i) (hhost : host ∈ i.hosts) :
    ∃ spec, chi.spec.configuration.clusters[host.id.cluster]? = some spec ∧
      ∀ file content, host.files.Declares file content ↔
        ∃ path, Serves (chi.fileLevels spec host.id) file path content := by
  obtain ⟨spec, hspec, hlevel⟩ := Host.level_of_mem_hosts h hhost
  refine ⟨spec, hspec, fun file content => declares_iff_serves fun path hpath => ?_⟩
  have hfiles : host.files = _ := congrArg Parent.files hlevel
  rw [hfiles, Parent.files_chain, if_pos hpath]
  simp only [InstallationResource.fileLevels, findSome?_cons_eq_or]
  rfl

/-- A host has the files, besides those generated for it, that the first level to set their path
declares. Where the levels that set a file spell its path alike, and none sets it to a list, the
nearest level that declares the file has its way. -/
theorem host_files_served (h : chi.normalize defaults = .ok i) (hhost : host ∈ i.hosts) :
    ∃ spec, chi.spec.configuration.clusters[host.id.cluster]? = some spec ∧
      ∀ file, file ∉ ServerFiles.generatedHostFiles →
        let levels := chi.fileLevels spec host.id
        let files := ServerFiles.host host
        ((files.find? file).isSome = true ↔ ∃ path content, Serves levels file path content) ∧
        (∀ content, files.find? file = some content → ∃ path, Serves levels file path content) ∧
        (Alike levels file → NearestWins levels files file) := by
  obtain ⟨spec, hspec, hdeclares⟩ := Host.declares_iff h hhost
  refine ⟨spec, hspec, fun file hfile => ?_⟩
  have hfind := @ServerFiles.find?_host host file hfile
  have served {content : String} (hfound : (ServerFiles.host host).find? file = some content) :
      ∃ path, Serves (chi.fileLevels spec host.id) file path content :=
    (hdeclares file content).1 (declares_of_find?_files (hfind.symm.trans hfound))
  have found {path content : String}
      (hserves : Serves (chi.fileLevels spec host.id) file path content) :
      ((ServerFiles.host host).find? file).isSome = true := by
    rw [hfind]
    exact isSome_find?_files ((hdeclares file content).2 ⟨path, hserves⟩)
  refine ⟨⟨fun hsome => ?_, fun ⟨_, _, hserves⟩ => found hserves⟩, fun _ => served, fun alike => ?_⟩
  · obtain ⟨content, hfound⟩ := Option.isSome_iff_exists.1 hsome
    obtain ⟨path, hserves⟩ := served hfound
    exact ⟨path, content, hserves⟩
  · intro near level far content hlevels hnear hdeclared
    obtain ⟨path, hserves⟩ := alike.serves hlevels hnear hdeclared
    obtain ⟨other, hfound⟩ := Option.isSome_iff_exists.1 (found hserves)
    obtain ⟨otherPath, hother⟩ := served hfound
    exact ⟨content, hdeclared, by rw [hfound, alike.eq_of_serves hserves hother]⟩

section Mixed

/-- A host and its cluster declare three files each: one under two spellings of its path, one as a
list and as a text, and one alike. -/
def mixedHost : HostSpec where
  files := ofPairs [("HOST/a.xml", .scalar "own"), ("host/b.xml", .vector ["own"]),
    ("host/c.xml", .scalar "own")]

def mixedCluster : ClusterSpec where
  name := "main"
  files := ofPairs [("host/a.xml", .scalar "shared"), ("host/b.xml", .scalar "shared"),
    ("host/c.xml", .scalar "shared")]
  layout := { shards := [{ replicas := [mixedHost] }] }

def mixed : InstallationResource where
  metadata := { ns := some "ns", name := some "demo", uid := some "uid-1" }
  spec := { configuration := { clusters := [mixedCluster] } }

theorem fileLevels_mixed : mixed.fileLevels mixedCluster ⟨0, 0, 0⟩ =
    [mixedHost.files, .empty, mixedCluster.files, .empty] :=
  rfl

theorem exists_mixed :
    ∃ i host, mixed.normalize {} = .ok i ∧ host ∈ i.hosts ∧ host.id = ⟨0, 0, 0⟩ ∧
      (ServerFiles.host host).find? "a.xml" = some "shared" ∧
      (ServerFiles.host host).find? "b.xml" = none := by
  have hrun : (mixed.normalize {}).map (fun i => i.hosts.map fun host =>
      (host.id, (ServerFiles.host host).find? "a.xml", (ServerFiles.host host).find? "b.xml")) =
      .ok [(⟨0, 0, 0⟩, some "shared", none)] := by
    decide +kernel
  cases hnormal : mixed.normalize {} with
  | error e =>
    rw [hnormal] at hrun
    cases hrun
  | ok i =>
    rw [hnormal] at hrun
    obtain ⟨host, hhosts, hhost⟩ := List.map_eq_singleton_iff.1 (Except.ok.inj hrun)
    obtain ⟨hid, ha, hb⟩ := Prod.mk.inj hhost |>.imp id Prod.mk.inj
    exact ⟨i, host, rfl, hhosts ▸ List.mem_singleton_self host, hid, ha, hb⟩

/-- The host's own content of a file gives way to that of its cluster, which spells the path
otherwise, and a list of the host's hides a file of its cluster. -/
theorem nearest_file_loses :
    ∃ i host, mixed.normalize {} = .ok i ∧ host ∈ i.hosts ∧
      ¬ NearestWins (mixed.fileLevels mixedCluster host.id) (ServerFiles.host host) "a.xml" ∧
      ¬ NearestWins (mixed.fileLevels mixedCluster host.id) (ServerFiles.host host) "b.xml" := by
  obtain ⟨i, host, hnormal, hhost, hid, ha, hb⟩ := exists_mixed
  have hlevels := hid ▸ fileLevels_mixed
  refine ⟨i, host, hnormal, hhost, fun wins => ?_, fun wins => ?_⟩ <;> rw [hlevels] at wins
  · have hown : mixedHost.files.Declares "a.xml" "own" :=
      ⟨"HOST/a.xml", ⟨by decide +kernel, by decide +kernel⟩, by decide +kernel⟩
    obtain ⟨found, ⟨path, -, hfound⟩, hfile⟩ := wins [] _ _ "own" rfl nofun hown
    obtain rfl := Option.some.inj (ha.symm.trans hfile)
    have hnone : ∀ entry ∈ mixedHost.files.entries.entries, entry.2 ≠ .scalar "shared" := by
      decide +kernel
    exact hnone _ (SortedMap.mem_of_find? hfound) rfl
  · have hshared : mixedCluster.files.Declares "b.xml" "shared" :=
      ⟨"host/b.xml", ⟨by decide +kernel, by decide +kernel⟩, by decide +kernel⟩
    have hnear : ∀ nearer ∈ [mixedHost.files, .empty], ∀ other,
        ¬ nearer.Declares "b.xml" other := by
      have hlist : ∀ entry ∈ mixedHost.files.entries.entries, fileName? entry.1 = some "b.xml" →
          entry.2 = .vector ["own"] := by
        decide +kernel
      rintro nearer hnearer other ⟨path, ⟨-, hname⟩, hfound⟩
      rcases List.mem_cons.1 hnearer with rfl | hnearer
      · cases hlist _ (SortedMap.mem_of_find? hfound) hname
      · rw [List.mem_singleton.1 hnearer] at hfound
        cases hfound
    obtain ⟨found, -, hfile⟩ := wins [mixedHost.files, .empty] _ _ "shared" rfl hnear hshared
    rw [hb] at hfile
    cases hfile

theorem alike_mixed : Alike (mixed.fileLevels mixedCluster ⟨0, 0, 0⟩) "c.xml" := by
  refine ⟨"host/c.xml", fun level hlevel path value hpath hfound => ?_⟩
  have hentries : ∀ entry ∈ mixedHost.files.entries.entries ++ mixedCluster.files.entries.entries,
      fileName? entry.1 = some "c.xml" →
        entry.1 = "host/c.xml" ∧ (entry.2 = .scalar "own" ∨ entry.2 = .scalar "shared") := by
    decide +kernel
  have hmem : (path, value) ∈
      mixedHost.files.entries.entries ++ mixedCluster.files.entries.entries := by
    rw [fileLevels_mixed] at hlevel
    simp only [List.mem_cons, List.not_mem_nil, or_false] at hlevel
    rcases hlevel with rfl | rfl | rfl | rfl
    · exact List.mem_append_left _ (SortedMap.mem_of_find? hfound)
    · cases hfound
    · exact List.mem_append_right _ (SortedMap.mem_of_find? hfound)
    · cases hfound
  obtain ⟨heq, hvalue | hvalue⟩ := hentries _ hmem hpath.2
  · exact ⟨heq, _, hvalue⟩
  · exact ⟨heq, _, hvalue⟩

/-- Of two levels that declare a file under the same path the nearer has its way. -/
theorem host_files_served_mixed :
    ∃ i host, mixed.normalize {} = .ok i ∧ host ∈ i.hosts ∧
      mixedCluster.files.Declares "c.xml" "shared" ∧
      (ServerFiles.host host).find? "c.xml" = some "own" := by
  obtain ⟨i, host, hnormal, hhost, hid, -, -⟩ := exists_mixed
  obtain ⟨spec, hspec, hserved⟩ := host_files_served hnormal hhost
  rw [hid] at hspec hserved
  obtain rfl : mixedCluster = spec := Option.some.inj hspec
  obtain ⟨-, -, hwins⟩ := hserved "c.xml" (by decide)
  have hown : mixedHost.files.Declares "c.xml" "own" :=
    ⟨"host/c.xml", ⟨by decide +kernel, by decide +kernel⟩, by decide +kernel⟩
  have hshared : mixedCluster.files.Declares "c.xml" "shared" :=
    ⟨"host/c.xml", ⟨by decide +kernel, by decide +kernel⟩, by decide +kernel⟩
  obtain ⟨found, ⟨path, ⟨-, hname⟩, hfound⟩, hfile⟩ :=
    hwins alike_mixed [] _ _ "own" fileLevels_mixed nofun hown
  have hentries : ∀ entry ∈ mixedHost.files.entries.entries, fileName? entry.1 = some "c.xml" →
      entry.2 = .scalar "own" := by
    decide +kernel
  obtain rfl := Setting.scalar.inj (hentries _ (SortedMap.mem_of_find? hfound) hname)
  exact ⟨i, host, hnormal, hhost, hshared, hfile⟩

end Mixed

end Host

end ShardOperator
