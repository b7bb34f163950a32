import ShardOperator.Proofs.Files.Sections

namespace ShardOperator

namespace KeeperFiles

open Xml

/-- A coordination server as the others know it. -/
structure Server where
  id : Nat
  host : Host

def Server.node (s : Server) : Node :=
  .branch "server" [.leaf "id" (toString s.id), .leaf "hostname" s.host.address.workloadName,
    .leaf "port" (toString raftPort)]

/-- The element of the servers that know each other. -/
def configNode (servers : List Server) : Node :=
  .branch "keeper_server" [
    .leaf "log_storage_path" "/var/lib/clickhouse-keeper/coordination/logs",
    .leaf "snapshot_storage_path" "/var/lib/clickhouse-keeper/coordination/snapshots",
    .branch "raft_configuration" (servers.map Server.node)]

/-- The element in which a server knows itself. -/
def serverIdNode (s : Server) : Node :=
  .branch "keeper_server" [.leaf "server_id" (toString s.id),
    .leaf "tcp_port" (PeerList.int32Text s.host.tcpPort)]

/-- The place of an id among those of all hosts, counted from one. -/
def number (i : Installation) (id : HostId) : Nat := (i.hosts.map Host.id).idxOf id + 1

/-- The servers that are included, each with its number among all. -/
def servers (i : Installation) (e : Exclusion) : List Server :=
  (i.hosts.filter e.includes).map fun host => ⟨number i host.id, host⟩

variable {i : Installation} {e : Exclusion}

theorem number_getElem (nodup : (i.hosts.map Host.id).Nodup) {n : Nat} (hn : n < i.hosts.length) :
    number i i.hosts[n].id = n + 1 := by
  have hlength : n < (i.hosts.map Host.id).length := by rwa [List.length_map]
  have hid : (i.hosts.map Host.id)[n] = i.hosts[n].id := List.getElem_map ..
  rw [number, ← hid, nodup.idxOf_getElem n hlength]

/-- The numbers of the hosts are all those up to their count, in the order of the hosts. -/
theorem map_number (nodup : (i.hosts.map Host.id).Nodup) :
    (i.hosts.map fun host => number i host.id) = List.range' 1 i.hosts.length := by
  refine List.ext_getElem (by simp) fun n hn _ => ?_
  rw [List.length_map] at hn
  rw [List.getElem_map, number_getElem nodup hn, List.getElem_range']
  omega

theorem serverId?_of_mem {host : Host} (hhost : host ∈ i.hosts) :
    serverId? i host = some (number i host.id) := by
  have hlt : (i.hosts.map Host.id).idxOf host.id < i.hosts.length := by
    rw [← List.length_map Host.id]
    exact List.idxOf_lt_length_of_mem (List.mem_map_of_mem hhost)
  have hfirst : i.hosts.findIdx (·.id = host.id) = (i.hosts.map Host.id).idxOf host.id := by
    rw [List.idxOf, List.findIdx_map]
    rfl
  have hfound : i.hosts.findIdx? (·.id = host.id) = some ((i.hosts.map Host.id).idxOf host.id) :=
    List.findIdx?_eq_some_iff_findIdx_eq.2 ⟨hlt, hfirst⟩
  rw [serverId?, hfound, Option.map_some, number]

/-- The servers are numbered before any is left out, and keep the number that each finds. -/
theorem flatMap_serverPieces (nodup : (i.hosts.map Host.id).Nodup) (e : Exclusion) :
    (i.hosts.zipIdx.filter (e.includes ·.1)).flatMap (fun s => serverPieces s.1 (s.2 + 1)) =
      (servers i e).flatMap fun s => serverPieces s.host s.id := by
  have hnumber : ∀ s ∈ i.hosts.zipIdx.filter (e.includes ·.1),
      serverPieces s.1 (s.2 + 1) = serverPieces s.1 (number i s.1.id) := by
    -- Ids are distinct, so that none is found before the place where its host is counted.
    intro s hs
    have hplace : i.hosts[s.2]? = some s.1 :=
      List.mem_zipIdx_iff_getElem?.1 (List.mem_filter.1 hs).1
    obtain ⟨hn, heq⟩ := List.getElem?_eq_some_iff.1 hplace
    rw [← heq, number_getElem nodup hn]
  rw [servers, List.flatMap_map, ← fst_filter_zipIdx, List.flatMap_map]
  exact congrArg List.flatten (List.map_congr_left hnumber)

theorem pieces_configNode (nodup : (i.hosts.map Host.id).Nodup) (e : Exclusion) :
    (configNode (servers i e)).pieces = pieces i e := by
  have hservers : (Node.branch "raft_configuration" ((servers i e).map Server.node)).pieces =
      [.opening "raft_configuration"] ++ (servers i e).flatMap (fun s => serverPieces s.host s.id) ++
        [.closing "raft_configuration"] := by
    rw [Node.pieces_branch, List.flatMap_map]
    rfl
  rw [configNode, Node.pieces_branch, pieces, flatMap_serverPieces nodup]
  simp only [List.flatMap_cons, List.flatMap_nil, hservers, List.append_assoc]
  rfl

theorem config_eq_textOf (nodup : (i.hosts.map Host.id).Nodup) (e : Exclusion) :
    config i e = textOf [configNode (servers i e)] := by
  rw [config_eq, textOf, List.flatMap_singleton, pieces_configNode nodup]

theorem find?_serverIdFile {host : Host} (hhost : host ∈ i.hosts) :
    (KeeperFiles.host i host).find? serverIdFile =
      ((host.files.files .host false).find? serverIdFile).or
        (some (textOf [serverIdNode ⟨number i host.id, host⟩])) := by
  rw [KeeperFiles.host, serverId?_of_mem hhost, SortedMap.find?_override]
  rfl

theorem number_mapHosts (i : Installation) (g : Host → HostFlags) :
    number (i.mapHosts (Host.reflag g)) = number i := by
  have hids : (i.mapHosts (Host.reflag g)).hosts.map Host.id = i.hosts.map Host.id := by
    rw [Installation.hosts_mapHosts, List.map_map]
    rfl
  funext id
  rw [number, number, hids]

/-- Every host has a number, from one to the count of the hosts. It is listed with that number by
the others wherever it is included, and knows itself by it. Where a file of the name is declared, it
has the place of the generated one. -/
structure Numbered (i : Installation) (number : HostId → Nat) : Prop where
  counted : (i.hosts.map fun host => number host.id) = List.range' 1 i.hosts.length
  apart : ∀ a ∈ i.hosts, ∀ b ∈ i.hosts, number a.id = number b.id → a = b
  listed : ∀ e : Exclusion, (common i e).find? configFile =
    ((i.files.files .common true).find? configFile).or (some (textOf [configNode
      ((i.hosts.filter e.includes).map fun host => ⟨number host.id, host⟩)]))
  own : ∀ host ∈ i.hosts, (KeeperFiles.host i host).find? serverIdFile =
    ((host.files.files .host false).find? serverIdFile).or
      (some (textOf [serverIdNode ⟨number host.id, host⟩]))

theorem numbered (nodup : (i.hosts.map Host.id).Nodup) : Numbered i (number i) := by
  have hcounted := map_number nodup
  have hnumbers : (i.hosts.map fun host => number i host.id).Nodup := hcounted ▸ List.nodup_range'
  refine ⟨hcounted, fun a ha b hb heq => List.inj_on_of_nodup_map hnumbers ha hb heq, fun e => ?_,
    fun host hhost => find?_serverIdFile hhost⟩
  have hgenerated : (XmlWriter.document.putAll (Flavour.peerPieces .keeper i e)).finish =
      textOf [configNode (servers i e)] :=
    (config_eq i e).symm.trans (config_eq_textOf nodup e)
  exact (Flavour.find?_peerFile .keeper i e).trans (by rw [hgenerated]; rfl)

end KeeperFiles

/-- The hosts of an accepted installation have numbers that depend neither on their flags nor on who
is excluded. -/
theorem server_ids_agree {chi : InstallationResource} {defaults : HostDefaults} {i : Installation}
    (h : chi.normalize defaults = .ok i) :
    ∃ number : HostId → Nat, ∀ g : Host → HostFlags,
      KeeperFiles.Numbered (i.mapHosts (Host.reflag g)) number := by
  refine ⟨KeeperFiles.number i, fun g => ?_⟩
  have aligned : (i.mapHosts (Host.reflag g)).Aligned :=
    (InstallationResource.aligned_normalize h).1.mapHosts fun _ => rfl
  rw [← KeeperFiles.number_mapHosts i g]
  exact KeeperFiles.numbered aligned.nodup_ids

/-- The other hosts keep their numbers while one is to go. -/
theorem server_ids_agree_ragged :
    ∃ (i : Installation) (number : HostId → Nat), ragged.normalize {} = .ok i ∧
      let j := i.mapHosts (Host.reflag leavingFlags)
      ((j.hosts.filter leaving.includes).map fun host => number host.id) = [1, 3, 4, 5, 6, 7, 8] ∧
      ∀ host ∈ j.hosts, (KeeperFiles.host j host).find? KeeperFiles.serverIdFile =
        some (Xml.textOf [KeeperFiles.serverIdNode ⟨number host.id, host⟩]) := by
  obtain ⟨i, hi, -, -⟩ := exists_normalize_ragged
  obtain ⟨number, hnumbered⟩ := server_ids_agree hi
  have hnumbered := hnumbered leavingFlags
  have hrun : (ragged.normalize {}).map (fun i =>
      ((i.mapHosts (Host.reflag leavingFlags)).hosts.map Host.id,
        ((i.mapHosts (Host.reflag leavingFlags)).hosts.filter leaving.includes).map Host.id,
        (i.mapHosts (Host.reflag leavingFlags)).hosts.map fun host =>
          (host.files.files .host false).find? KeeperFiles.serverIdFile)) =
      .ok ([⟨0, 0, 0⟩, ⟨0, 0, 1⟩, ⟨0, 1, 0⟩, ⟨0, 2, 0⟩, ⟨1, 0, 0⟩, ⟨1, 0, 1⟩, ⟨1, 1, 1⟩, ⟨1, 2, 1⟩],
        [⟨0, 0, 0⟩, ⟨0, 1, 0⟩, ⟨0, 2, 0⟩, ⟨1, 0, 0⟩, ⟨1, 0, 1⟩, ⟨1, 1, 1⟩, ⟨1, 2, 1⟩],
        List.replicate 8 none) := rfl
  rw [hi] at hrun
  obtain ⟨hids, hrun⟩ := Prod.mk.inj (Except.ok.inj hrun)
  obtain ⟨hlisted, hfiles⟩ := Prod.mk.inj hrun
  refine ⟨i, number, hi, ?_, fun host hhost => ?_⟩
  · have hcounted := hnumbered.counted
    rw [← List.length_map Host.id, ← Function.comp_def number Host.id, ← List.map_map, hids]
      at hcounted
    rw [← Function.comp_def number Host.id, ← List.map_map, hlisted]
    simp only [List.map_cons, List.map_nil, List.length_cons, List.length_nil, List.range',
      List.cons.injEq] at hcounted ⊢
    simp [hcounted]
  · have hnone := List.mem_replicate.1 (hfiles ▸ List.mem_map_of_mem hhost)
    rw [hnumbered.own host hhost, hnone.2, Option.none_or]

/-- Two hosts, and a declared file by which both are the first. -/
def imposing : InstallationResource where
  metadata := { ns := some "ns", name := some "demo", uid := some "uid-1" }
  spec := { configuration := { clusters := [{
    name := "main"
    files := Settings.ofPairs [("host/chop-generated-keeper-server-id.xml", .scalar ("<yandex>\n" ++
      "    <keeper_server>\n        <server_id>1</server_id>\n" ++
      "        <tcp_port>9000</tcp_port>\n    </keeper_server>\n</yandex>\n"))]
    layout := { replicasCount := some 2 } }] } }

/-- A declared file takes the place of the one from which a host knows its number: the others list
it as the second, and it takes itself for the first. -/
theorem server_ids_differ :
    ∃ i first second, imposing.normalize {} = .ok i ∧ i.hosts = [first, second] ∧
      (KeeperFiles.common i .none).find? KeeperFiles.configFile =
        some (Xml.textOf [KeeperFiles.configNode [⟨1, first⟩, ⟨2, second⟩]]) ∧
      (KeeperFiles.host i second).find? KeeperFiles.serverIdFile =
        some (Xml.textOf [KeeperFiles.serverIdNode ⟨1, second⟩]) ∧
      Xml.textOf [KeeperFiles.serverIdNode ⟨1, second⟩] ≠
        Xml.textOf [KeeperFiles.serverIdNode ⟨2, second⟩] := by
  refine ⟨_, _, _, rfl, rfl, rfl, rfl, ?_⟩
  decide +kernel

end ShardOperator
