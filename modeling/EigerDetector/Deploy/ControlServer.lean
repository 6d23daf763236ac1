import EigerDetector.Deploy.Ports

/-! The control server of a deployment: the endpoints that it is given, and the scripts of the
processes that serve them. -/
namespace Eiger.Deploy

open Templates

def odinServerIni : List Piece :=
  [.plain (text "[server]\ndebug_mode = 0\nhttp_port  = "),
    .named (text "PORT"),
    .plain (text "\nhttp_addr  = 0.0.0.0\nadapters   = "),
    .named (text "ADAPTERS"),
    .plain (text "\n\n[tornado]\nlogging = error\n\n"),
    .named (text "ADAPTER_CONFIG"),
    .plain (text "\n")]

/-- The control server, with the processes of its data servers. -/
structure EigerOdinControlServer where
  ip : Text
  port : Nat
  detectorEndpoint : Text
  detectorApi : Text
  fanIp : Text
  metaListenerIp : Text
  processes : List EigerOdinData

/-- `sorted` with the rank as the key, which raises where a rank is missing and is compared. -/
def sortByRank (processes : List EigerOdinData) : Option (List EigerOdinData) :=
  if processes.length ≤ 1 then some processes
  else if processes.all fun process => process.rank.isSome then
    some (processes.mergeSort fun a b => a.rank.getD 0 ≤ b.rank.getD 0)
  else none

def joinComma (entries : List Text) : Text := (text ", ").intercalate entries

/-- The adapters of the processors and the receivers. -/
def odinDataConfigEntry (fpEndpoints frEndpoints : List Text) : Text :=
  [text "\n[adapter.fp]\nmodule = odin_data.control.frame_processor_adapter.FrameProcessorAdapter",
    text "\nendpoints = ", joinComma fpEndpoints, text "\nupdate_interval = 0.2\n",
    text "\n[adapter.fr]\nmodule = odin_data.control.frame_receiver_adapter.FrameReceiverAdapter",
    text "\nendpoints = ", joinComma frEndpoints, text "\nupdate_interval = 0.2\n"].flatten

namespace EigerOdinControlServer

/-- A server for up to four data servers, of which there must be one. -/
def create (ip : Text) (port : Nat) (detectorEndpoint detectorApi fanIp metaListenerIp : Text)
    (server1 server2 server3 server4 : Option EigerOdinDataServer) :
    Option EigerOdinControlServer :=
  let odinDataServers := [server1, server2, server3, server4].reduceOption
  if odinDataServers.isEmpty then none
  else some
    { ip := ip, port := port, detectorEndpoint := detectorEndpoint, detectorApi := detectorApi
      fanIp := fanIp, metaListenerIp := metaListenerIp
      processes := odinDataServers.flatMap EigerOdinDataServer.processes }

def controlConfigEntry (control : EigerOdinControlServer) : Text :=
  [text "\n[adapter.eiger]\nmodule = eiger.eiger_adapter.EigerAdapter\nendpoint = ",
    control.detectorEndpoint, text "\napi = ", control.detectorApi, text "\n"].flatten

def eigerFanConfigEntry (control : EigerOdinControlServer) : Text :=
  [text "\n[adapter.eiger_fan]\nmodule = eiger.eiger_fan_adapter.EigerFanAdapter\nendpoints = ",
    control.fanIp, text ":5559\nupdate_interval = 0.5\n"].flatten

def metaListenerConfigEntry (control : EigerOdinControlServer) : Text :=
  [text "\n[adapter.meta_listener]\nmodule = ",
    text "odin_data.control.meta_listener_adapter.MetaListenerAdapter\nendpoints = ",
    control.metaListenerIp, text ":5659\nupdate_interval = 0.5\n"].flatten

/-- All adapters, those of the processes with these endpoints. -/
def adapterConfig (control : EigerOdinControlServer) (fpEndpoints frEndpoints : List Text) : Text :=
  [control.controlConfigEntry, odinDataConfigEntry fpEndpoints frEndpoints,
    control.eigerFanConfigEntry, control.metaListenerConfigEntry].flatten

def createConfigFile (control : EigerOdinControlServer) : Option File := do
  let processes ← sortByRank control.processes
  expandTemplateFile odinServerIni
    [(text "PORT", str control.port),
      (text "ADAPTERS", joinComma [text "fp", text "fr", text "eiger_fan", text "meta_listener"]),
      (text "ADAPTER_CONFIG", control.adapterConfig (processes.map EigerOdinData.fpEndpoint)
        (processes.map EigerOdinData.frEndpoint))]
    (text "odin_server.cfg")

end EigerOdinControlServer

/-- `create_od_startup_scripts` of one server after the other. -/
def startServers (paths : OdinPaths) :
    List EigerOdinDataServer → Option (List EigerOdinDataServer × List File)
  | [] => some ([], [])
  | server :: servers => do
      let (started, files) ← server.createOdStartupScripts paths
      let (others, more) ← startServers paths servers
      pure (started :: others, files ++ more)

section Promise

/-- The configuration of a control server whose adapters have these endpoints. -/
def controlConfig (control : EigerOdinControlServer) (fpEndpoints frEndpoints : List Text) : Text :=
  [text "[server]\ndebug_mode = 0\nhttp_port  = ", str control.port,
    text "\nhttp_addr  = 0.0.0.0\nadapters   = ", text "fp, fr, eiger_fan, meta_listener",
    text "\n\n[tornado]\nlogging = error\n\n", control.adapterConfig fpEndpoints frEndpoints,
    text "\n"].flatten

/-- Where the process of a rank takes its commands: the servers take turns. -/
def controlEndpoint (settings : List ServerSettings) (base rank : Nat) : Text :=
  (settings[rank % settings.length]?).elim [] fun setting =>
    setting.ip ++ text ":" ++ str (base + 10 * (rank / settings.length))

/-- The scripts of the process of a rank start programs which take commands at its endpoint. -/
def Commanded (paths : OdinPaths) (settings : List ServerSettings) (fan : EigerFan)
    (files : List File) (rank : Nat) : Prop :=
  ∃ server, (dataServers fan settings)[rank % settings.length]? = some server ∧
    (text "stFrameReceiver" ++ str (rank + 1) ++ text ".sh",
      receiverScript (server.numa (rank / settings.length)) paths.odinDataRoot
        (str (rank / settings.length + 1)) (text (toString server.sharedMemSize))
        (text (toString server.ioThreads)) (5000 + 10 * (rank / settings.length))
        (5001 + 10 * (rank / settings.length)) (5002 + 10 * (rank / settings.length))
        (rank + 1)) ∈ files ∧
    (text "stFrameProcessor" ++ str (rank + 1) ++ text ".sh",
      processorScript (server.numa (rank / settings.length)) paths.odinDataRoot paths.hdf5Filters
        (5004 + 10 * (rank / settings.length)) (5001 + 10 * (rank / settings.length))
        (5002 + 10 * (rank / settings.length)) (rank + 1)) ∈ files

end Promise

section Names

theorem str_injective : Function.Injective str := by
  intro n m hSame
  have hDigits : ∀ k : Nat, str k = Nat.toDigits 10 k := fun _ => Nat.toList_repr
  rw [hDigits, hDigits] at hSame
  rw [← Nat.ofDigitChars_toDigits (n := n) (b := 10) (by omega) (by omega), hSame,
    Nat.ofDigitChars_toDigits (by omega) (by omega)]

/-- The scripts of the process of a rank. -/
def scriptNames (rank : Nat) : List Text :=
  [text "stFrameReceiver" ++ str (rank + 1) ++ text ".sh",
    text "stFrameProcessor" ++ str (rank + 1) ++ text ".sh"]

/-- The two kinds of scripts differ before their numbers. -/
theorem kind_ne (rest other : Text) :
    text "stFrameReceiver" ++ rest ≠ text "stFrameProcessor" ++ other := by
  simp [text]

theorem scriptNames_nodup (rank : Nat) : (scriptNames rank).Nodup := by
  have hKinds : text "stFrameReceiver" ≠ text "stFrameProcessor" := by decide +kernel
  simp [scriptNames, hKinds]

/-- A name tells the rank. -/
theorem rank_of_name {rank other : Nat} {name : Text} (hName : name ∈ scriptNames rank)
    (hOther : name ∈ scriptNames other) : rank = other := by
  have hNumber : ∀ kind : Text, kind ++ (str (rank + 1) ++ text ".sh") =
      kind ++ (str (other + 1) ++ text ".sh") → rank = other := by
    intro kind hSame
    have hStr := List.append_cancel_right (List.append_cancel_left hSame)
    exact Nat.succ_injective (str_injective hStr)
  simp only [scriptNames, List.append_assoc, List.mem_cons, List.not_mem_nil, or_false]
    at hName hOther
  rcases hName with rfl | rfl
  · rcases hOther with hSame | hSame
    · exact hNumber _ hSame
    · exact absurd hSame (kind_ne _ _)
  · rcases hOther with hSame | hSame
    · exact absurd hSame.symm (kind_ne _ _)
    · exact hNumber _ hSame

/-- Processes of different ranks write different scripts. -/
theorem names_nodup {ranks : List Nat} (h : ranks.Nodup) : (ranks.flatMap scriptNames).Nodup := by
  apply List.nodup_flatMap.mpr
  refine ⟨fun rank _ => scriptNames_nodup rank, h.imp ?_⟩
  intro rank other hNe name hName hOther
  exact hNe (rank_of_name hName hOther)

end Names

section Started

variable {paths : OdinPaths} {fan : EigerFan} {settings : List ServerSettings}

/-- The loop over the processes stores their endpoints, and writes two scripts for each. -/
theorem startProcesses_eq (paths : OdinPaths) (server : EigerOdinDataServer) (start : Nat)
    {processes : List EigerOdinData} {ranks : List Nat}
    (h : processes.map EigerOdinData.rank = ranks.map some) :
    ∃ files, server.startProcesses paths start processes =
        some (processes.mapIdx fun idx process => process.storeEndpoints server.ip (start + idx),
          files) ∧
      files.map Prod.fst = ranks.flatMap scriptNames := by
  induction processes generalizing start ranks with
  | nil =>
      obtain rfl : ranks = [] := by simpa using h
      exact ⟨[], rfl, rfl⟩
  | cons process processes ih =>
      cases ranks with
      | nil => simp at h
      | cons rank ranks =>
          rw [List.map_cons, List.map_cons, List.cons.injEq] at h
          obtain ⟨hRank, hRanks⟩ := h
          obtain ⟨files, hStarted, hNames⟩ := ih (start + 1) hRanks
          have hStored : (process.storeEndpoints server.ip start).rank = some rank := hRank
          rw [EigerOdinDataServer.startProcesses, hStarted]
          simp only [startupScripts_eq hStored, Option.bind_eq_bind, Option.bind_some]
          refine ⟨_, congrArg some (Prod.ext ?_ rfl), ?_⟩
          · have hNext : ∀ idx, start + 1 + idx = start + (idx + 1) := by omega
            simp only [List.mapIdx_cons, hNext, Nat.add_zero]
          · rw [List.map_append, hNames, List.flatMap_cons]
            rfl

/-- The server with the endpoints of its processes. -/
def EigerOdinDataServer.withEndpoints (server : EigerOdinDataServer) : EigerOdinDataServer :=
  { server with processes := server.processes.mapIdx fun idx process =>
      process.storeEndpoints server.ip idx }

theorem startServers_eq (paths : OdinPaths) {servers : List EigerOdinDataServer}
    {ranks : List (List Nat)}
    (h : servers.map (fun server => server.processes.map EigerOdinData.rank) =
      ranks.map fun own => own.map some) :
    ∃ files, startServers paths servers =
        some (servers.map EigerOdinDataServer.withEndpoints, files) ∧
      files.map Prod.fst = ranks.flatten.flatMap scriptNames ∧
      ∀ server ∈ servers, ∃ started own,
        server.createOdStartupScripts paths = some (started, own) ∧ own ⊆ files := by
  induction servers generalizing ranks with
  | nil =>
      obtain rfl : ranks = [] := by simpa using h
      exact ⟨[], rfl, rfl, by simp⟩
  | cons server servers ih =>
      cases ranks with
      | nil => simp at h
      | cons own ranks =>
          rw [List.map_cons, List.map_cons, List.cons.injEq] at h
          obtain ⟨files, hStarted, hNames⟩ := startProcesses_eq paths server 0 h.1
          obtain ⟨more, hOthers, hMore, hFiles⟩ := ih h.2
          have hCreated : server.createOdStartupScripts paths =
              some (server.withEndpoints, files) := by
            rw [EigerOdinDataServer.createOdStartupScripts, hStarted]
            simp only [Nat.zero_add]
            rfl
          refine ⟨files ++ more, ?_, ?_, ?_⟩
          · rw [startServers, hCreated, hOthers]
            rfl
          · rw [List.map_append, hNames, hMore, List.flatten_cons, List.flatMap_append]
          · rw [List.forall_mem_cons]
            refine ⟨⟨_, files, hCreated, List.subset_append_left _ _⟩, fun other hOther => ?_⟩
            obtain ⟨started, own', hOwn, hSubset⟩ := hFiles other hOther
            exact ⟨started, own', hOwn, List.Subset.trans hSubset (List.subset_append_right _ _)⟩

/-- The ranks of a deployment, server by server. -/
theorem ranks_dataServers (fan : EigerFan) (settings : List ServerSettings) :
    (dataServers fan settings).map (fun server => server.processes.map EigerOdinData.rank) =
      ((List.range settings.length).map fun s => (List.range fan.processes).map fun idx =>
        s + settings.length * idx).map fun own => own.map some := by
  apply List.ext_getElem?
  intro s
  simp only [dataServers, List.map_map, List.getElem?_map, List.getElem?_mapIdx]
  by_cases hPlace : s < settings.length
  · rw [List.getElem?_eq_getElem hPlace, List.getElem?_range hPlace]
    simp only [Option.map_some, Function.comp_apply, ranks_configureProcesses, List.map_map]
    rfl
  · rw [List.getElem?_eq_none (by omega), List.getElem?_eq_none (by simp; omega)]
    rfl

/-- A started process has the endpoints of its rank. -/
theorem started_endpoints {server : EigerOdinDataServer} {process : EigerOdinData}
    (hServer : server ∈ dataServers fan settings)
    (hProcess : process ∈ server.withEndpoints.processes) :
    ∃ rank, process.rank = some rank ∧
      process.fpEndpoint = controlEndpoint settings 5004 rank ∧
      process.frEndpoint = controlEndpoint settings 5000 rank := by
  obtain ⟨s, hPlace, rfl⟩ := List.mem_mapIdx.mp hServer
  obtain ⟨idx, hIdx, rfl⟩ := List.mem_mapIdx.mp hProcess
  obtain ⟨_, hRank⟩ := made_configureProcesses (List.getElem?_eq_getElem hIdx)
  have hTurn : (s + settings.length * idx) % settings.length = s := by
    rw [Nat.add_mul_mod_self_left, Nat.mod_eq_of_lt hPlace]
  have hPlace' : (s + settings.length * idx) / settings.length = idx := by
    rw [Nat.add_mul_div_left _ _ (by omega), Nat.div_eq_of_lt hPlace, Nat.zero_add]
  refine ⟨s + settings.length * idx, hRank, ?_, ?_⟩
  · rw [controlEndpoint, hTurn, hPlace', List.getElem?_eq_getElem hPlace]
    rfl
  · rw [controlEndpoint, hTurn, hPlace', List.getElem?_eq_getElem hPlace]
    rfl

theorem sortByRank_eq {processes : List EigerOdinData}
    (h : ∀ process ∈ processes, process.rank.isSome = true) :
    sortByRank processes =
      some (processes.mergeSort fun a b => a.rank.getD 0 ≤ b.rank.getD 0) := by
  rw [sortByRank]
  split_ifs with hFew hAll
  · have hSorted : processes.Pairwise fun a b => decide (a.rank.getD 0 ≤ b.rank.getD 0) = true := by
      apply List.pairwise_iff_getElem.mpr
      intro i j hi hj hij
      omega
    rw [List.mergeSort_of_pairwise hSorted]
  · rfl
  · exact absurd (List.all_eq_true.mpr h) hAll

/-- In the order of their ranks the processes have the ranks from zero on. -/
theorem map_rank_sorted {processes : List EigerOdinData} {count : Nat}
    (h : (processes.map EigerOdinData.rank).Perm ((List.range count).map some)) :
    (processes.mergeSort fun a b => a.rank.getD 0 ≤ b.rank.getD 0).map
      (fun process => process.rank.getD 0) = List.range count := by
  have hSorted : (processes.mergeSort fun a b => a.rank.getD 0 ≤ b.rank.getD 0).Pairwise
      fun a b => decide (a.rank.getD 0 ≤ b.rank.getD 0) = true := by
    apply List.pairwise_mergeSort
    · intro a b c hLeft hRight
      exact decide_eq_true ((of_decide_eq_true hLeft).trans (of_decide_eq_true hRight))
    · intro a b
      simpa using Nat.le_total _ _
  have hRanks : (processes.map fun process => process.rank.getD 0).Perm (List.range count) := by
    have hMap := h.map fun rank : Option Nat => rank.getD 0
    simpa only [List.map_map, Function.comp_def, Option.getD_some, List.map_id'] using hMap
  apply List.Perm.eq_of_sortedLE
  · apply List.Pairwise.sortedLE
    rw [List.pairwise_map]
    exact hSorted.imp of_decide_eq_true
  · exact List.pairwise_le_range.sortedLE
  · exact ((List.mergeSort_perm _ _).map _).trans hRanks

end Started

section Control

variable {paths : OdinPaths} {fan : EigerFan} {settings : List ServerSettings}

theorem fill_odinServerIni {macros : Macros} {port adapters config : Text}
    (hPort : macros.lookup (text "PORT") = some port)
    (hAdapters : macros.lookup (text "ADAPTERS") = some adapters)
    (hConfig : macros.lookup (text "ADAPTER_CONFIG") = some config) :
    fill macros odinServerIni = some
      [text "[server]\ndebug_mode = 0\nhttp_port  = ", port,
        text "\nhttp_addr  = 0.0.0.0\nadapters   = ", adapters,
        text "\n\n[tornado]\nlogging = error\n\n", config, text "\n"].flatten := by
  simp only [odinServerIni, fill, Piece.value, hPort, hAdapters, hConfig, Option.bind_some,
    Option.map_some]
  simp

theorem createConfigFile_eq {control : EigerOdinControlServer} {processes : List EigerOdinData}
    (h : sortByRank control.processes = some processes) :
    control.createConfigFile = some (text "odin_server.cfg", controlConfig control
      (processes.map EigerOdinData.fpEndpoint) (processes.map EigerOdinData.frEndpoint)) := by
  have hIni : separate odinServerIni = true := by decide +kernel
  have hAdapters : joinComma [text "fp", text "fr", text "eiger_fan", text "meta_listener"] =
      text "fp, fr, eiger_fan, meta_listener" := by decide +kernel
  rw [EigerOdinControlServer.createConfigFile, h, Option.bind_eq_bind, Option.bind_some,
    expandTemplateFile_eq hIni (fill_odinServerIni rfl rfl rfl), hAdapters]
  rfl

/-- The scripts of all processes, by rank. -/
theorem commanded_of_files {files : List File}
    (hFiles : ∀ server ∈ dataServers fan settings, ∃ started own,
      server.createOdStartupScripts paths = some (started, own) ∧ own ⊆ files)
    {rank : Nat} (hRank : rank < settings.length * fan.processes) :
    Commanded paths settings fan files rank := by
  have hSome : 0 < settings.length := by
    by_contra hNone
    obtain hZero : settings.length = 0 := by omega
    simp [hZero] at hRank
  have hPlace : rank % settings.length < settings.length := Nat.mod_lt _ hSome
  have hIdx : rank / settings.length < fan.processes := Nat.div_lt_of_lt_mul hRank
  obtain ⟨setting, hSetting⟩ : ∃ setting, settings[rank % settings.length]? = some setting :=
    ⟨_, List.getElem?_eq_getElem hPlace⟩
  have hServer : (dataServers fan settings)[rank % settings.length]? =
      some ((setting.create fan).configureProcesses (rank % settings.length) settings.length) := by
    rw [dataServers, List.getElem?_mapIdx, hSetting]
    rfl
  obtain ⟨started, own, hOwn, hSubset⟩ := hFiles _ (List.mem_of_getElem? hServer)
  obtain ⟨started', own', hStarts, hScripts⟩ :=
    dataServers_starts paths (List.mem_of_getElem? hServer)
  cases hOwn.symm.trans hStarts
  obtain ⟨process, hProcess⟩ : ∃ process,
      ((setting.create fan).configureProcesses (rank % settings.length)
        settings.length).processes[rank / settings.length]? = some process := by
    refine ⟨_, List.getElem?_eq_getElem ?_⟩
    rw [EigerOdinDataServer.configureProcesses, rankProcesses_eq, List.length_mapIdx,
      length_create]
    exact hIdx
  obtain ⟨hMade, hOwnRank⟩ := made_configureProcesses hProcess
  rw [Nat.mod_add_div] at hOwnRank
  obtain ⟨rank', hRank', hReceiver, hProcessor⟩ := hScripts _ process hProcess
  cases hOwnRank.symm.trans hRank'
  rw [hMade.ready, hMade.release] at hReceiver hProcessor
  exact ⟨_, hServer, hSubset hReceiver, hSubset hProcessor⟩

/-- The promise: the control server is given the endpoints in the order of the ranks, the
programs of each rank take commands at its endpoint, and no script is written over another. -/
structure Controlled (paths : OdinPaths) (fan : EigerFan) (settings : List ServerSettings)
    (started : List EigerOdinDataServer) (files : List File) : Prop where
  config : ∀ ip port detectorEndpoint detectorApi fanIp metaListenerIp, ∃ control,
    EigerOdinControlServer.create ip port detectorEndpoint detectorApi fanIp metaListenerIp
      started[0]? started[1]? started[2]? started[3]? = some control ∧
    control.createConfigFile = some (text "odin_server.cfg", controlConfig control
      ((List.range (settings.length * fan.processes)).map (controlEndpoint settings 5004))
      ((List.range (settings.length * fan.processes)).map (controlEndpoint settings 5000)))
  commanded : ∀ rank < settings.length * fan.processes, Commanded paths settings fan files rank
  distinct : (files.map Prod.fst).Nodup

/-- Four parameters are enough for as many servers. -/
theorem reduceOption_four {A : Type} {servers : List A} (h : servers.length ≤ 4) :
    [servers[0]?, servers[1]?, servers[2]?, servers[3]?].reduceOption = servers := by
  rcases servers with _ | ⟨a, _ | ⟨b, _ | ⟨c, _ | ⟨d, _ | ⟨e, more⟩⟩⟩⟩⟩
  · rfl
  · rfl
  · rfl
  · rfl
  · rfl
  · simp only [List.length_cons] at h
    omega

theorem map_rank_withEndpoints (server : EigerOdinDataServer) :
    server.withEndpoints.processes.map EigerOdinData.rank =
      server.processes.map EigerOdinData.rank := by
  apply List.ext_getElem?
  intro idx
  simp [EigerOdinDataServer.withEndpoints, EigerOdinData.storeEndpoints, Function.comp_def]

/-- The processes of all servers have the endpoints of their ranks, when they are sorted. -/
theorem sorted_endpoints (fan : EigerFan) (settings : List ServerSettings) :
    ∃ processes, sortByRank (((dataServers fan settings).map
        EigerOdinDataServer.withEndpoints).flatMap EigerOdinDataServer.processes) =
          some processes ∧
      processes.map EigerOdinData.fpEndpoint =
        (List.range (settings.length * fan.processes)).map (controlEndpoint settings 5004) ∧
      processes.map EigerOdinData.frEndpoint =
        (List.range (settings.length * fan.processes)).map (controlEndpoint settings 5000) := by
  have hProcesses : ∀ process ∈ ((dataServers fan settings).map
      EigerOdinDataServer.withEndpoints).flatMap EigerOdinDataServer.processes,
      ∃ rank, process.rank = some rank ∧ process.fpEndpoint = controlEndpoint settings 5004 rank ∧
        process.frEndpoint = controlEndpoint settings 5000 rank := by
    intro process hProcess
    obtain ⟨_, hServer, hOwn⟩ := List.mem_flatMap.mp hProcess
    obtain ⟨server, hPlain, rfl⟩ := List.mem_map.mp hServer
    exact started_endpoints hPlain hOwn
  have hRanks : ((((dataServers fan settings).map EigerOdinDataServer.withEndpoints).flatMap
      EigerOdinDataServer.processes).map EigerOdinData.rank).Perm
        ((List.range (settings.length * fan.processes)).map some) := by
    rw [List.map_flatMap, List.flatMap_map]
    simp only [map_rank_withEndpoints]
    exact ranks_perm fan settings
  have hSorted := map_rank_sorted hRanks
  refine ⟨_, sortByRank_eq fun process hProcess => ?_, ?_, ?_⟩
  · obtain ⟨rank, hRank, _⟩ := hProcesses process hProcess
    rw [hRank]
    rfl
  · rw [← hSorted, List.map_map]
    apply List.map_congr_left
    intro process hProcess
    obtain ⟨rank, hRank, hFp, _⟩ := hProcesses process (List.mem_mergeSort.mp hProcess)
    rw [Function.comp_apply, hRank, hFp]
    rfl
  · rw [← hSorted, List.map_map]
    apply List.map_congr_left
    intro process hProcess
    obtain ⟨rank, hRank, _, hFr⟩ := hProcesses process (List.mem_mergeSort.mp hProcess)
    rw [Function.comp_apply, hRank, hFr]
    rfl

/-- Up to four data servers are started and controlled, whatever the number of their processes. -/
theorem deployment_controlled (paths : OdinPaths) (fan : EigerFan) (settings : List ServerSettings)
    (hSome : settings ≠ []) (hFew : settings.length ≤ 4) :
    ∃ started files, startServers paths (dataServers fan settings) = some (started, files) ∧
      Controlled paths fan settings started files := by
  obtain ⟨files, hStarted, hNames, hFiles⟩ :=
    startServers_eq paths (ranks_dataServers fan settings)
  have hLength : ((dataServers fan settings).map EigerOdinDataServer.withEndpoints).length =
      settings.length := by
    rw [List.length_map, dataServers, List.length_mapIdx]
  refine ⟨_, files, hStarted, ⟨?_, fun rank => commanded_of_files hFiles, ?_⟩⟩
  · intro ip port detectorEndpoint detectorApi fanIp metaListenerIp
    obtain ⟨processes, hSorted, hFp, hFr⟩ := sorted_endpoints fan settings
    have hServers : ((dataServers fan settings).map
        EigerOdinDataServer.withEndpoints).isEmpty = false := by
      rw [List.isEmpty_eq_false_iff, ← List.length_pos_iff, hLength]
      exact List.length_pos_iff.mpr hSome
    rw [EigerOdinControlServer.create, reduceOption_four (hLength.trans_le hFew), hServers]
    refine ⟨_, rfl, ?_⟩
    rw [createConfigFile_eq hSorted, hFp, hFr]
  · rw [hNames]
    apply names_nodup
    rw [← List.flatMap_def]
    exact (BlockCyclic.dealt_perm _ _).nodup_iff.mpr List.nodup_range

/-- Two data servers with three processes each. -/
theorem two_servers_controlled : ∃ started files,
    startServers ⟨text "build", text "odin-data", text "eiger-detector", []⟩
      (dataServers ⟨text "127.0.0.1", 3, text "4M"⟩ [localServer, localServer]) =
        some (started, files) ∧
    Controlled ⟨text "build", text "odin-data", text "eiger-detector", []⟩
      ⟨text "127.0.0.1", 3, text "4M"⟩ [localServer, localServer] started files :=
  deployment_controlled _ _ _ (by simp) (by decide)

end Control

end Eiger.Deploy
