import EigerDetector.Deploy.OdinDeploy
import EigerDetector.Fan.Control
import EigerDetector.Library.BlockCyclic
import Mathlib.Data.List.ReduceOption

/-! The ports of a deployment: those that the fan binds, and those that are written for the
receivers, the processors and the meta listener. -/
namespace Eiger.Deploy

open Templates FixedWidth

section Promise

def fanAddress (port : Int) : Text := text "tcp://*:" ++ text (toString port)

/-- The addresses which `EigerFan::run` binds the sockets of its consumers to, in their order. -/
def fanAddresses (config : Fan.EigerFanConfig) : List Text :=
  (List.range config.numConsumers.toNat).map fun i : Nat =>
    fanAddress (config.fanChannelPortStart + i)

/-- A fan that is started with as many consumers, and with no port given. -/
def startedFan (vm : Fan.Options) (consumers : Nat) : Fan.EigerFanConfig :=
  Fan.parseArguments
    { vm with consumers := consumers, fanport := Fan.defaultOptions.fanport }

structure ServerSettings where
  ip : Text
  sharedMemSize : Int
  pluginConfig : PluginConfig
  ioThreads : Int
  totalNumaNodes : Int

def ServerSettings.create (fan : EigerFan) (setting : ServerSettings) : EigerOdinDataServer :=
  .create setting.ip fan setting.sharedMemSize setting.pluginConfig setting.ioThreads
    setting.totalNumaNodes

/-- The servers of a deployment, each configured with its place among them. -/
def dataServers (fan : EigerFan) (settings : List ServerSettings) : List EigerOdinDataServer :=
  settings.mapIdx fun s setting =>
    (setting.create fan).configureProcesses s settings.length

/-- The receiver configuration of the process has the port that the fan binds for its rank. -/
def EigerOdinData.Receives (paths : OdinPaths) (addresses : List Text)
    (process : EigerOdinData) : Prop :=
  ∃ rank port files, process.rank = some rank ∧ addresses[rank]? = some (fanAddress port) ∧
    process.createConfigFiles paths = some files ∧
    (text "fr" ++ str (rank + 1) ++ text ".json",
      receiverConfig paths.eigerRoot process.source (text (toString port)) process.sensor) ∈ files

/-- The processor configuration of the process has its ports. -/
def EigerOdinData.Processes (paths : OdinPaths) (process : EigerOdinData) : Prop :=
  ∃ rank plugins files, process.rank = some rank ∧ process.plugins = some plugins ∧
    process.createConfigFiles paths = some files ∧
    (text "fp" ++ str (rank + 1) ++ text ".json",
      processorConfig process.ready process.release process.metaPort
        (joinLines plugins.loadEntries) (joinLines plugins.connectEntries)
        (joinLines (plugins.extraConfigEntries rank))) ∈ files

/-- The scripts of the process at an index have its ports. -/
def EigerOdinData.Starts (paths : OdinPaths) (server : EigerOdinDataServer) (files : List File)
    (idx : Nat) (process : EigerOdinData) : Prop :=
  ∃ rank, process.rank = some rank ∧
    (text "stFrameReceiver" ++ str (rank + 1) ++ text ".sh",
      receiverScript (server.numa idx) paths.odinDataRoot (str (idx + 1))
        (text (toString server.sharedMemSize)) (text (toString server.ioThreads))
        (5000 + 10 * idx) process.ready process.release (rank + 1)) ∈ files ∧
    (text "stFrameProcessor" ++ str (rank + 1) ++ text ".sh",
      processorScript (server.numa idx) paths.odinDataRoot paths.hdf5Filters
        (5004 + 10 * idx) process.ready process.release (rank + 1)) ∈ files

def EigerOdinDataServer.Starts (paths : OdinPaths) (server : EigerOdinDataServer) : Prop :=
  ∃ started files, server.createOdStartupScripts paths = some (started, files) ∧
    ∀ (idx : Nat) (process : EigerOdinData), server.processes[idx]? = some process →
      process.Starts paths server files idx

/-- Where the processor of the process publishes its meta data. -/
def EigerOdinData.metaEndpoint (process : EigerOdinData) : Text :=
  text "tcp://" ++ process.ip ++ text ":" ++ str process.metaPort

/-- A meta listener to some of the servers, made before or after these are configured, listens to
the endpoints of their processes. -/
def Listens (paths : OdinPaths) (servers : List EigerOdinDataServer) : Prop :=
  ∀ ip numaNode server1 server2 server3 server4,
    (∀ server, some server ∈ [server1, server2, server3, server4] → server ∈ servers) →
    ∃ listener, EigerMetaListener.create paths ip server1 server2 server3 server4 numaNode =
      some (listener, (text "stEigerMetaListener.sh",
        metaListenerScript (if 0 ≤ numaNode then numaCall numaNode else []) paths.odinDataRoot
          paths.eigerRoot ([server1, server2, server3, server4].reduceOption.flatMap fun server =>
            server.processes.map EigerOdinData.metaEndpoint)))

/-- The promise: the ranks are the numbers of the consumers, each once, each receiver is given the
port that the fan binds for its rank, and all else that is written for a process has its ports. -/
structure Connected (paths : OdinPaths) (fan : EigerFan) (settings : List ServerSettings)
    (vm : Fan.Options) : Prop where
  ranks : ((dataServers fan settings).flatMap fun server =>
    server.processes.map EigerOdinData.rank).Perm
      ((List.range (settings.length * fan.processes)).map some)
  receives : ∀ server ∈ dataServers fan settings, ∀ process ∈ server.processes,
    process.Receives paths (fanAddresses (startedFan vm (settings.length * fan.processes)))
  processes : ∀ server ∈ dataServers fan settings, ∀ process ∈ server.processes,
    process.Processes paths
  starts : ∀ server ∈ dataServers fan settings, server.Starts paths
  listens : Listens paths
    (settings.map (ServerSettings.create fan) ++ dataServers fan settings)

end Promise

section Expansion

variable {paths : OdinPaths} {template : List Piece} {macros : Macros} {output name : Text}

/-- A template of separate pieces is expanded piece by piece. -/
theorem expandTemplateFile_eq (hTemplate : separate template = true)
    (hFill : fill macros template = some output) :
    expandTemplateFile template macros name = some (name, output) := by
  rw [expandTemplateFile, substitute_render hTemplate, hFill]
  rfl

theorem fill_fpJson {ready release metaPort : Nat} {load connect config : Text}
    (hReady : macros.lookup (text "RD_PORT") = some (str ready))
    (hRelease : macros.lookup (text "RL_PORT") = some (str release))
    (hMeta : macros.lookup (text "META_PORT") = some (str metaPort))
    (hLoad : macros.lookup (text "LOAD_ENTRIES") = some load)
    (hConnect : macros.lookup (text "CONNECT_ENTRIES") = some connect)
    (hConfig : macros.lookup (text "CONFIG_ENTRIES") = some config) :
    fill macros fpJson = some (processorConfig ready release metaPort load connect config) := by
  simp only [fpJson, fill, Piece.value, hReady, hRelease, hMeta, hLoad, hConnect, hConfig,
    Option.bind_some, Option.map_some]
  simp [processorConfig]

/-- The suffix stands behind the digits of the template. -/
theorem fill_frJson {root ip suffix sensor : Text}
    (hRoot : macros.lookup (text "DETECTOR_ROOT") = some root)
    (hIp : macros.lookup (text "IP") = some ip)
    (hSuffix : macros.lookup (text "RX_PORT_SUFFIX") = some suffix)
    (hSensor : macros.lookup (text "SENSOR") = some sensor) :
    fill macros frJson = some (receiverConfig root ip (text "3160" ++ suffix) sensor) := by
  simp only [frJson, fill, Piece.value, hRoot, hIp, hSuffix, hSensor, Option.bind_some,
    Option.map_some]
  simp [receiverConfig]

/-- What the configuration files of a process come to. -/
theorem createConfigFiles_eq {process : EigerOdinData} {plugins : PluginConfig} {rank : Nat}
    (hRank : process.rank = some rank) (hPlugins : process.plugins = some plugins) :
    process.createConfigFiles paths = some
      [(text "fp" ++ str (rank + 1) ++ text ".json",
        processorConfig process.ready process.release process.metaPort
          (joinLines plugins.loadEntries) (joinLines plugins.connectEntries)
          (joinLines (plugins.extraConfigEntries rank))),
      (text "fr" ++ str (rank + 1) ++ text ".json",
        receiverConfig paths.eigerRoot process.source (text "3160" ++ str rank)
          process.sensor)] := by
  have hFp : separate fpJson = true := by decide +kernel
  have hFr : separate frJson = true := by decide +kernel
  rw [EigerOdinData.createConfigFiles]
  simp only [EigerOdinData.createConfigFile, EigerOdinData.configMacros, hRank, hPlugins,
    Option.bind_eq_bind, Option.bind_some, Option.map_some]
  rw [expandTemplateFile_eq hFp (fill_fpJson rfl rfl rfl rfl rfl rfl),
    expandTemplateFile_eq hFr (fill_frJson rfl rfl rfl rfl)]
  rfl

theorem fill_heading (macros : Macros) : fill macros heading = some scriptHeading := by
  simp [heading, fill, Piece.value, scriptHeading, text]

theorem fill_options {ctrl ready release number : Nat}
    (hCtrl : macros.lookup (text "CTRL_PORT") = some (str ctrl))
    (hReady : macros.lookup (text "READY_PORT") = some (str ready))
    (hRelease : macros.lookup (text "RELEASE_PORT") = some (str release))
    (hNumber : macros.lookup (text "NUMBER") = some (str number)) (config : String) :
    fill macros (options config) = some (scriptOptions config ctrl ready release number) := by
  simp only [options, fill, Piece.value, hCtrl, hReady, hRelease, hNumber, Option.bind_some,
    Option.map_some]
  simp [scriptOptions, text]

theorem fill_frSh (server : EigerOdinDataServer) (idx rank : Nat) :
    fill (server.receiverMacros paths idx rank) frSh = some
      (receiverScript (server.numa idx) paths.odinDataRoot (str (idx + 1))
        (text (toString server.sharedMemSize)) (text (toString server.ioThreads))
        (5000 + 10 * idx) (5001 + 10 * idx) (5002 + 10 * idx) (rank + 1)) := by
  rw [frSh, fill_append, fill_append, fill_heading, fill_options rfl rfl rfl rfl]
  simp [fill, Piece.value, EigerOdinDataServer.receiverMacros, List.lookup_cons, receiverScript, text]

theorem fill_fpSh (server : EigerOdinDataServer) (idx rank : Nat) :
    fill (server.processorMacros paths idx rank) fpSh = some
      (processorScript (server.numa idx) paths.odinDataRoot paths.hdf5Filters
        (5004 + 10 * idx) (5001 + 10 * idx) (5002 + 10 * idx) (rank + 1)) := by
  rw [fpSh, fill_append, fill_append, fill_heading, fill_options rfl rfl rfl rfl]
  simp [fill, Piece.value, EigerOdinDataServer.processorMacros, List.lookup_cons, processorScript, text]

/-- What the scripts of a process come to. -/
theorem startupScripts_eq {server : EigerOdinDataServer} {idx rank : Nat}
    {process : EigerOdinData} (hRank : process.rank = some rank) :
    server.startupScripts paths idx process = some
      [(text "stFrameReceiver" ++ str (rank + 1) ++ text ".sh",
        receiverScript (server.numa idx) paths.odinDataRoot (str (idx + 1))
          (text (toString server.sharedMemSize)) (text (toString server.ioThreads))
          (5000 + 10 * idx) (5001 + 10 * idx) (5002 + 10 * idx) (rank + 1)),
      (text "stFrameProcessor" ++ str (rank + 1) ++ text ".sh",
        processorScript (server.numa idx) paths.odinDataRoot paths.hdf5Filters
          (5004 + 10 * idx) (5001 + 10 * idx) (5002 + 10 * idx) (rank + 1))] := by
  have hFr : separate frSh = true := by decide +kernel
  have hFp : separate fpSh = true := by decide +kernel
  rw [EigerOdinDataServer.startupScripts, hRank]
  simp only [Option.bind_eq_bind, Option.bind_some, expandTemplateFile_eq hFr (fill_frSh _ _ _),
    expandTemplateFile_eq hFp (fill_fpSh _ _ _)]
  rfl

/-- What the script of a listener comes to. -/
theorem createStartupFile_eq (listener : EigerMetaListener) :
    listener.createStartupFile paths = some (text "stEigerMetaListener.sh",
      metaListenerScript (if 0 ≤ listener.numaNode then numaCall listener.numaNode else [])
        paths.odinDataRoot paths.eigerRoot listener.ipList) := by
  have hMeta : separate eigerMetaSh = true := by decide +kernel
  rw [EigerMetaListener.createStartupFile, expandTemplateFile_eq hMeta rfl]
  rfl

end Expansion

section Servers

variable {fan : EigerFan} {settings : List ServerSettings} {paths : OdinPaths}

theorem createProcesses_eq (make : Nat → Nat → Nat → EigerOdinData) (portBase processes : Nat) :
    EigerOdinDataServer.createProcesses make portBase processes =
      (List.range processes).map fun idx =>
        make (portBase + 10 * idx + 1) (portBase + 10 * idx + 2) (portBase + 10 * idx + 8) := by
  induction processes generalizing portBase with
  | zero => rfl
  | succ processes ih =>
      have hNext : ∀ idx, portBase + 10 + 10 * idx = portBase + 10 * (idx + 1) := by omega
      rw [EigerOdinDataServer.createProcesses, ih, List.range_succ_eq_map, List.map_cons,
        List.map_map]
      simp only [hNext]
      rfl

theorem rankProcesses_eq (totalServers rank : Nat) (processes : List EigerOdinData) :
    EigerOdinDataServer.rankProcesses totalServers rank processes =
      processes.mapIdx fun idx process =>
        { process with rank := some (rank + totalServers * idx) } := by
  induction processes generalizing rank with
  | nil => rfl
  | cons process processes ih =>
      have hNext : ∀ idx, rank + totalServers + totalServers * idx =
          rank + totalServers * (idx + 1) := by
        intro idx
        rw [Nat.mul_succ]
        omega
      rw [EigerOdinDataServer.rankProcesses, ih, List.mapIdx_cons]
      simp only [hNext]
      rfl

/-- A process as the server makes it for an index. -/
structure Made (fan : EigerFan) (idx : Nat) (process : EigerOdinData) : Prop where
  ready : process.ready = 5001 + 10 * idx
  release : process.release = 5002 + 10 * idx
  metaPort : process.metaPort = 5008 + 10 * idx
  source : process.source = fan.ip
  sensor : process.sensor = fan.sensor
  plugins : ∃ plugins, process.plugins = some plugins

theorem made_create {setting : ServerSettings} {idx : Nat} {process : EigerOdinData}
    (h : (setting.create fan).processes[idx]? = some process) : Made fan idx process := by
  rw [ServerSettings.create, EigerOdinDataServer.create, createProcesses_eq, List.getElem?_map]
    at h
  obtain ⟨i, hIdx, rfl⟩ := Option.map_eq_some_iff.mp h
  obtain ⟨_, rfl⟩ := List.getElem?_eq_some_iff.mp hIdx
  rw [List.getElem_range]
  have hPort : ∀ kind, 5000 + 10 * idx + kind = 5000 + kind + 10 * idx := by omega
  exact ⟨hPort 1, hPort 2, hPort 8, rfl, rfl, _, rfl⟩

theorem length_create (setting : ServerSettings) :
    (setting.create fan).processes.length = fan.processes := by
  rw [ServerSettings.create, EigerOdinDataServer.create, createProcesses_eq, List.length_map,
    List.length_range]

/-- A process of a configured server has been made for its index, and has its rank. -/
theorem made_configureProcesses {setting : ServerSettings} {serverRank totalServers idx : Nat}
    {process : EigerOdinData}
    (h : ((setting.create fan).configureProcesses serverRank totalServers).processes[idx]? =
      some process) :
    Made fan idx process ∧ process.rank = some (serverRank + totalServers * idx) := by
  rw [EigerOdinDataServer.configureProcesses, rankProcesses_eq, List.getElem?_mapIdx] at h
  obtain ⟨created, hCreated, rfl⟩ := Option.map_eq_some_iff.mp h
  obtain ⟨hReady, hRelease, hMeta, hSource, hSensor, hPlugins⟩ := made_create hCreated
  exact ⟨⟨hReady, hRelease, hMeta, hSource, hSensor, hPlugins⟩, rfl⟩

theorem mem_dataServers {server : EigerOdinDataServer} (h : server ∈ dataServers fan settings) :
    ∃ (s : Nat) (setting : ServerSettings),
      server = (setting.create fan).configureProcesses s settings.length := by
  obtain ⟨s, _, rfl⟩ := List.mem_mapIdx.mp h
  exact ⟨s, _, rfl⟩

/-- The ranks that the processes of a server get. -/
theorem ranks_configureProcesses (setting : ServerSettings) (serverRank totalServers : Nat) :
    ((setting.create fan).configureProcesses serverRank totalServers).processes.map
        EigerOdinData.rank =
      (List.range fan.processes).map fun idx => some (serverRank + totalServers * idx) := by
  rw [EigerOdinDataServer.configureProcesses, rankProcesses_eq, ← length_create setting]
  apply List.ext_getElem?
  intro idx
  by_cases hIdx : idx < (setting.create fan).processes.length
  · simp [hIdx]
  · simp [Nat.not_lt.mp hIdx]

/-- All ranks of a deployment. -/
theorem ranks_perm (fan : EigerFan) (settings : List ServerSettings) :
    ((dataServers fan settings).flatMap fun server =>
      server.processes.map EigerOdinData.rank).Perm
        ((List.range (settings.length * fan.processes)).map some) := by
  have hPlaces : settings.zipIdx.map Prod.snd = List.range settings.length := by
    rw [List.zipIdx_map_snd, List.range_eq_range']
  have hRanks : ((dataServers fan settings).flatMap fun server =>
      server.processes.map EigerOdinData.rank) =
        ((List.range settings.length).flatMap fun s => (List.range fan.processes).map fun idx =>
          s + settings.length * idx).map some := by
    rw [dataServers, List.mapIdx_eq_zipIdx_map, List.flatMap_map, ← hPlaces, List.flatMap_map,
      List.map_flatMap]
    simp only [ranks_configureProcesses, List.map_map]
    rfl
  rw [hRanks]
  exact (BlockCyclic.dealt_perm _ _).map some

theorem EigerOdinData.Starts.mono {server : EigerOdinDataServer} {files more : List File}
    {idx : Nat} {process : EigerOdinData} (h : process.Starts paths server files idx)
    (hFiles : files ⊆ more) : process.Starts paths server more idx := by
  obtain ⟨rank, hRank, hReceiver, hProcessor⟩ := h
  exact ⟨rank, hRank, hFiles hReceiver, hFiles hProcessor⟩

/-- What holds of the processes by their index holds of those after the first. -/
theorem forall_tail {P : Nat → EigerOdinData → Prop} {start : Nat} {process : EigerOdinData}
    {processes : List EigerOdinData}
    (h : ∀ idx other, (process :: processes)[idx]? = some other → P (start + idx) other) :
    ∀ idx other, processes[idx]? = some other → P (start + 1 + idx) other := by
  intro idx other hIdx
  have hNext : start + 1 + idx = start + (idx + 1) := by omega
  rw [hNext]
  exact h (idx + 1) other hIdx

/-- The loop writes the scripts of all processes that have a rank. -/
theorem startProcesses_starts (paths : OdinPaths) {server : EigerOdinDataServer} {start : Nat}
    {processes : List EigerOdinData}
    (h : ∀ idx process, processes[idx]? = some process →
      Made fan (start + idx) process ∧ ∃ rank, process.rank = some rank) :
    ∃ started files, server.startProcesses paths start processes = some (started, files) ∧
      ∀ (idx : Nat) (process : EigerOdinData), processes[idx]? = some process →
        process.Starts paths server files (start + idx) := by
  induction processes generalizing start with
  | nil => exact ⟨[], [], rfl, nofun⟩
  | cons process processes ih =>
      obtain ⟨hMade, rank, hRank⟩ := h 0 process rfl
      have hLater := forall_tail (P := fun idx other =>
        Made fan idx other ∧ ∃ rank, other.rank = some rank) h
      obtain ⟨started, files, hStarted, hStarts⟩ := ih hLater
      have hEndpoints : (process.storeEndpoints server.ip start).rank = some rank := hRank
      rw [EigerOdinDataServer.startProcesses, hStarted]
      simp only [startupScripts_eq hEndpoints, Option.bind_eq_bind, Option.bind_some]
      refine ⟨_, _, rfl, ?_⟩
      intro idx other hIdx
      cases idx with
      | zero =>
          cases hIdx
          refine ⟨rank, hRank, ?_, ?_⟩
          · rw [hMade.ready, hMade.release]
            simp
          · rw [hMade.ready, hMade.release]
            simp
      | succ idx =>
          have hNext : start + (idx + 1) = start + 1 + idx := by omega
          rw [hNext]
          exact (hStarts idx other hIdx).mono (List.subset_append_right _ _)

end Servers

section Listener

variable {fan : EigerFan} {listener : EigerMetaListener}

/-- What a listener to servers of a fan has gathered: these endpoints and no other sensor. -/
structure Gathered (fan : EigerFan) (numaNode : Int) (endpoints : List Text)
    (listener : EigerMetaListener) : Prop where
  ipList : listener.ipList = endpoints
  sensor : listener.sensor = none ∨ listener.sensor = some fan.sensor
  numaNode : listener.numaNode = numaNode

variable {numaNode : Int} {endpoints : List Text}

theorem setSensor_eq (ipList : List Text)
    (h : listener.sensor = none ∨ listener.sensor = some fan.sensor) :
    { listener with ipList := ipList }.setSensor fan.sensor =
      some { listener with ipList := ipList, sensor := some fan.sensor } := by
  obtain ⟨ip, _, sensor, numaNode⟩ := listener
  rcases h with rfl | rfl
  · rfl
  · exact if_pos rfl

theorem addProcesses_gathers {start : Nat} {processes : List EigerOdinData}
    (hMade : ∀ idx process, processes[idx]? = some process → Made fan (start + idx) process)
    (h : Gathered fan numaNode endpoints listener) :
    ∃ next, EigerMetaListener.addProcesses (5000 + 10 * start) processes listener = some next ∧
      Gathered fan numaNode (endpoints ++ processes.map EigerOdinData.metaEndpoint) next := by
  induction processes generalizing start endpoints listener with
  | nil => exact ⟨listener, rfl, by rwa [List.map_nil, List.append_nil]⟩
  | cons process processes ih =>
      have hFirst := hMade 0 process rfl
      have hPort : 5000 + 10 * start + 8 = process.metaPort := by
        rw [hFirst.metaPort]
        omega
      have hBase : 5000 + 10 * start + 10 = 5000 + 10 * (start + 1) := by omega
      rw [EigerMetaListener.addProcesses, hFirst.sensor, setSensor_eq _ h.sensor, hPort, hBase,
        Option.bind_eq_bind, Option.bind_some, List.map_cons, List.append_cons endpoints]
      apply ih (forall_tail (P := Made fan) hMade)
      exact ⟨congrArg (· ++ [process.metaEndpoint]) h.ipList, Or.inr rfl, h.numaNode⟩

theorem addServers_gathers {servers : List (Option EigerOdinDataServer)}
    (hMade : ∀ server, some server ∈ servers → ∀ (idx : Nat) (process : EigerOdinData),
      server.processes[idx]? = some process → Made fan idx process)
    (h : Gathered fan numaNode endpoints listener) :
    ∃ next, EigerMetaListener.addServers servers listener = some next ∧
      Gathered fan numaNode (endpoints ++ servers.reduceOption.flatMap fun server =>
        server.processes.map EigerOdinData.metaEndpoint) next := by
  induction servers generalizing endpoints listener with
  | nil => exact ⟨listener, rfl, by rwa [List.reduceOption_nil, List.flatMap_nil, List.append_nil]⟩
  | cons server servers ih =>
      have hLater := fun other (hOther : some other ∈ servers) =>
        hMade other (List.mem_cons_of_mem _ hOther)
      cases server with
      | none =>
          rw [List.reduceOption_cons_of_none]
          exact ih hLater h
      | some server =>
          have hServer : ∀ idx process, server.processes[idx]? = some process →
              Made fan (0 + idx) process := by
            intro idx process hIdx
            rw [Nat.zero_add]
            exact hMade server List.mem_cons_self idx process hIdx
          obtain ⟨middle, hAdded, hMiddle⟩ := addProcesses_gathers hServer h
          rw [Nat.mul_zero, Nat.add_zero] at hAdded
          rw [EigerMetaListener.addServers, hAdded, Option.bind_eq_bind, Option.bind_some,
            List.reduceOption_cons_of_some, List.flatMap_cons, ← List.append_assoc]
          exact ih hLater hMiddle

end Listener

section Connection

variable {paths : OdinPaths} {fan : EigerFan} {settings : List ServerSettings} {vm : Fan.Options}

theorem dataServers_starts (paths : OdinPaths) {server : EigerOdinDataServer}
    (h : server ∈ dataServers fan settings) : server.Starts paths := by
  obtain ⟨s, setting, rfl⟩ := mem_dataServers h
  have hProcesses : ∀ (idx : Nat) (process : EigerOdinData),
      ((setting.create fan).configureProcesses s settings.length).processes[idx]? = some process →
        Made fan (0 + idx) process ∧ ∃ rank, process.rank = some rank := by
    intro idx process hIdx
    obtain ⟨hMade, hRank⟩ := made_configureProcesses hIdx
    rw [Nat.zero_add]
    exact ⟨hMade, _, hRank⟩
  obtain ⟨started, files, hStarted, hStarts⟩ := startProcesses_starts paths hProcesses
  rw [EigerOdinDataServer.Starts, EigerOdinDataServer.createOdStartupScripts, hStarted]
  refine ⟨_, files, rfl, ?_⟩
  intro idx process hIdx
  simpa only [Nat.zero_add] using hStarts idx process hIdx

/-- A process of a deployment, made for an index, with a rank below the number of processes. -/
theorem mem_processes {server : EigerOdinDataServer} {process : EigerOdinData}
    (hServer : server ∈ dataServers fan settings) (hProcess : process ∈ server.processes) :
    ∃ idx rank, Made fan idx process ∧ process.rank = some rank ∧
      rank < settings.length * fan.processes := by
  obtain ⟨s, setting, rfl⟩ := mem_dataServers hServer
  obtain ⟨idx, hIdx⟩ := List.mem_iff_getElem?.mp hProcess
  obtain ⟨hMade, hRank⟩ := made_configureProcesses hIdx
  refine ⟨idx, _, hMade, hRank, ?_⟩
  have hMember := (ranks_perm fan settings).subset
    (List.mem_flatMap.mpr ⟨_, hServer, List.mem_map.mpr ⟨process, hProcess, hRank⟩⟩)
  simpa using hMember

theorem dataServers_processes {server : EigerOdinDataServer} {process : EigerOdinData}
    (hServer : server ∈ dataServers fan settings) (hProcess : process ∈ server.processes) :
    process.Processes paths := by
  obtain ⟨idx, rank, hMade, hRank, _⟩ := mem_processes hServer hProcess
  obtain ⟨plugins, hPlugins⟩ := hMade.plugins
  exact ⟨rank, plugins, _, hRank, hPlugins, createConfigFiles_eq hRank hPlugins,
    List.mem_cons_self⟩

theorem dataServers_listens :
    Listens paths (settings.map (ServerSettings.create fan) ++ dataServers fan settings) := by
  intro ip numaNode server1 server2 server3 server4 hServers
  have hMade : ∀ server, some server ∈ [server1, server2, server3, server4] →
      ∀ (idx : Nat) (process : EigerOdinData), server.processes[idx]? = some process →
        Made fan idx process := by
    intro server hServer idx process hIdx
    rcases List.mem_append.mp (hServers server hServer) with hCreated | hConfigured
    · obtain ⟨setting, _, rfl⟩ := List.mem_map.mp hCreated
      exact made_create hIdx
    · obtain ⟨s, setting, rfl⟩ := mem_dataServers hConfigured
      exact (made_configureProcesses hIdx).1
  have hNothing : Gathered fan numaNode [] ⟨ip, [], none, numaNode⟩ := ⟨rfl, Or.inl rfl, rfl⟩
  obtain ⟨listener, hAdded, hGathered⟩ := addServers_gathers hMade hNothing
  rw [List.nil_append] at hGathered
  refine ⟨listener, ?_⟩
  rw [EigerMetaListener.create, hAdded, Option.bind_eq_bind, Option.bind_some,
    createStartupFile_eq, hGathered.ipList, hGathered.numaNode]
  rfl

theorem receiverConfig_injective {root ip port other sensor : Text}
    (h : receiverConfig root ip port sensor = receiverConfig root ip other sensor) :
    port = other := by
  simpa [receiverConfig] using h

theorem fanChannelPortStart_startedFan (consumers : Nat) :
    (startedFan vm consumers).fanChannelPortStart = 31600 := by
  simp only [startedFan, Fan.parseArguments, Fan.defaultOptions]
  decide +kernel

/-- The addresses of a fan with so many consumers. -/
theorem fanAddresses_eq {consumers : Nat} (h : consumers ≤ 10) :
    fanAddresses (startedFan vm consumers) =
      (List.range consumers).map fun i : Nat => fanAddress (31600 + i) := by
  have hConsumers : (startedFan vm consumers).numConsumers = consumers := by
    simp only [startedFan, Fan.parseArguments]
    apply toInt32_of_range
    · unfold minInt32
      omega
    · unfold maxInt32
      omega
  rw [fanAddresses, hConsumers, fanChannelPortStart_startedFan, Int.toNat_natCast]

/-- A process of rank below ten is given the port that the fan binds. -/
theorem receives_of_le (hFew : settings.length * fan.processes ≤ 10)
    {server : EigerOdinDataServer} {process : EigerOdinData}
    (hServer : server ∈ dataServers fan settings) (hProcess : process ∈ server.processes) :
    process.Receives paths
      (fanAddresses (startedFan vm (settings.length * fan.processes))) := by
  obtain ⟨idx, rank, hMade, hRank, hBound⟩ := mem_processes hServer hProcess
  obtain ⟨plugins, hPlugins⟩ := hMade.plugins
  have hSuffix : ∀ rank < 10, text "3160" ++ str rank = text (toString (31600 + rank : Int)) := by
    decide +kernel
  refine ⟨rank, 31600 + rank, _, hRank, ?_, createConfigFiles_eq hRank hPlugins, ?_⟩
  · rw [fanAddresses_eq hFew, List.getElem?_map, List.getElem?_range hBound]
    rfl
  · rw [hSuffix rank (hBound.trans_le hFew)]
    simp

/-- The suffix of rank ten does not give the port that the fan binds. -/
theorem Connected.few (h : Connected paths fan settings vm) :
    settings.length * fan.processes ≤ 10 := by
  by_contra hMany
  have hTen : some 10 ∈ (List.range (settings.length * fan.processes)).map some :=
    List.mem_map.mpr ⟨10, List.mem_range.mpr (by omega), rfl⟩
  obtain ⟨server, hServer, hRanks⟩ := List.mem_flatMap.mp (h.ranks.symm.subset hTen)
  obtain ⟨process, hProcess, hRank⟩ := List.mem_map.mp hRanks
  obtain ⟨rank, port, files, hOwn, hAddress, hFiles, hMember⟩ :=
    h.receives server hServer process hProcess
  obtain ⟨_, plugins, _, _, hPlugins, _⟩ := h.processes server hServer process hProcess
  cases hOwn.symm.trans hRank
  cases hFiles.symm.trans (createConfigFiles_eq hRank hPlugins)
  have hSuffix : text (toString port) = text "316010" := by
    rcases List.mem_cons.mp hMember with hFp | hFr
    · exact absurd (Prod.mk.inj hFp).1 (by decide +kernel)
    · rw [List.mem_singleton, Prod.mk.injEq] at hFr
      exact receiverConfig_injective hFr.2
  have hBound : text (toString port) = text "31610" := by
    obtain ⟨i, hIndex, hPort⟩ := Option.map_eq_some_iff.mp (List.getElem?_map.symm.trans hAddress)
    obtain ⟨_, rfl⟩ := List.getElem?_eq_some_iff.mp hIndex
    rw [List.getElem_range, fanChannelPortStart_startedFan] at hPort
    exact (List.append_cancel_left hPort).symm
  exact absurd (hSuffix.symm.trans hBound) (by decide +kernel)

/-- Every receiver is given the port that the fan binds for its rank exactly if there are at most
ten of them. -/
theorem deployment_connected_iff (paths : OdinPaths) (fan : EigerFan) (settings : List ServerSettings)
    (vm : Fan.Options) :
    Connected paths fan settings vm ↔ settings.length * fan.processes ≤ 10 := by
  constructor
  · exact Connected.few
  · intro hFew
    exact ⟨ranks_perm fan settings, fun _ hServer _ => receives_of_le hFew hServer,
      fun _ hServer _ => dataServers_processes hServer, fun _ => dataServers_starts paths,
      dataServers_listens⟩

/-- A server on the host of the fan, with the standard sizes and no plugin entries. -/
def localServer : ServerSettings where
  ip := text "127.0.0.1"
  sharedMemSize := 16000000000
  pluginConfig := ⟨[], [], fun _ => []⟩
  ioThreads := 1
  totalNumaNodes := 0

theorem deployment_not_always_connected : ¬ ∀ (paths : OdinPaths) (fan : EigerFan)
    (settings : List ServerSettings) (vm : Fan.Options), 1 ≤ settings.length →
      1 ≤ fan.processes → Connected paths fan settings vm := by
  intro hClaim
  have hConnected := hClaim ⟨text "build", text "odin-data", text "eiger-detector", []⟩
    ⟨text "127.0.0.1", 11, text "4M"⟩ [localServer] Fan.defaultOptions (by decide) (by decide)
  exact absurd hConnected.few (by decide)

end Connection

end Eiger.Deploy
