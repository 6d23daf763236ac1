import EigerDetector.Deploy.Templates

/-! The deployment script: the data servers with their processes, the meta listener, and the files
that are written for them. Where Python raises there is no result. -/
namespace Eiger.Deploy

open Templates

/-- A file by its name in `OUTPUT_DIR`, and its contents. -/
abbrev File := Text × Text

/-- The directory that is written to, and the paths of `OdinPaths`. -/
structure OdinPaths where
  outputDir : Text
  odinDataRoot : Text
  eigerRoot : Text
  hdf5Filters : Text

/-- The entries that the plugins of a processor give its configuration, as they are written. -/
structure PluginConfig where
  loadEntries : List Text
  connectEntries : List Text
  extraConfigEntries : Option Nat → List Text

/-- What a data server takes over from the fan that it reads from. -/
structure EigerFan where
  ip : Text
  processes : Nat
  sensor : Text

structure EigerOdinData where
  ip : Text
  ready : Nat
  release : Nat
  metaPort : Nat
  plugins : Option PluginConfig
  source : Text
  sensor : Text
  rank : Option Nat
  fpEndpoint : Text
  frEndpoint : Text

structure EigerOdinDataServer where
  ip : Text
  sharedMemSize : Int
  ioThreads : Int
  totalNumaNodes : Int
  processes : List EigerOdinData

structure EigerMetaListener where
  ip : Text
  ipList : List Text
  sensor : Option Text
  numaNode : Int

def joinLines (entries : List Text) : Text := (text ",\n  ").intercalate entries

/-- An optional value as it is printed. -/
def strOption (value : Option Text) : Text := value.getD (text "None")

def numaCall (node : Int) : Text :=
  text "numactl --membind=" ++ text (toString node) ++ text " --cpunodebind=" ++
    text (toString node) ++ text " "

def expandTemplateFile (template : List Piece) (macros : Macros) (outputFileName : Text) :
    Option File :=
  (substitute macros (render template)).map fun output => (outputFileName, output)

namespace EigerOdinData

/-- The macros that a configuration file of the process is expanded with. The extra ones take
precedence, and the entries of the plugins over both. -/
def configMacros (paths : OdinPaths) (extraMacros : Macros) (process : EigerOdinData) : Macros :=
  let macros := extraMacros ++
    [(text "IP", process.ip), (text "OD_ROOT", paths.odinDataRoot),
      (text "RD_PORT", str process.ready), (text "RL_PORT", str process.release),
      (text "META_PORT", str process.metaPort)]
  match process.plugins with
  | none => macros
  | some plugins =>
      [(text "LOAD_ENTRIES", joinLines plugins.loadEntries),
        (text "CONNECT_ENTRIES", joinLines plugins.connectEntries),
        (text "CONFIG_ENTRIES", joinLines (plugins.extraConfigEntries process.rank))] ++ macros

def createConfigFile (paths : OdinPaths) (kind : String) (template : List Piece)
    (extraMacros : Macros) (process : EigerOdinData) : Option File := do
  let rank ← process.rank
  expandTemplateFile template (process.configMacros paths extraMacros)
    (text kind ++ str (rank + 1) ++ text ".json")

/-- The index that `create_config_files` is called with is not used. -/
def createConfigFiles (paths : OdinPaths) (process : EigerOdinData) : Option (List File) := do
  let macros := [(text "DETECTOR_ROOT", paths.eigerRoot), (text "IP", process.source),
    (text "RX_PORT_SUFFIX", strOption (process.rank.map str)), (text "SENSOR", process.sensor)]
  let fp ← process.createConfigFile paths "fp" fpJson macros
  let fr ← process.createConfigFile paths "fr" frJson macros
  pure [fp, fr]

/-- The designation of the server on the process. -/
def storeEndpoints (ip : Text) (idx : Nat) (process : EigerOdinData) : EigerOdinData :=
  { process with
    fpEndpoint := ip ++ text ":" ++ str (5004 + 10 * idx)
    frEndpoint := ip ++ text ":" ++ str (5000 + 10 * idx) }

end EigerOdinData

namespace EigerOdinDataServer

/-- The processes, made with ports from `PORT_BASE` on. -/
def createProcesses (make : Nat → Nat → Nat → EigerOdinData) (portBase : Nat) :
    Nat → List EigerOdinData
  | 0 => []
  | processes + 1 => make (portBase + 1) (portBase + 2) (portBase + 8) ::
      createProcesses make (portBase + 10) processes

/-- A server with the given plugins, or with the standard ones. -/
def create (ip : Text) (source : EigerFan) (sharedMemSize : Int) (pluginConfig : PluginConfig)
    (ioThreads totalNumaNodes : Int) : EigerOdinDataServer where
  ip := ip
  sharedMemSize := sharedMemSize
  ioThreads := ioThreads
  totalNumaNodes := totalNumaNodes
  processes := createProcesses (fun ready release metaPort =>
    { ip := ip, ready := ready, release := release, metaPort := metaPort
      plugins := some pluginConfig, source := source.ip, sensor := source.sensor
      rank := none, fpEndpoint := [], frEndpoint := [] }) 5000 source.processes

def rankProcesses (totalServers : Nat) : Nat → List EigerOdinData → List EigerOdinData
  | _, [] => []
  | rank, process :: processes => { process with rank := some rank } ::
      rankProcesses totalServers (rank + totalServers) processes

def configureProcesses (serverRank totalServers : Nat) (server : EigerOdinDataServer) :
    EigerOdinDataServer :=
  { server with processes := rankProcesses totalServers serverRank server.processes }

/-- The call in front of the program of a process. -/
def numa (server : EigerOdinDataServer) (idx : Nat) : Text :=
  if 0 < server.totalNumaNodes then numaCall (idx % server.totalNumaNodes) else []

/-- The macros of the script of a receiver. -/
def receiverMacros (paths : OdinPaths) (server : EigerOdinDataServer) (idx rank : Nat) : Macros :=
  [(text "NUMBER", str (rank + 1)), (text "OD_ROOT", paths.odinDataRoot),
    (text "BUFFER_IDX", str (idx + 1)),
    (text "SHARED_MEMORY", text (toString server.sharedMemSize)),
    (text "CTRL_PORT", str (5000 + 10 * idx)),
    (text "IO_THREADS", text (toString server.ioThreads)),
    (text "READY_PORT", str (5001 + 10 * idx)), (text "RELEASE_PORT", str (5002 + 10 * idx)),
    (text "LOG_CONFIG", paths.outputDir ++ text "/log4cxx.xml"), (text "NUMA", server.numa idx)]

/-- The macros of the script of a processor. -/
def processorMacros (paths : OdinPaths) (server : EigerOdinDataServer) (idx rank : Nat) :
    Macros :=
  [(text "NUMBER", str (rank + 1)), (text "OD_ROOT", paths.odinDataRoot),
    (text "HDF5_FILTERS", paths.hdf5Filters), (text "CTRL_PORT", str (5004 + 10 * idx)),
    (text "READY_PORT", str (5001 + 10 * idx)), (text "RELEASE_PORT", str (5002 + 10 * idx)),
    (text "LOG_CONFIG", paths.outputDir ++ text "/log4cxx.xml"), (text "NUMA", server.numa idx)]

/-- The scripts of one process. -/
def startupScripts (paths : OdinPaths) (server : EigerOdinDataServer) (idx : Nat)
    (process : EigerOdinData) : Option (List File) := do
  let rank ← process.rank
  let fr ← expandTemplateFile frSh (server.receiverMacros paths idx rank)
    (text "stFrameReceiver" ++ str (rank + 1) ++ text ".sh")
  let fp ← expandTemplateFile fpSh (server.processorMacros paths idx rank)
    (text "stFrameProcessor" ++ str (rank + 1) ++ text ".sh")
  pure [fr, fp]

/-- The loop over the processes: each gets its endpoints and has its scripts written. -/
def startProcesses (paths : OdinPaths) (server : EigerOdinDataServer) :
    Nat → List EigerOdinData → Option (List EigerOdinData × List File)
  | _, [] => some ([], [])
  | idx, process :: processes => do
      let process := process.storeEndpoints server.ip idx
      let scripts ← server.startupScripts paths idx process
      let (processes, files) ← startProcesses paths server (idx + 1) processes
      pure (process :: processes, scripts ++ files)

def createOdStartupScripts (paths : OdinPaths) (server : EigerOdinDataServer) :
    Option (EigerOdinDataServer × List File) := do
  let (processes, files) ← server.startProcesses paths 0 server.processes
  pure ({ server with processes := processes }, files)

end EigerOdinDataServer

namespace EigerMetaListener

/-- No result where the sensors differ. -/
def setSensor (sensor : Text) (listener : EigerMetaListener) : Option EigerMetaListener :=
  match listener.sensor with
  | none => some { listener with sensor := some sensor }
  | some known => if known = sensor then some listener else none

def addProcesses : Nat → List EigerOdinData → EigerMetaListener → Option EigerMetaListener
  | _, [], listener => some listener
  | basePort, process :: processes, listener => do
      let endpoint := text "tcp://" ++ process.ip ++ text ":" ++ str (basePort + 8)
      let listener ← { listener with ipList := listener.ipList ++ [endpoint] }.setSensor
        process.sensor
      addProcesses (basePort + 10) processes listener

def addServers : List (Option EigerOdinDataServer) → EigerMetaListener → Option EigerMetaListener
  | [], listener => some listener
  | none :: servers, listener => addServers servers listener
  | some server :: servers, listener => do
      let listener ← addProcesses 5000 server.processes listener
      addServers servers listener

def createStartupFile (paths : OdinPaths) (listener : EigerMetaListener) : Option File :=
  expandTemplateFile eigerMetaSh
    [(text "EIGER_DETECTOR_PATH", paths.eigerRoot),
      (text "IP_LIST", (text ",").intercalate listener.ipList),
      (text "OD_ROOT", paths.odinDataRoot), (text "SENSOR", strOption listener.sensor),
      (text "NUMA", if 0 ≤ listener.numaNode then numaCall listener.numaNode else [])]
    (text "stEigerMetaListener.sh")

/-- The listener to up to four servers, and its script. -/
def create (paths : OdinPaths) (ip : Text)
    (server1 server2 server3 server4 : Option EigerOdinDataServer) (numaNode : Int) :
    Option (EigerMetaListener × File) := do
  let listener ← addServers [server1, server2, server3, server4] ⟨ip, [], none, numaNode⟩
  let file ← listener.createStartupFile paths
  pure (listener, file)

end EigerMetaListener

end Eiger.Deploy
