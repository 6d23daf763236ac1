import EigerDetector.Control.Loops
import EigerDetector.Control.Status

/-! The construction of the server: what it reads from the detector, and the parameter tree
that it serves from then on. -/
namespace Eiger.Server

open Threads
open Control (DETECTOR_CONFIG STREAM_CONFIG)

/-- What an accessor of the parameter tree returns. It has captured an object, or it reads an
attribute or another member each time. -/
inductive Getter where
  | cached (name : String)
  | captured (status : String) (item : Json)
  | constant (value : Json)
  | state
  | hasStaleParameters
  | bytes
  | sequenceID
  | flag (flag : Flag)
  | triggerExposure

/-- The interfaces which have a mode. -/
inductive ModeType where
  | stream
  | monitor
  | filewriter
  deriving DecidableEq

/-- What the parameter tree does with a value. -/
inductive Setter where
  | value (item : String)
  | mode (modeType : ModeType)
  | flag (flag : Flag)
  | triggerExposure
  | command (command : String)
  deriving DecidableEq

structure Leaf where
  path : String
  getter : Getter
  setter : Option Setter
  metadata : List (String × Json)

namespace Json

def isNone : Json → Bool
  | null => true
  | _ => false

def number : Json → Except PyException Rat
  | int n => .ok n
  | bool b => .ok b.toNat
  | float q => .ok q
  | _ => .error .typeError

/-- The value as a condition. -/
def truth : Json → Bool
  | null => false
  | bool b => b
  | int n => n != 0
  | float q => q != 0
  | str text => text != ""
  | list elements => !elements.isEmpty
  | dict members => !members.isEmpty

/-- `get_state`, from the attribute. Lists and objects are no keys. -/
def odinState (state : Json) : Except PyException Json := do
  match ← state.getValue with
  | list _ | dict _ => .error .typeError
  | value => pure (if value.isStr "acquire" then .int 1 else .int 0)

end Json

section Getters

/-- `get_value(getattr(self, name))`. -/
def EigerDetector.getValue (d : EigerDetector) (name : String) : Except PyException Json :=
  match d.attributes name with
  | some item => item.getValue
  | none => .error .attributeError

def Getter.read (d : EigerDetector) : Getter → Except PyException Json
  | .cached name => d.getValue name
  | .captured _ item => item.getValue
  | .constant value => .ok value
  | .state =>
      match d.attributes "state" with
      | some item => item.odinState
      | none => .error .attributeError
  | .hasStaleParameters => .ok (.bool (decide (d.staleParameters ≠ [])))
  | .bytes => do
      let width ← d.getValue "x_pixels_in_detector" >>= Json.number
      let height ← d.getValue "y_pixels_in_detector" >>= Json.number
      let depth ← d.getValue "bit_depth_image" >>= Json.number
      pure (.float (width * height * depth / 8))
  | .sequenceID => .ok d.sequenceID
  | .flag member => .ok (.bool (d.flags member))
  | .triggerExposure => .ok d.triggerExposure

/-- The parameter of the detector that a getter shows. -/
def Getter.parameter : Getter → Option String
  | .cached name => some name
  | .captured status _ => some status
  | _ => none

end Getters

section Setters

/-- The configuration of the monitor, which is found beside its images. -/
def readMonitorConfig (item : String) : Code Json := do
  let r ← request (.get .detectorMonitor ("config/" ++ item))
  liftExcept (interceptReply item (parseResponse r))

def writeMonitorConfig (item : String) (value : Json) : Code Json := do
  let r ← request (.put .detectorMonitor ("config/" ++ item) (some value))
  pure (parseResponse r)

namespace ModeType

/-- The attribute which caches the mode. -/
def cachedAs : ModeType → String
  | stream => "stream_mode"
  | monitor => "monitor_mode"
  | filewriter => "fw_mode"

def read : ModeType → Code Json
  | stream => readStreamConfig "mode"
  | monitor => readMonitorConfig "mode"
  | filewriter => readFilewriterConfig "mode"

def write (value : Json) : ModeType → Code Json
  | stream => writeStreamConfig "mode" value
  | monitor => writeMonitorConfig "mode" value
  | filewriter => writeFilewriterConfig "mode" value

end ModeType

def setMode (modeType : ModeType) (value : Json) : Code Unit := do
  let value ← liftExcept (optionValue "mode" value)
  let _ ← modeType.write value
  let param ← modeType.read
  setattr modeType.cachedAs param

def Setter.call (value : Json) : Setter → Code Unit
  | .value item => setValue item value
  | .mode modeType => setMode modeType value
  | .flag member => setFlag member value.truth
  -- What was set is found at each action.
  | .triggerExposure => pure ()
  | .command name => do
      let _ ← writeDetectorCommand name .null
      pure ()

end Setters

section Constructor

/-- A detector that is not initialized is, at once. -/
def initializeAtStart : Code Unit := do
  let param ← readDetectorStatus "state"
  let value ← liftExcept param.getValue
  if value.isStr "na" then do
    let _ ← writeDetectorCommand "initialize" .null
    pure ()
  else pure ()

def isWriteable (param : Json) : Except PyException Bool := do
  if ← param.contains "access_mode" then
    let mode ← param.subscript "access_mode"
    pure (mode.isStr "rw")
  else pure false

variable (version : String)

def uriPath (interface group item : String) : String :=
  "/".intercalate [interface, "api", version, group, item]

/-- One detector config item at the start. -/
def registerConfig (cfg : String) : Code (List Leaf) := do
  let param ← readDetectorConfig cfg
  if param.isNone then do
    let _ ← perform (.addMissingParameter cfg)
    pure []
  else do
    let _ ← setattr cfg param
    let writeable ← liftExcept (isWriteable param)
    let metadata ← liftExcept param.getMeta
    pure [⟨uriPath version "detector" "config" cfg, .cached cfg,
      if writeable then some (.value cfg) else none, metadata⟩]

/-- The leaves of a group. -/
def registerLeaves (register : String → Code (List Leaf)) : List String → Code (List Leaf)
  | [] => pure []
  | cfg :: rest => do
      let leaves ← register cfg
      let others ← registerLeaves register rest
      pure (leaves ++ others)

def StatusEntry.interface (entry : StatusEntry) : String :=
  if entry.uri = .streamStatus then "stream" else "detector"

def statusLeaves : List StatusEntry → Except PyException (List Leaf)
  | [] => .ok []
  | entry :: entries => do
      let metadata ← entry.item.getMeta
      let others ← statusLeaves entries
      pure (⟨uriPath version entry.interface "status" entry.path,
        .captured entry.status entry.item, none, metadata⟩ :: others)

/-- A link that could not be read. -/
def downLeaf (status : String) : Leaf :=
  ⟨uriPath version "detector" "status" status, .constant (.str "down"), none,
    [("allowed_values", .list [.str "down", .str "up"])]⟩

def downLeaves (entries : List StatusEntry) (missingParameters : List String) : List Leaf :=
  (["link_2", "link_3"].filter fun status =>
    !(entries.any fun entry => entry.status == status) && !missingParameters.elem status).map
      (downLeaf version)

def registerStatusLeaves : Code (List Leaf) := do
  let entries ← registerStatuses
  let missingParameters ← perform .getMissingParameters
  let leaves ← liftExcept (statusLeaves version entries)
  pure (leaves ++ downLeaves version entries missingParameters ++
    [⟨uriPath version "detector" "status" "stale_parameters", .hasStaleParameters, none, []⟩])

/-- A config item that can always be set. -/
def registerWriteable (interface item name : String) (read : Code Json) (setter : Setter) :
    Code (List Leaf) := do
  let param ← read
  let _ ← setattr name param
  let metadata ← liftExcept param.getMeta
  pure [⟨uriPath version interface "config" item, .cached name, some setter, metadata⟩]

def registerMode (interface : String) (modeType : ModeType) : Code (List Leaf) :=
  registerWriteable version interface "mode" modeType.cachedAs modeType.read (.mode modeType)

def registerStreamConfig (cfg : String) : Code (List Leaf) :=
  if cfg = "mode" then registerMode version "stream" .stream
  else registerWriteable version "stream" cfg cfg (readStreamConfig cfg) (.value cfg)

def registerFilewriterConfig (cfg : String) : Code (List Leaf) :=
  if cfg = "mode" then registerMode version "filewriter" .filewriter
  else registerWriteable version "filewriter" cfg cfg (readFilewriterConfig cfg) (.value cfg)

/-- A leaf for an attribute that exists already. -/
def registerAlias (path name : String) (setter : Option Setter) :
    Code (List Leaf) := do
  let item ← getattr name
  let metadata ← liftExcept item.getMeta
  pure [⟨path, .cached name, setter, metadata⟩]

def registerCutoff : Code (List Leaf) :=
  if version = "1.8.0" then pure []
  else registerAlias (uriPath version "detector" "config" "ccc_cutoff")
    "countrate_correction_count_cutoff" none

/-- The leaves that are not about one parameter. -/
def ownLeaves : List Leaf :=
  [⟨"api", .constant (.float (1 / 10)), none, []⟩,
    ⟨"status/manufacturer", .constant (.str "Dectris"), none, []⟩,
    ⟨"status/model", .constant (.str ("Odin [Eiger " ++ version ++ "]")), none, []⟩,
    ⟨"status/state", .state, none, []⟩,
    ⟨"status/sensor/bytes", .bytes, none, []⟩,
    ⟨"status/sequence_id", .sequenceID, none, []⟩,
    ⟨"status/error", .constant (.str ""), none, []⟩,
    ⟨"status/acquisition_complete", .flag .acquisitionComplete, none, []⟩,
    ⟨"status/armed", .flag .armed, none, []⟩,
    ⟨"config/trigger_exposure", .triggerExposure, some .triggerExposure, []⟩,
    ⟨"config/manual_trigger", .flag .manualTrigger, some (.flag .manualTrigger), []⟩,
    ⟨"config/live_view", .flag .liveViewEnabled, some (.flag .liveViewEnabled), []⟩]

def commandLeaf (command : String) : Leaf :=
  ⟨uriPath version "detector" "command" command, .constant (.int 0),
    some (.command command), []⟩

def COMMANDS : List String := ["initialize", "arm", "trigger", "disarm", "cancel", "abort", "wait"]

/-- The additional items for the areaDetector driver. -/
def registerOdinLeaves : Code (List Leaf) := do
  let cutoff ← registerCutoff version
  let width ← registerAlias "status/sensor/width" "x_pixels_in_detector" none
  let height ← registerAlias "status/sensor/height" "y_pixels_in_detector" none
  let images ← registerAlias "config/num_images" "nimages" (some (.value "nimages"))
  let exposure ← registerAlias "config/exposure_time" "count_time" (some (.value "count_time"))
  pure (cutoff ++ width ++ height ++ images ++ exposure ++ ownLeaves version ++
    COMMANDS.map (commandLeaf version))

/-- `__init__`, up to the start of the threads. -/
def construct : Code (List Leaf) := do
  let _ ← initializeAtStart
  let config ← registerLeaves (registerConfig version) DETECTOR_CONFIG
  let statuses ← registerStatusLeaves version
  let stream ← registerLeaves (registerStreamConfig version) STREAM_CONFIG
  let monitor ← registerMode version "monitor" .monitor
  let filewriter ← registerLeaves (registerFilewriterConfig version) FW_CONFIG
  let odin ← registerOdinLeaves version
  pure (config ++ statuses ++ stream ++ monitor ++ filewriter ++ odin)

end Constructor

section Requests

/-- The parameter tree, when it is set: the calls of setters that it makes for a path and a
value, whether it raises in the end, and how a value is written as a text. -/
structure ParameterTree where
  calls : String → Json → List (Setter × Json)
  raises : String → Json → Bool
  str : Json → String

/-- The tree calls setters of its leaves. -/
def ParameterTree.Calls (tree : ParameterTree) (leaves : List Leaf) : Prop :=
  ∀ path value, ∀ call ∈ tree.calls path value, ∃ leaf ∈ leaves, leaf.setter = some call.1

def callSetters : List (Setter × Json) → Code Unit
  | [] => pure ()
  | call :: calls => do
      call.1.call call.2
      callSetters calls

namespace EigerDetector

def stopAcquisition : Code Unit := do
  let _ ← writeDetectorCommand "disarm" .null
  let _ ← setFlag .acquisitionComplete true
  setFlag .armed false

def sendTrigger : Code Unit := perform (.assignEvent .trigger true)

def initializeDetector : Code Unit := do
  let _ ← setFlag .initializing true
  perform (.assignEvent .initialization true)

def hvResetDetector : Code Unit := do
  let _ ← setFlag .hvResetting true
  perform (.assignEvent .hvResetting true)

/-- `set`. An option is passed on as a text. -/
def set (tree : ParameterTree) (depth : Nat) (path : String) (value : Json) : Code Unit :=
  if path = "command/start_acquisition" then startAcquisition depth
  else if path = "command/stop_acquisition" then stopAcquisition
  else if path = "command/send_trigger" then sendTrigger
  else if path = "command/initialize" then initializeDetector
  else if path = "command/hv_reset" then hvResetDetector
  else do
    let value := if IsOption ((path.splitOn "/").getLastD "") then .str (tree.str value) else value
    callSetters (tree.calls path value)
    if tree.raises path value then .fail .parameterTreeError else pure ()

end EigerDetector

end Requests

end Eiger.Server
