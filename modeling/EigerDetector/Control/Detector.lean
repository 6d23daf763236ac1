import EigerDetector.Control.LiveView
import EigerDetector.Control.Stale
import EigerDetector.Library.Program
import Mathlib.Logic.Function.Basic

/-! The control server: what it knows of the detector, what it asks the detector, and the
calls which set a parameter, refresh the stale ones and start an acquisition. -/
namespace Eiger.Server

open CharArrays Threads
open Control (DETECTOR_CONFIG STREAM_CONFIG remainingStaleParameters)

def FW_CONFIG : List String := ["mode", "compression_enabled"]

def DETECTOR_STATUS : List String :=
  ["state", "error", "time", "link_0", "link_1", "link_2", "link_3", "high_voltage/state"]

def DETECTOR_BOARD_STATUS : List String := ["th0_temp", "th0_humidity"]

def DETECTOR_BUILD_STATUS : List String := ["dcu_buffer_free"]

def STREAM_STATUS : List String := ["dropped"]

/-- The interfaces of the detector, without endpoint and API version. -/
inductive Uri where
  | detectorConfig
  | detectorStatus
  | detectorCommand
  | detectorMonitor
  | streamConfig
  | streamStatus
  | filewriterConfig
  deriving DecidableEq

/-- The data of a put is sent as the value of an object. -/
inductive Request where
  | get (uri : Uri) (item : String)
  | put (uri : Uri) (item : String) (data : Option Json)

/-- The text of a response, as far as `json.loads` tells texts apart. -/
inductive Text where
  | empty
  | other
  | json (value : Json)

/-- `json.loads(text)`, if it does not raise. -/
def Text.loads : Text → Option Json
  | json value => some value
  | _ => none

structure Response where
  statusCode : Nat
  content : Bytes
  text : Text

inductive Flag where
  | executing
  | initializing
  | hvResetting
  | acquisitionComplete
  | armed
  | liveViewEnabled
  | manualTrigger
  deriving DecidableEq

inductive Event where
  | trigger
  | acquisition
  | initialization
  | hvResetting
  deriving DecidableEq

/-- The members that are set after construction. Recorded beside them is what the detector
was asked. -/
structure EigerDetector where
  attributes : String → Option Json
  staleParameters : List String
  missingParameters : List String
  sequenceID : Json
  triggerExposure : Json
  flags : Flag → Bool
  events : Event → Bool
  liveViewFrameNumber : Nat
  published : List (FrameHeader × Bytes)
  log : List Request

/-- The members after construction, when the parameters have been read. -/
def initial (attributes : String → Option Json) (missingParameters : List String) :
    EigerDetector where
  attributes := attributes
  staleParameters := []
  missingParameters := missingParameters
  sequenceID := .int 0
  triggerExposure := .float 0
  flags flag := decide (flag = .executing ∨ flag = .acquisitionComplete)
  events _ := false
  liveViewFrameNumber := 0
  published := []
  log := []

/-- What the server finds outside of itself: the answer to a request after earlier ones, if
it does not raise, the order in which a set is iterated, and whether the parameter tree passes
a value on to its setter. -/
structure Environment where
  respond : List Request → Request → Option Response
  order : List String → List String
  order_perm : ∀ names, (order names).Perm names.dedup
  accepts : String → Json → Bool

/-- An environment which gives one response to each request. -/
def Environment.constant (response : Option Response) : Environment where
  respond _ _ := response
  order names := names.dedup
  order_perm _ := .refl _
  accepts _ _ := true

/-- An environment in which every parameter has this value, and a put lists these names after
its own. -/
def Environment.listing (value : Int) (names : List String) : Environment :=
  { Environment.constant none with
    respond := fun _ r =>
      match r with
      | .get _ _ => some ⟨200, [], .json (.dict [("value", .int value)])⟩
      | .put _ item _ => some ⟨200, [], .json (.list ((item :: names).map .str))⟩ }

/-- A server with these stale parameters, where all parameters have the value 0. -/
def sampleServer (staleParameters : List String) : EigerDetector :=
  { initial (fun _ => some (.dict [("value", .int 0)])) [] with
    staleParameters := staleParameters }

inductive Action where
  | request (r : Request)
  | getattr (name : String)
  | setattr (name : String) (value : Json)
  | getFlag (flag : Flag)
  | setFlag (flag : Flag) (value : Bool)
  | wait (event : Event)
  | assignEvent (event : Event) (value : Bool)
  | getTriggerExposure
  | setSequenceID (value : Json)
  | copyStaleParameters
  | addStaleParameters (names : List String)
  | removeStaleParameters (previous : List String)
  | hasStaleParameters
  | addMissingParameter (name : String)
  | getMissingParameters
  | iterate (names : List String)
  | setParameter (name : String) (value : Json)
  | sleep (duration : Json)
  | publish (tags : ImageTags) (frameData : Bytes)

@[reducible] def Action.Reply : Action → Type
  | request _ => Option Response
  | getattr _ => Option Json
  | getFlag _ => Bool
  | wait _ => Bool
  | getTriggerExposure => Json
  | copyStaleParameters => List String
  | hasStaleParameters => Bool
  | getMissingParameters => List String
  | iterate _ => List String
  | setParameter _ _ => Bool
  | sleep _ => Except PyException Unit
  | _ => Unit

/-- Perform one action. Waiting for an event that is not set ends with a timeout. -/
def answer (env : Environment) :
    (action : Action) → EigerDetector → Option (EigerDetector × action.Reply)
  | .request r, s => some ({ s with log := s.log ++ [r] }, env.respond s.log r)
  | .getattr name, s => some (s, s.attributes name)
  | .setattr name value, s =>
      some ({ s with attributes := Function.update s.attributes name (some value) }, ())
  | .getFlag flag, s => some (s, s.flags flag)
  | .setFlag flag value, s => some ({ s with flags := Function.update s.flags flag value }, ())
  | .wait event, s => some (s, s.events event)
  | .assignEvent event value, s =>
      some ({ s with events := Function.update s.events event value }, ())
  | .getTriggerExposure, s => some (s, s.triggerExposure)
  | .setSequenceID value, s => some ({ s with sequenceID := value }, ())
  | .copyStaleParameters, s => some (s, s.staleParameters)
  | .addStaleParameters names, s =>
      some ({ s with staleParameters := s.staleParameters ++ names }, ())
  | .removeStaleParameters previous, s =>
      some ({ s with staleParameters := remainingStaleParameters s.staleParameters previous }, ())
  | .hasStaleParameters, s => some (s, decide (s.staleParameters ≠ []))
  | .addMissingParameter name, s =>
      some ({ s with missingParameters := s.missingParameters ++ [name] }, ())
  | .getMissingParameters, s => some (s, s.missingParameters)
  | .iterate names, s => some (s, env.order names)
  | .setParameter name value, s => some (s, env.accepts name value)
  | .sleep duration, s => some (s, Eiger.Server.sleep duration)
  | .publish tags frameData, s =>
      some ({ s with
        published := s.published ++ [(tags.frameHeader s.liveViewFrameNumber, frameData)]
        liveViewFrameNumber := s.liveViewFrameNumber + 1 }, ())

abbrev Code := Program Action Action.Reply PyException

section Calls

variable {A : Type}

/-- What raises ends the code. -/
def liftExcept : Except PyException A → Code A
  | .ok a => .done a
  | .error e => .fail e

def perform (action : Action) : Code action.Reply := Program.perform action

def setattr (name : String) (value : Json) : Code Unit := perform (.setattr name value)

def getattr (name : String) : Code Json := do
  let value : Option Json ← perform (.getattr name)
  match value with
  | some value => pure value
  | none => .fail .attributeError

def setFlag (flag : Flag) (value : Bool) : Code Unit := perform (.setFlag flag value)

/-- `requests.get` and `requests.put`. -/
def request (r : Request) : Code Response := do
  let response : Option Response ← perform (.request r)
  match response with
  | some response => pure response
  | none => .fail .requestException

/-- A text that is no JSON is logged, if it is not of a missing parameter. -/
def parseResponse (response : Response) : Json := response.text.loads.getD .null

/-- A read of a config item, of which an option is shown by its index. -/
def readConfig (uri : Uri) (item : String) : Code Json := do
  let r ← request (.get uri item)
  liftExcept (interceptReply item (parseResponse r))

def readDetectorConfig : String → Code Json := readConfig .detectorConfig
def readStreamConfig : String → Code Json := readConfig .streamConfig
def readFilewriterConfig : String → Code Json := readConfig .filewriterConfig

def readDetectorStatus (item : String) : Code Json := do
  let r ← request (.get .detectorStatus item)
  pure (parseResponse r)

def writeConfig (uri : Uri) (item : String) (value : Json) : Code Json := do
  let r ← request (.put uri item (some value))
  pure (parseResponse r)

def writeDetectorConfig : String → Json → Code Json := writeConfig .detectorConfig
def writeStreamConfig : String → Json → Code Json := writeConfig .streamConfig
def writeFilewriterConfig : String → Json → Code Json := writeConfig .filewriterConfig

/-- A command with the value `None` is sent without data. -/
def writeDetectorCommand (command : String) (value : Json) : Code Json := do
  let data := match value with
    | .null => none
    | value => some value
  let r ← request (.put .detectorCommand command data)
  pure (match r.text with
    | .empty => .null
    | _ => parseResponse r)

/-- A value for an option is the index of the value to write. -/
def optionValue (item : String) (value : Json) : Except PyException Json :=
  match option_config_options.lookup item with
  | some o => (o.getOption value).map .str
  | none => .ok value

def writeValue (item : String) (value : Json) : Code Json :=
  if item ∈ DETECTOR_CONFIG then writeDetectorConfig item value
  else if item ∈ STREAM_CONFIG then writeStreamConfig item value
  else if item ∈ FW_CONFIG then writeFilewriterConfig item value
  else pure .null

/-- In a group that is not listed here no value is read. -/
def readValue (item : String) : Code Json :=
  if item ∈ DETECTOR_CONFIG then readDetectorConfig item
  else if item ∈ STREAM_CONFIG then readStreamConfig item
  else if item ∈ FW_CONFIG then readFilewriterConfig item
  else if item ∈ DETECTOR_STATUS then readDetectorStatus item
  else .fail .unboundLocalError

/-- Write a value. A list in the response names what has changed with it; without a response
the item is read back. -/
def setValue (item : String) (value : Json) : Code Unit := do
  let value ← liftExcept (optionValue item value)
  let response ← writeValue item value
  match response with
  | .null => do
      let param ← readValue item
      setattr item param
  | .list names => perform (.addStaleParameters (Json.names names))
  | _ => pure ()

/-- One turn of the loop in `fetch_stale_parameters`. -/
def fetchParameter (cfg : String) : Code Unit :=
  if cfg ∈ DETECTOR_CONFIG then do
    let param ← readDetectorConfig cfg
    setattr cfg param
  else if cfg ∈ STREAM_CONFIG then do
    let param ← readStreamConfig cfg
    setattr cfg param
  else pure ()

def fetchParameters : List String → Code Unit
  | [] => pure ()
  | cfg :: cfgs => do
      fetchParameter cfg
      fetchParameters cfgs

/-- `fetch_stale_parameters`, which calls itself `depth` times at most. -/
def fetchStaleParameters (blocking : Bool) : Nat → Code Unit
  | 0 => .fail .recursionError
  | depth + 1 => do
      let previousStaleParameters ← perform .copyStaleParameters
      let cfgs ← perform (.iterate previousStaleParameters)
      fetchParameters cfgs
      let _ ← perform (.removeStaleParameters previousStaleParameters)
      let stale : Bool ← if blocking then perform .hasStaleParameters else pure false
      if stale then fetchStaleParameters blocking depth else pure ()

/-- The option that the index in a reply is for. -/
def triggerModeOf (triggerMode : Json) : Except PyException String := do
  let triggerIdx ← triggerMode.getValue
  EigerOption.getOption ⟨["ints", "inte", "exts", "exte"]⟩ triggerIdx

def getTriggerMode : Code String := do
  let triggerMode ← getattr "trigger_mode"
  liftExcept (triggerModeOf triggerMode)

def armDetector : Code Unit := do
  let sObj ← writeDetectorCommand "arm" .null
  let sequenceID ← liftExcept (sObj.subscript "sequence id")
  perform (.setSequenceID sequenceID)

/-- `set` on the path of a parameter: the tree may refuse the value. -/
def setParameter (name : String) (value : Json) : Code Unit := do
  let accepted : Bool ← perform (.setParameter name value)
  if accepted then setValue name value else .fail .parameterTreeError

/-- In two of the modes each trigger is for one image. -/
def setImages (triggerMode : String) : Code Unit :=
  if triggerMode = "inte" ∨ triggerMode = "exte" then setParameter "nimages" (.int 1) else pure ()

/-- In two of the modes the server sends the triggers. -/
def wakeAcquisition (triggerMode : String) : Code Unit :=
  if triggerMode = "ints" ∨ triggerMode = "inte" then perform (.assignEvent .acquisition true)
  else pure ()

def startAcquisition (depth : Nat) : Code Unit := do
  fetchStaleParameters true depth
  setFlag .acquisitionComplete false
  let triggerMode ← getTriggerMode
  setImages triggerMode
  armDetector
  wakeAcquisition triggerMode
  setFlag .armed true

end Calls

end Eiger.Server
