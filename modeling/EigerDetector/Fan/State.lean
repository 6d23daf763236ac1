import EigerDetector.Definitions
import EigerDetector.Json
import EigerDetector.Library.Program
import Mathlib.Logic.Function.Basic

/-! The members of the fan, its sockets as logs of what was sent and queues of
what is still to be received, and the system calls behind the message cache. -/
namespace Eiger.Fan

open CharArrays Rapidjson

/-- Settings of the fan. Only `blockSize` changes after start-up. -/
structure EigerFanConfig where
  numThreads : Int
  numConsumers : Int
  ctrlChannelPort : Bytes
  eigerChannelAddress : Bytes
  eigerChannelPort : Bytes
  forwardChannelPort : Bytes
  fanChannelPortStart : Int
  numZmqContextThreads : Int
  blockSize : Int

/-- The values `EigerFanDefaults` gives the settings. -/
def defaultConfig : EigerFanConfig where
  numThreads := 2
  numConsumers := 1
  ctrlChannelPort := bytes "5559"
  eigerChannelAddress := bytes "localhost"
  eigerChannelPort := bytes "9999"
  forwardChannelPort := bytes "9009"
  fanChannelPortStart := 31600
  numZmqContextThreads := 1
  blockSize := 1

/-- One consumer: how many peers are connected, and every part sent to it. -/
structure EigerConsumer where
  connected : Int
  sendSocket : List (Bytes × Bool)

/-- The pull socket of the rx thread: flagged parts still to be received, and
the flag of the part received last. -/
structure RxSocket where
  queue : List (Bytes × Bool)
  rcvMore : Bool

/-- Outcomes of the system calls of one `WriteMessageToFile`. -/
structure FileCalls where
  createDirectories : Bool
  openFile : Bool
  written : Option Nat
  rename : Bool

structure EigerFan where
  config : EigerFanConfig
  consumers : List EigerConsumer
  forwardSocket : List (Bytes × Bool)
  controlSocket : List (Bytes × Value)
  rxSocket : RxSocket
  jsonDocument : Value
  more : Int
  killRequested : Bool
  state : EigerFanState
  currentSeries : Int
  currentConsumerIndexToSendTo : Int
  configuredAcquisitionID : Bytes
  currentAcquisitionID : Bytes
  lastFrameSent : Nat
  messagesReceived : Nat
  numFramesSent : Nat
  numFramesConsumed : List Nat
  configuredOffset : Int
  currentOffset : Int
  numConnectedForwardingSockets : Int
  forwardStream : Bool
  devShmCache : Bool
  files : Bytes → Option Bytes
  fileCalls : Nat

/-- What the fan finds outside of itself: the JSON reader and writer, the
outcomes of file system calls by number, the clock and the build version. -/
structure Environment where
  parse : Bytes → Option Value
  write : Value → Bytes
  fileSystem : Nat → FileCalls
  removeAll : Nat → Bool
  timestamp : Nat → Bytes
  versionFull : Bytes
  versionMajor : Int
  versionMinor : Int
  versionPatch : Int
  versionShort : Bytes

/-- The compact text of a scalar whose characters need no escape. -/
def scalarText : Value → Bytes
  | .int n => bytes (toString n)
  | .string text => bytes "\"" ++ text ++ bytes "\""
  | .bool true => bytes "true"
  | .bool false => bytes "false"
  | _ => bytes "null"

/-- The compact text of an object of scalars. -/
def objectText : Value → Bytes
  | .object members =>
      let texts := members.map fun (name, value) =>
        scalarText (.string name) ++ bytes ":" ++ scalarText value
      bytes "\x7b" ++ (bytes ",").intercalate texts ++ bytes "\x7d"
  | value => scalarText value

/-- An environment in which the given texts are all there is to parse, only
objects of scalars are written, and every system call succeeds. -/
def Environment.ofTexts (texts : List (Bytes × Value)) : Environment where
  parse text := (texts.find? fun (known, _) => known = text).map Prod.snd
  write := objectText
  fileSystem _ := ⟨true, true, some 4096, true⟩
  removeAll _ := true
  timestamp _ := bytes "2024-01-01T00:00:00.000000"
  versionFull := bytes "1.0.0"
  versionMajor := 1
  versionMinor := 0
  versionPatch := 0
  versionShort := bytes "1.0.0"

/-- The members after construction and the socket set-up of `run`: one
disconnected consumer for each rank. -/
def initial (config : EigerFanConfig) : EigerFan where
  config := config
  consumers := List.replicate config.numConsumers.toNat ⟨0, []⟩
  forwardSocket := []
  controlSocket := []
  rxSocket := ⟨[], false⟩
  jsonDocument := .null
  more := 0
  killRequested := false
  state := .waitingConsumers
  currentSeries := 0
  currentConsumerIndexToSendTo := 0
  configuredAcquisitionID := []
  currentAcquisitionID := []
  lastFrameSent := 0
  messagesReceived := 0
  numFramesSent := 0
  numFramesConsumed := List.replicate config.numConsumers.toNat 0
  configuredOffset := 0
  currentOffset := 0
  numConnectedForwardingSockets := 0
  forwardStream := false
  devShmCache := false
  files := fun _ => none
  fileCalls := 0

/-- Append to what a connected consumer was sent. -/
def EigerConsumer.send (parts : List (Bytes × Bool)) (c : EigerConsumer) : EigerConsumer :=
  if 0 < c.connected then { c with sendSocket := c.sendSocket ++ parts } else c

namespace EigerFan

/-- `consumers.at(rank)`: no result where it throws. -/
def consumerAt (s : EigerFan) (rank : Int) : Option EigerConsumer :=
  if 0 ≤ rank then s.consumers[rank.toNat]? else none

/-- Both tests in front of a send on the forwarding socket. -/
def forwardOpen (s : EigerFan) : Prop :=
  s.forwardStream = true ∧ 0 < s.numConnectedForwardingSockets

instance (s : EigerFan) : Decidable s.forwardOpen :=
  inferInstanceAs (Decidable (_ ∧ _))

/-- Send flagged parts on the forwarding socket, if it is open. -/
def forward (parts : List (Bytes × Bool)) (s : EigerFan) : EigerFan :=
  if s.forwardOpen then { s with forwardSocket := s.forwardSocket ++ parts } else s

/-- Send flagged parts to one rank, if it is connected. No result where
`consumers.at` throws. -/
def sendTo (rank : Int) (parts : List (Bytes × Bool)) (s : EigerFan) : Option EigerFan :=
  (s.consumerAt rank).map fun _ =>
    { s with consumers := s.consumers.modify rank.toNat (EigerConsumer.send parts) }

/-- One part on the forwarding socket and then to the dispatched consumer. -/
def sendToSingle (message : Bytes) (sndmore : Bool) (s : EigerFan) : EigerFan × Bool :=
  let forwarded := s.forward [(message, sndmore)]
  match forwarded.sendTo forwarded.currentConsumerIndexToSendTo [(message, sndmore)] with
  | none => (forwarded, false)
  | some sent => (sent, true)

/-- The final and the temporary path of a cached message. -/
def cachePath (s : EigerFan) (filename : Bytes) : Bytes :=
  devShmPath ++ bytes "/" ++ s.currentAcquisitionID ++ bytes "/" ++ filename

def tmpPath (path : Bytes) : Bytes := path ++ bytes ".tmp"

/-- `open` without `O_TRUNC`, `write` of what it managed, and `rename`. A
failed call is logged and the next one is still made. -/
def writeCalls (calls : FileCalls) (path message : Bytes)
    (files : Bytes → Option Bytes) : Bytes → Option Bytes :=
  let opened := if calls.openFile then
      Function.update files (tmpPath path) (some ((files (tmpPath path)).getD []))
    else files
  let written := match calls.openFile, calls.written with
    | true, some count => Function.update opened (tmpPath path)
        ((opened (tmpPath path)).map fun old =>
          message.take count ++ old.drop (message.take count).length)
    | _, _ => opened
  match calls.rename, written (tmpPath path) with
  | true, some content =>
      Function.update (Function.update written path (some content)) (tmpPath path) none
  | _, _ => written

/-- `WriteMessageToFile`; the flag is false when `create_directories` throws. -/
def writeMessageToFile (env : Environment) (message filename : Bytes) (s : EigerFan) :
    EigerFan × Bool :=
  if s.devShmCache then
    let calls := env.fileSystem s.fileCalls
    if calls.createDirectories then
      ({ s with
          files := writeCalls calls (s.cachePath filename) message s.files
          fileCalls := s.fileCalls + 1 }, true)
    else ({ s with fileCalls := s.fileCalls + 1 }, false)
  else (s, true)

end EigerFan

end Eiger.Fan
