import EigerDetector.Library.CharArray

/-! Names, message types and the frame header shared by the fan, the frame
decoder and the process plugin. -/
namespace Eiger

open CharArrays

/-- The bytes of a text constant of the source; all of them are ASCII. -/
def bytes (text : String) : Bytes := text.toList.map fun c => UInt8.ofNat c.toNat

def globalHeaderType : Bytes := bytes "dheader-1.0"
def imageHeaderType : Bytes := bytes "dimage-1.0"
def endHeaderType : Bytes := bytes "dseries_end-1.0"

def headerDetailAll : Bytes := bytes "all"
def headerDetailBasic : Bytes := bytes "basic"
def headerDetailNone : Bytes := bytes "none"

def headerTypeKey : Bytes := bytes "htype"
def headerDetailKey : Bytes := bytes "header_detail"
def seriesKey : Bytes := bytes "series"
def frameKey : Bytes := bytes "frame"
def shapeKey : Bytes := bytes "shape"
def dataTypeKey : Bytes := bytes "type"
def hashKey : Bytes := bytes "hash"
def encodingKey : Bytes := bytes "encoding"
def sizeKey : Bytes := bytes "size"
def startTimeKey : Bytes := bytes "start_time"
def stopTimeKey : Bytes := bytes "stop_time"
def realTimeKey : Bytes := bytes "real_time"

def acquisitionIDKey : Bytes := bytes "acqID"

/-- The value of the global `more` after a part that others follow. -/
def moreMessages : Int := 1

def controlCmdKey : Bytes := bytes "msg_val"
def controlIDKey : Bytes := bytes "id"
def controlParamKey : Bytes := bytes "params"

def controlStatus : Bytes := bytes "status"
def controlReqConfig : Bytes := bytes "request_configuration"
def controlReqVersion : Bytes := bytes "request_version"
def controlReqCommands : Bytes := bytes "request_commands"
def controlConfigure : Bytes := bytes "configure"
def controlKill : Bytes := bytes "kill"
def controlClose : Bytes := bytes "close"
def controlOffset : Bytes := bytes "offset"
def controlAcqID : Bytes := bytes "acqid"
def controlFwdStream : Bytes := bytes "forward_stream"
def controlDevShmCache : Bytes := bytes "dev_shm_cache"
def controlBlockSize : Bytes := bytes "block_size"

inductive EigerFanState where
  | waitingConsumers
  | waitingStream
  | dstrHeader
  | dstrImage
  | dstrEnd
  | killRequested
  deriving DecidableEq, Repr

/-- The text reported for a state. -/
def EigerFanState.getStateString : EigerFanState → Bytes
  | waitingConsumers => bytes "WAITING_CONSUMERS"
  | waitingStream => bytes "WAITING_STREAM"
  | dstrHeader => bytes "DSTR_HEADER"
  | dstrImage => bytes "DSTR_IMAGE"
  | dstrEnd => bytes "DSTR_END"
  | killRequested => bytes "KILL_REQUESTED"

def devShmPath : Bytes := bytes "/dev/shm/eiger"

inductive EigerMessageType where
  | globalHeaderNone
  | globalHeaderConfig
  | globalHeaderFlatfield
  | globalHeaderMask
  | globalHeaderCountrate
  | globalHeaderAppendix
  | imageData
  | imageAppendix
  | endOfStream
  deriving DecidableEq, Repr

inductive EigerMessageParentType where
  | global
  | imageData
  | endOfSeries
  deriving DecidableEq, Repr

/-- The header in front of every buffer handed downstream. The integer fields
hold what is left after the stores into their widths. -/
structure FrameHeader where
  messageType : EigerMessageType
  frameNumber : Int
  series : Nat
  shapeSizeX : Nat
  shapeSizeY : Nat
  shapeSizeZ : Nat
  startTime : Nat
  stopTime : Nat
  realTime : Nat
  dataSize : Nat
  sizeInHeader : Nat
  hash : CharArray 33
  encoding : CharArray 11
  dataType : CharArray 8
  acquisitionID : CharArray 256

def imageDataImagedPart : Int := 2
def imageDataBlobPart : Int := 3
def imageDataTimePart : Int := 4
def imageDataAppendixPart : Int := 5

def globalDetectorNonePart : Int := 1
def globalDetectorConfigPart : Int := 2
def globalFlatfieldHeaderPart : Int := 3
def globalFlatfieldDataPart : Int := 4
def globalMaskHeaderPart : Int := 5
def globalMaskDataPart : Int := 6
def globalCountrateHeaderPart : Int := 7
def globalCountrateDataPart : Int := 8
def globalAppendixPart : Int := 9

/-- The three kinds of stream message are told apart by their `htype`. -/
theorem headerTypes_distinct :
    globalHeaderType ≠ imageHeaderType ∧ globalHeaderType ≠ endHeaderType ∧
      imageHeaderType ≠ endHeaderType := by
  refine ⟨?_, ?_, ?_⟩ <;> decide

theorem headerDetails_distinct :
    headerDetailNone ≠ headerDetailBasic ∧ headerDetailNone ≠ headerDetailAll ∧
      headerDetailBasic ≠ headerDetailAll := by
  refine ⟨?_, ?_, ?_⟩ <;> decide

end Eiger
