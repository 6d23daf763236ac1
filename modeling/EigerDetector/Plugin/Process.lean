import EigerDetector.Decoder.State
import Mathlib.Data.List.Infix

/-! The process plugin. It reads the header in front of a buffer, publishes what the
header says, and passes an image on as a frame. -/
namespace Eiger.ProcessPlugin

open CharArrays Rapidjson Decoder

inductive CompressionType where
  | noCompression
  | lz4
  | bslz4
  deriving DecidableEq

inductive DataType where
  | raw8bit
  | raw16bit
  | raw32bit
  deriving DecidableEq

/-- What is known about a frame; nothing where nothing was set. -/
structure FrameMetaData where
  datasetName : Bytes
  compressionType : Option CompressionType
  dataType : Option DataType
  dimensions : List Nat
  acquisitionID : Bytes
  parameters : List (Bytes × Nat)

/-- A frame whose image lies behind the header in its buffer. -/
structure Frame where
  buffer : FrameBuffer
  imageSize : Nat
  metaData : FrameMetaData
  frameNumber : Int

/-- The bytes of the image. -/
def Frame.image (frame : Frame) : Bytes := frame.buffer.payload.load frame.imageSize

/-- The members that were added to a `JsonDict`, in that order. -/
structure JsonDict where
  members : List (Bytes × Value)

def JsonDict.add (key : Bytes) (value : Value) (json : JsonDict) : JsonDict :=
  ⟨json.members ++ [(key, value)]⟩

/-- What the framework provides: the name of the plugin, and the text of a `JsonDict`. -/
structure Framework where
  name : Bytes
  str : JsonDict → Bytes

inductive Output where
  | publishMeta (name item data header : Bytes)
  | push (frame : Frame)

/-- A `std::string` made of a character array. It needs a terminator. -/
def readText {size : Nat} (a : CharArray size) : Option Bytes :=
  if a.Terminated then some a.text else none

theorem readText_strncpy {size : Nat} {src : Bytes} (hNul : NulFree src)
    (h : src.length < size) : readText (strncpy size src) = some src := by
  rw [readText, if_pos (strncpy_terminated h), text_strncpy hNul h]

theorem readText_strncpy_terminated {size : Nat} {src : Bytes} (hNul : NulFree src)
    (h : src.length ≤ size) : readText ((strncpy (size + 1) src).set size 0) = some src := by
  rw [readText, if_pos (terminated_set_zero _ (Nat.lt_succ_self size)),
    text_strncpy_terminated hNul, List.take_of_length_le h]

def compressedSizeKey : Bytes := bytes "compressed_size"

/-- `setFrameEncoding`. -/
def setFrameEncoding (header : FrameHeader) (frame : FrameMetaData) : Option FrameMetaData := do
  let encoding ← readText header.encoding
  if bytes "lz4" <:+: encoding then
    if bytes "bs" <:+: encoding then pure { frame with compressionType := some .bslz4 }
    else pure { frame with compressionType := some .lz4 }
  else pure { frame with compressionType := some .noCompression }

/-- `setFrameDataType`. An unknown type is only logged. -/
def setFrameDataType (header : FrameHeader) (frame : FrameMetaData) : Option FrameMetaData := do
  let dataType ← readText header.dataType
  if dataType = bytes "uint8" then pure { frame with dataType := some .raw8bit }
  else if dataType = bytes "uint16" then pure { frame with dataType := some .raw16bit }
  else if dataType = bytes "uint32" then pure { frame with dataType := some .raw32bit }
  else pure frame

/-- `setFrameDimensions`. -/
def setFrameDimensions (header : FrameHeader) (frame : FrameMetaData) : FrameMetaData :=
  { frame with dimensions :=
      (if header.shapeSizeZ > 0 then [header.shapeSizeZ] else []) ++
        [header.shapeSizeY, header.shapeSizeX] }

/-- The meta data of an image. -/
def imageMetaData (header : FrameHeader) : Option FrameMetaData := do
  let frame : FrameMetaData := ⟨bytes "data", none, none, [], [], []⟩
  let frame ← setFrameEncoding header frame
  let frame ← setFrameDataType header frame
  let acquisitionID ← readText header.acquisitionID
  pure { setFrameDimensions header frame with
    acquisitionID := acquisitionID
    parameters := [(compressedSizeKey, header.dataSize)] }

def shapeValue (header : FrameHeader) : Value :=
  .array [.int header.shapeSizeX, .int header.shapeSizeY]

/-- The members published with an image, after its acquisition ID. -/
def imageJson (header : FrameHeader) (json : JsonDict) : Option JsonDict := do
  let dataType ← readText header.dataType
  let encoding ← readText header.encoding
  let hash ← readText header.hash
  pure (((((((((((json.add frameKey (.int header.frameNumber)).add
    seriesKey (.int header.series)).add
    sizeKey (.int header.sizeInHeader)).add
    startTimeKey (.int header.startTime)).add
    stopTimeKey (.int header.stopTime)).add
    realTimeKey (.int header.realTime)).add
    shapeKey (shapeValue header)).add
    dataTypeKey (.string dataType)).add
    encodingKey (.string encoding)).add
    hashKey (.string hash)))

section Messages

variable (framework : Framework) (buffer : FrameBuffer) (json : JsonDict)

/-- The bytes behind the header. -/
def dataOf (buffer : FrameBuffer) : Bytes := buffer.payload.load buffer.header.dataSize

def processImage : Option (List Output) := do
  let metaData ← imageMetaData buffer.header
  let json ← imageJson buffer.header json
  pure [.publishMeta framework.name (bytes "eiger-imagedata") (framework.str json)
      (framework.str json),
    .push ⟨buffer, buffer.header.dataSize, metaData, buffer.header.frameNumber⟩]

/-- A flatfield, a mask or a countrate. -/
def processDataMessage (item : Bytes) : Option (List Output) := do
  let dataType ← readText buffer.header.dataType
  let json := (json.add shapeKey (shapeValue buffer.header)).add dataTypeKey (.string dataType)
  pure [.publishMeta framework.name item (dataOf buffer) (framework.str json)]

/-- `process_frame`, for a frame whose image pointer is still at the header. -/
def processFrame : Option (List Output) := do
  let header := buffer.header
  let acqID ← readText header.acquisitionID
  let json : JsonDict := ⟨[(acquisitionIDKey, .string acqID)]⟩
  match header.messageType with
  | .imageData => processImage framework buffer json
  | .imageAppendix =>
      let json := json.add frameKey (.int header.frameNumber)
      pure [.publishMeta framework.name (bytes "eiger-imageappendix") (dataOf buffer)
        (framework.str json)]
  | .globalHeaderNone =>
      let json := json.add seriesKey (.int header.series)
      pure [.publishMeta framework.name (bytes "eiger-globalnone") (framework.str json)
        (framework.str json)]
  | .globalHeaderConfig =>
      let json := json.add seriesKey (.int header.series)
      pure [.publishMeta framework.name (bytes "eiger-globalconfig") (dataOf buffer)
        (framework.str json)]
  | .globalHeaderFlatfield =>
      processDataMessage framework buffer json (bytes "eiger-globalflatfield")
  | .globalHeaderMask => processDataMessage framework buffer json (bytes "eiger-globalmask")
  | .globalHeaderCountrate =>
      processDataMessage framework buffer json (bytes "eiger-globalcountrate")
  | .globalHeaderAppendix =>
      pure [.publishMeta framework.name (bytes "eiger-headerappendix") (dataOf buffer)
        (framework.str json)]
  | .endOfStream =>
      let json := json.add seriesKey (.int header.series)
      pure [.publishMeta framework.name (bytes "eiger-end") [] (framework.str json)]

end Messages

end Eiger.ProcessPlugin
