import EigerDetector.Decoder.State

/-! What the decoder does with each part of a message. A failed assertion of the
JSON document ends the process: there is no result then. -/
namespace Eiger.Decoder

open CharArrays FixedWidth Rapidjson

/-- The parser for the text of a part. -/
abbrev Parser := Bytes → Option Value

/-- Which part of a message of that kind goes into a frame buffer. -/
def Allocates (parent : EigerMessageParentType) (part : Int) : Prop :=
  (parent = .imageData ∧ part = imageDataBlobPart) ∨
    (parent = .imageData ∧ part = imageDataAppendixPart) ∨
    (parent = .global ∧ part = globalDetectorConfigPart) ∨
    (parent = .global ∧ part = globalFlatfieldDataPart) ∨
    (parent = .global ∧ part = globalMaskDataPart) ∨
    (parent = .global ∧ part = globalCountrateDataPart) ∨
    (parent = .global ∧ part = globalAppendixPart)

instance (parent : EigerMessageParentType) (part : Int) : Decidable (Allocates parent part) :=
  inferInstanceAs (Decidable (_ ∨ _))

/-- Where the next part is copied to. -/
inductive Destination where
  | rawBuffer
  | framePayload

/-- Shape and data type in the header of a flatfield, a mask or a countrate. -/
def readDataShape (shapeValue : Value) (h : FrameHeader) : Option FrameHeader :=
  match shapeValue.elements? with
  | some (s0 :: s1 :: _) => do
      let x ← s0.getInt
      let y ← s1.getInt
      pure { h with shapeSizeX := toUInt32 x, shapeSizeY := toUInt32 y, shapeSizeZ := 0 }
  | _ => some { h with shapeSizeX := 0, shapeSizeY := 0, shapeSizeZ := 0 }

/-- `strncpy` and the terminator after it. -/
def readDataType (doc : Value) (h : FrameHeader) : Option FrameHeader := do
  let type ← (doc.member dataTypeKey).bind Value.getString
  pure { h with dataType := (strncpy 8 type).set 7 0 }

def readDataHeader (doc : Value) (h : FrameHeader) : Option FrameHeader := do
  let shapeValue ← doc.member shapeKey
  let h ← readDataShape shapeValue h
  readDataType doc h

/-- The first two entries of the shape of an image. -/
def readTwoSizes (elements : List Value) (h : FrameHeader) : Option FrameHeader :=
  match elements with
  | s0 :: s1 :: _ => do
      let x ← s0.getInt
      let y ← s1.getInt
      pure { h with shapeSizeX := toUInt32 x, shapeSizeY := toUInt32 y, shapeSizeZ := 0 }
  | _ => some h

def readThreeSizes (elements : List Value) (h : FrameHeader) : Option FrameHeader :=
  match elements with
  | s0 :: s1 :: s2 :: _ => do
      let x ← s0.getInt
      let y ← s1.getInt
      let z ← s2.getInt
      pure { h with
        shapeSizeX := toUInt32 x, shapeSizeY := toUInt32 y, shapeSizeZ := toUInt32 z }
  | _ => some h

/-- A shape that is no array is logged and leaves the sizes alone. -/
def readImageShape (shapeValue : Value) (h : FrameHeader) : Option FrameHeader :=
  match shapeValue.elements? with
  | some elements => do
      let h ← readTwoSizes elements h
      readThreeSizes elements h
  | none => some h

/-- Part 2 of an image: its dimensions and encoding. -/
def readImaged (doc : Value) (h : FrameHeader) : Option FrameHeader := do
  let shapeValue ← doc.member shapeKey
  let h ← readImageShape shapeValue h
  let h ← readDataType doc h
  let encoding ← (doc.member encodingKey).bind Value.getString
  let size ← (doc.member sizeKey).bind Value.getInt64
  pure { h with encoding := (strncpy 11 encoding).set 10 0, sizeInHeader := toUInt64 size }

/-- Part 4 of an image: its times. -/
def readTimes (doc : Value) (h : FrameHeader) : Option FrameHeader := do
  let start ← (doc.member startTimeKey).bind Value.getInt64
  let stop ← (doc.member stopTimeKey).bind Value.getInt64
  let real ← (doc.member realTimeKey).bind Value.getInt64
  pure { h with
    startTime := toUInt64 start, stopTime := toUInt64 stop, realTime := toUInt64 real }

namespace EigerFrameDecoder

variable (parse : Parser)

/-- `get_next_message_buffer`. -/
def getNextMessageBuffer (d : EigerFrameDecoder) : EigerFrameDecoder × Destination :=
  if Allocates d.currentParentMessageType d.currentMessagePart then
    (d.allocateNextFrameBuffer, .framePayload)
  else (d, .rawBuffer)

/-- Parse the first bytes of the raw buffer, up to a NUL. A text that does not
parse leaves the document as it was. -/
def parseRaw (bytesReceived : Nat) (d : EigerFrameDecoder) : EigerFrameDecoder :=
  match parse (cString (d.currentRawBuffer.load bytesReceived)) with
  | none => d
  | some doc => { d with jsonDocument := doc }

/-- Change the header with what the document says. -/
def readHeader (read : Value → FrameHeader → Option FrameHeader) (d : EigerFrameDecoder) :
    Option EigerFrameDecoder :=
  (read d.jsonDocument d.currentHeader).map fun h => { d with currentHeader := h }

def setDataSize (bytesReceived : Nat) (d : EigerFrameDecoder) : EigerFrameDecoder :=
  { d with currentHeader := { d.currentHeader with dataSize := toUInt32 bytesReceived } }

/-- The header in front of a flatfield, a mask or a countrate. -/
def processDataHeader (type : EigerMessageType) (bytesReceived : Nat) (d : EigerFrameDecoder) :
    Option EigerFrameDecoder :=
  ({ d with currentMessageType := type }.parseRaw parse bytesReceived).readHeader readDataHeader

/-- `process_global_header_message`. -/
def processGlobalHeaderMessage (bytesReceived : Nat) (d : EigerFrameDecoder) :
    Option EigerFrameDecoder :=
  if d.currentMessagePart = globalDetectorNonePart then d.allocateNextFrameBuffer.sendBuffer
  else if d.currentMessagePart = globalDetectorConfigPart then
    (d.setDataSize bytesReceived).sendBuffer
  else if d.currentMessagePart = globalFlatfieldHeaderPart then
    d.processDataHeader parse .globalHeaderFlatfield bytesReceived
  else if d.currentMessagePart = globalFlatfieldDataPart then
    (d.setDataSize bytesReceived).sendBuffer
  else if d.currentMessagePart = globalMaskHeaderPart then
    d.processDataHeader parse .globalHeaderMask bytesReceived
  else if d.currentMessagePart = globalMaskDataPart then
    (d.setDataSize bytesReceived).sendBuffer
  else if d.currentMessagePart = globalCountrateHeaderPart then
    d.processDataHeader parse .globalHeaderCountrate bytesReceived
  else if d.currentMessagePart = globalCountrateDataPart then
    (d.setDataSize bytesReceived).sendBuffer
  else if d.currentMessagePart = globalAppendixPart then
    ({ d with currentMessageType := .globalHeaderAppendix }.setDataSize bytesReceived).sendBuffer
  else some d

/-- `process_image_message`. -/
def processImageMessage (bytesReceived : Nat) (d : EigerFrameDecoder) :
    Option EigerFrameDecoder :=
  if d.currentMessagePart = imageDataImagedPart then
    (d.parseRaw parse bytesReceived).readHeader readImaged
  else if d.currentMessagePart = imageDataBlobPart then some (d.setDataSize bytesReceived)
  else if d.currentMessagePart = imageDataTimePart then
    ((d.parseRaw parse bytesReceived).readHeader readTimes).bind sendBuffer
  else if d.currentMessagePart = imageDataAppendixPart then
    ({ d with currentMessageType := .imageAppendix }.setDataSize bytesReceived).sendBuffer
  else some d

/-- `process_end_message`. -/
def processEndMessage (d : EigerFrameDecoder) : Option EigerFrameDecoder :=
  d.allocateNextFrameBuffer.sendBuffer

def setSeries (series : Int) (d : EigerFrameDecoder) : EigerFrameDecoder :=
  { d with currentHeader := { d.currentHeader with series := toUInt32 series } }

/-- `strncpy` of the acquisition ID, without a terminator after it. -/
def setAcquisitionID (acqID : Bytes) (d : EigerFrameDecoder) : EigerFrameDecoder :=
  { d with currentHeader := { d.currentHeader with acquisitionID := strncpy 256 acqID } }

/-- Get the acquisition ID if it exists. -/
def findAcquisitionID (doc : Value) (d : EigerFrameDecoder) : Option EigerFrameDecoder := do
  let found ← doc.hasMember acquisitionIDKey
  if found then
    let acqID ← (doc.member acquisitionIDKey).bind Value.getString
    pure (d.setAcquisitionID acqID)
  else pure d

/-- The detail of a global header decides how many parts to expect. Without
detail the header is sent at once. -/
def expectHeaderParts (hdetail : Bytes) (bytesReceived : Nat) (d : EigerFrameDecoder) :
    Option EigerFrameDecoder :=
  if hdetail = headerDetailNone then
    ({ d with currentMessageType := .globalHeaderNone }.processGlobalHeaderMessage parse
      bytesReceived).map fun sent : EigerFrameDecoder =>
        { sent with numHeaderMessagesToExpect := globalDetectorNonePart }
  else if hdetail = headerDetailBasic then
    some { d with
      currentMessageType := .globalHeaderConfig
      numHeaderMessagesToExpect := globalDetectorConfigPart }
  else
    some { d with
      currentMessageType := .globalHeaderConfig
      numHeaderMessagesToExpect := globalCountrateDataPart }

/-- Part 1 of a global header. -/
def startGlobalHeader (doc : Value) (bytesReceived : Nat) (d : EigerFrameDecoder) :
    Option EigerFrameDecoder := do
  let series ← (doc.member seriesKey).bind Value.getInt
  let hdetail ← (doc.member headerDetailKey).bind Value.getString
  let d ← ({ d with currentParentMessageType := .global, framesAllocated := 0 }.setSeries
    series).expectHeaderParts parse hdetail bytesReceived
  d.findAcquisitionID doc

/-- Part 1 of an image. -/
def startImage (doc : Value) (d : EigerFrameDecoder) : Option EigerFrameDecoder := do
  let frame ← (doc.member frameKey).bind Value.getInt
  let series ← (doc.member seriesKey).bind Value.getInt
  let hash ← (doc.member hashKey).bind Value.getString
  { d with
    currentParentMessageType := .imageData
    currentMessageType := .imageData
    currentFrameNumber := frame
    currentHeader := { d.currentHeader with
      frameNumber := frame
      series := toUInt32 series
      hash := (strncpy 33 hash).set 32 0 } }.findAcquisitionID doc

/-- The end of a series, which must carry an acquisition ID. -/
def startEnd (doc : Value) (d : EigerFrameDecoder) : Option EigerFrameDecoder := do
  let series ← (doc.member seriesKey).bind Value.getInt
  let acqID ← (doc.member acquisitionIDKey).bind Value.getString
  let d := ({ d with
    currentParentMessageType := .endOfSeries
    currentMessageType := .endOfStream }.setSeries series).setAcquisitionID acqID
  d.processEndMessage

/-- The first part says what kind of message it is. A text that does not parse and
an unknown kind are only logged. -/
def processFirstPart (bytesReceived : Nat) (d : EigerFrameDecoder) : Option EigerFrameDecoder :=
  match parse (cString (d.currentRawBuffer.load bytesReceived)) with
  | none => some d
  | some doc => do
      let htype ← (doc.member headerTypeKey).bind Value.getString
      let d := { d with jsonDocument := doc }
      if htype = globalHeaderType then d.startGlobalHeader parse doc bytesReceived
      else if htype = imageHeaderType then d.startImage doc
      else if htype = endHeaderType then d.startEnd doc
      else some d

/-- `currentMessagePart++`; past the expected parts of a global header comes its
appendix. -/
def advance (d : EigerFrameDecoder) : EigerFrameDecoder :=
  let next := d.currentMessagePart + 1
  { d with currentMessagePart :=
      if d.currentParentMessageType = .global ∧ next > d.numHeaderMessagesToExpect then
        globalAppendixPart
      else next }

/-- `process_message`. -/
def processMessage (bytesReceived : Nat) (d : EigerFrameDecoder) : Option EigerFrameDecoder :=
  let processed :=
    if d.currentMessagePart = 1 then d.processFirstPart parse bytesReceived
    else if d.currentMessageType = .imageData then d.processImageMessage parse bytesReceived
    else if d.currentMessageType = .endOfStream then some d
    else d.processGlobalHeaderMessage parse bytesReceived
  processed.map advance

/-- `frame_meta_data`; the flag is the first bit of the meta data. -/
def frameMetaData (eof : Bool) (d : EigerFrameDecoder) : EigerFrameDecoder :=
  if eof then
    { d with
      currentMessagePart := 1
      currentHeader := { d.currentHeader with
        frameNumber := -1
        acquisitionID := d.currentHeader.acquisitionID.set 0 0
        series := 0 } }
  else d

/-- The receiver copies a part to where the decoder wants it. -/
def copyPart (part : Bytes) (d : EigerFrameDecoder) : Destination → Option EigerFrameDecoder
  | .rawBuffer => some { d with currentRawBuffer := d.currentRawBuffer.store part }
  | .framePayload => (d.pool.storePayload part).map fun pool => { d with pool := pool }

/-- One part of a message, as the receiver drives the decoder. -/
def receivePart (part : Bytes) (last : Bool) (d : EigerFrameDecoder) :
    Option EigerFrameDecoder := do
  let (allocated, destination) := d.getNextMessageBuffer
  let copied ← allocated.copyPart part destination
  let processed ← copied.processMessage parse part.length
  pure (processed.frameMetaData last)

end EigerFrameDecoder

end Eiger.Decoder
