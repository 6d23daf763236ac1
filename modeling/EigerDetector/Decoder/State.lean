import EigerDetector.Definitions
import EigerDetector.Json
import Mathlib.Logic.Function.Basic

/-! The members of the frame decoder, and how it gets and gives away buffers. -/
namespace Eiger.Decoder

open CharArrays FixedWidth Rapidjson

/-- A frame buffer: a header, and the memory behind it. -/
structure FrameBuffer where
  header : FrameHeader
  payload : Memory

/-- Where `current_frame_buffer_` points. -/
inductive Location where
  | null
  | dropped
  | shared (id : Int)
  deriving DecidableEq

/-- A call of `ready_callback_`, with the buffer as it is at that time. -/
structure ReadyCall where
  bufferId : Int
  frameNumber : Int
  buffer : FrameBuffer

/-- The members that have to do with frame buffers. -/
structure BufferPool where
  emptyBufferQueue : List Int
  sharedBuffers : Int → FrameBuffer
  droppedFrameBuffer : FrameBuffer
  currentFrameBuffer : Location
  currentFrameBufferId : Int
  droppingFrameData : Bool
  framesDropped : Nat
  readyCalls : List ReadyCall

structure EigerFrameDecoder where
  pool : BufferPool
  framesAllocated : Nat
  currentRawBuffer : Memory
  currentFrameNumber : Int
  currentMessagePart : Int
  currentMessageType : EigerMessageType
  currentParentMessageType : EigerMessageParentType
  numHeaderMessagesToExpect : Int
  jsonDocument : Value
  currentHeader : FrameHeader

/-- What memory the constructor does not write holds. -/
structure Uninitialised where
  rawBuffer : Memory
  droppedBuffer : FrameBuffer
  sharedBuffers : Int → FrameBuffer
  header : FrameHeader

/-- The members after construction, with the ids of the free buffers. -/
def initial (garbage : Uninitialised) (ids : List Nat) : EigerFrameDecoder where
  pool := {
    emptyBufferQueue := ids.map Int.ofNat
    sharedBuffers := garbage.sharedBuffers
    droppedFrameBuffer := garbage.droppedBuffer
    currentFrameBuffer := .null
    currentFrameBufferId := -1
    droppingFrameData := false
    framesDropped := 0
    readyCalls := [] }
  framesAllocated := 0
  currentRawBuffer := garbage.rawBuffer
  currentFrameNumber := -1
  currentMessagePart := 1
  currentMessageType := .globalHeaderNone
  currentParentMessageType := .global
  numHeaderMessagesToExpect := 1
  jsonDocument := .null
  currentHeader := garbage.header

namespace BufferPool

/-- A buffer for the next data: the one that is held, or the first free one. If
there is none, the data goes to a buffer of its own and is dropped. -/
def allocate (p : BufferPool) : BufferPool :=
  if p.currentFrameBufferId = -1 then
    match p.emptyBufferQueue with
    | [] => { p with
        currentFrameBuffer := .dropped
        droppingFrameData := true
        framesDropped := p.framesDropped + 1 }
    | id :: queue => { p with
        currentFrameBufferId := id
        emptyBufferQueue := queue
        currentFrameBuffer := .shared id
        droppingFrameData := false }
  else p

/-- The buffer `current_frame_buffer_` points to; none for the null pointer. -/
def frameBuffer (p : BufferPool) : Option FrameBuffer :=
  match p.currentFrameBuffer with
  | .null => none
  | .dropped => some p.droppedFrameBuffer
  | .shared id => some (p.sharedBuffers id)

/-- Change the buffer `current_frame_buffer_` points to. -/
def setFrameBuffer (buffer : FrameBuffer) (p : BufferPool) : BufferPool :=
  match p.currentFrameBuffer with
  | .null => p
  | .dropped => { p with droppedFrameBuffer := buffer }
  | .shared id => { p with sharedBuffers := Function.update p.sharedBuffers id buffer }

/-- Copy data behind the header of the buffer. -/
def storePayload (data : Bytes) (p : BufferPool) : Option BufferPool :=
  p.frameBuffer.map fun buffer =>
    p.setFrameBuffer { buffer with payload := buffer.payload.store data }

/-- Copy a header into the buffer and give the buffer away, unless data is dropped.
No result where the pointer is null. -/
def send (header : FrameHeader) (frameNumber : Int) (p : BufferPool) : Option BufferPool :=
  if p.droppingFrameData then some p
  else p.frameBuffer.map fun buffer =>
    { p.setFrameBuffer { buffer with header := header } with
      readyCalls := p.readyCalls ++
        [⟨p.currentFrameBufferId, frameNumber, { buffer with header := header }⟩]
      currentFrameBufferId := -1 }

end BufferPool

/-- The resets of the header after it was sent. -/
def clearHeader (h : FrameHeader) : FrameHeader :=
  { h with
    dataSize := 0
    shapeSizeX := 0
    shapeSizeY := 0
    shapeSizeZ := 0
    startTime := 0
    stopTime := 0
    realTime := 0
    sizeInHeader := 0
    hash := h.hash.set 0 0
    dataType := h.dataType.set 0 0
    encoding := h.encoding.set 0 0 }

namespace EigerFrameDecoder

/-- `allocate_next_frame_buffer`. -/
def allocateNextFrameBuffer (d : EigerFrameDecoder) : EigerFrameDecoder :=
  { d with
    pool := d.pool.allocate
    framesAllocated :=
      if d.pool.currentFrameBufferId = -1 ∧ d.pool.emptyBufferQueue ≠ [] then
        d.framesAllocated + 1
      else d.framesAllocated }

/-- The header as `send_buffer` copies it. -/
def sentHeader (d : EigerFrameDecoder) : FrameHeader :=
  { d.currentHeader with messageType := d.currentMessageType }

/-- `send_buffer`. -/
def sendBuffer (d : EigerFrameDecoder) : Option EigerFrameDecoder :=
  (d.pool.send d.sentHeader d.currentFrameNumber).map fun pool =>
    if d.pool.droppingFrameData then d
    else { d with
      pool := pool
      currentFrameNumber := -1
      currentHeader := clearHeader d.sentHeader }

end EigerFrameDecoder

end Eiger.Decoder
