import EigerDetector.Decoder.Ownership

/-! What exactly each part of a message makes the decoder hand over. -/
namespace Eiger.Decoder

open CharArrays FixedWidth Rapidjson

namespace BufferPool

variable {p p' q : BufferPool} {part : Bytes} {header : FrameHeader} {frameNumber : Int}

/-- A send with a buffer hands it over with the header, and keeps what is behind it. -/
theorem Ready.sent (h : p.Ready) (hTaken : p.readyCalls = [])
    (hSend : p.send header frameNumber = some p') :
    p'.currentFrameBufferId = -1 ∧ ∃ call, p'.readyCalls = [call] ∧
      call.frameNumber = frameNumber ∧ call.buffer.header = header ∧
      call.buffer.payload = (p.sharedBuffers p.currentFrameBufferId).payload := by
  rw [h.send] at hSend
  cases hSend
  refine ⟨rfl, p.call header frameNumber, ?_, rfl, rfl, rfl⟩
  show p.readyCalls ++ [p.call header frameNumber] = _
  rw [hTaken]
  rfl

theorem Dropping.sent (h : p.Dropping) (hTaken : p.readyCalls = [])
    (hSend : p.send header frameNumber = some p') :
    p'.currentFrameBufferId = -1 ∧ p'.readyCalls = [] := by
  rw [h.send] at hSend
  cases hSend
  exact ⟨h.none_held, hTaken⟩

theorem send_total (h : p.Ready ∨ p.Dropping) (header : FrameHeader) (frameNumber : Int) :
    ∃ p', p.send header frameNumber = some p' := by
  rcases h with hReady | hDropping
  · exact ⟨_, hReady.send header frameNumber⟩
  · exact ⟨_, hDropping.send header frameNumber⟩

theorem allocate_usable (h : p.Consistent) : p.allocate.Ready ∨ p.allocate.Dropping := by
  by_cases hAvailable : p.Available
  · exact .inl (allocate_ready h hAvailable)
  · exact .inr (allocate_dropping hAvailable)

theorem storePayload_total (h : p.Ready ∨ p.Dropping) (part : Bytes) :
    ∃ q, p.storePayload part = some q ∧ (q.Ready ∨ q.Dropping) := by
  rcases h with hReady | hDropping
  · exact ⟨_, hReady.storePayload part, .inl ⟨hReady.1, hReady.2⟩⟩
  · exact ⟨_, hDropping.storePayload part, .inr ⟨hDropping.1, hDropping.2, hDropping.3⟩⟩

/-- A send right after an allocation. -/
theorem allocated_sent (h : p.Consistent) (hTaken : p.readyCalls = [])
    (hSend : p.allocate.send header frameNumber = some p') :
    p'.currentFrameBufferId = -1 ∧ (¬ p.Available → p'.readyCalls = []) ∧
      (p.Available → ∃ call, p'.readyCalls = [call] ∧ call.frameNumber = frameNumber ∧
        call.buffer.header = header) := by
  have hTaken' : p.allocate.readyCalls = [] := by
    rw [p.allocate_frame.1, hTaken]
  by_cases hAvailable : p.Available
  · obtain ⟨hID, call, hCall, hNumber, hHeader, _⟩ :=
      (allocate_ready h hAvailable).sent hTaken' hSend
    exact ⟨hID, fun hNone => absurd hAvailable hNone, fun _ => ⟨call, hCall, hNumber, hHeader⟩⟩
  · obtain ⟨hID, hNone⟩ := (allocate_dropping hAvailable).sent hTaken' hSend
    exact ⟨hID, fun _ => hNone, fun hFree => absurd hFree hAvailable⟩

/-- What an allocation leaves is what a payload is copied to. -/
theorem allocated_store (h : p.Consistent) (hStore : p.allocate.storePayload part = some q) :
    (p.Available → q.Ready ∧
      (q.sharedBuffers q.currentFrameBufferId).payload.load part.length = part) ∧
    (¬ p.Available → q.Dropping) := by
  constructor
  · intro hAvailable
    have hReady := allocate_ready h hAvailable
    rw [hReady.storePayload] at hStore
    cases hStore
    refine ⟨⟨hReady.kept, hReady.location⟩, ?_⟩
    show ((p.allocate.write (putPayload part)).sharedBuffers
      p.allocate.currentFrameBufferId).payload.load part.length = part
    rw [write_self]
    exact Memory.load_store _ _
  · intro hNone
    have hDropping := allocate_dropping hNone
    rw [hDropping.storePayload] at hStore
    cases hStore
    exact ⟨hDropping.dropped, hDropping.location, hDropping.none_held⟩

/-- A send right after a payload was copied to what was allocated for it. -/
theorem stored_sent (h : p.Consistent) (hTaken : p.readyCalls = [])
    (hStore : p.allocate.storePayload part = some q)
    (hSend : q.send header frameNumber = some p') :
    p'.currentFrameBufferId = -1 ∧ (¬ p.Available → p'.readyCalls = []) ∧
      (p.Available → ∃ call, p'.readyCalls = [call] ∧ call.frameNumber = frameNumber ∧
        call.buffer.header = header ∧ call.buffer.payload.load part.length = part) := by
  have hTaken' : q.readyCalls = [] := by
    obtain ⟨_, _, hCalls, _⟩ := storePayload_frame hStore
    rw [hCalls, p.allocate_frame.1, hTaken]
  obtain ⟨hReady, hDropping⟩ := allocated_store h hStore
  by_cases hAvailable : p.Available
  · obtain ⟨hReady, hLoad⟩ := hReady hAvailable
    obtain ⟨hID, call, hCall, hNumber, hHeader, hPayload⟩ := hReady.sent hTaken' hSend
    refine ⟨hID, fun hNone => absurd hAvailable hNone, fun _ => ⟨call, hCall, hNumber, hHeader, ?_⟩⟩
    rw [hPayload]
    exact hLoad
  · obtain ⟨hID, hNone⟩ := (hDropping hAvailable).sent hTaken' hSend
    exact ⟨hID, fun _ => hNone, fun hFree => absurd hFree hAvailable⟩

end BufferPool

/-- The type in front of the data in a part of a global header. -/
def dataPartType (part : Int) : Option EigerMessageType :=
  if part = globalDetectorConfigPart then some .globalHeaderConfig
  else if part = globalFlatfieldDataPart then some .globalHeaderFlatfield
  else if part = globalMaskDataPart then some .globalHeaderMask
  else if part = globalCountrateDataPart then some .globalHeaderCountrate
  else none

/-- The type that a part of a global header announces. -/
def headerPartType (part : Int) : Option EigerMessageType :=
  if part = globalFlatfieldHeaderPart then some .globalHeaderFlatfield
  else if part = globalMaskHeaderPart then some .globalHeaderMask
  else if part = globalCountrateHeaderPart then some .globalHeaderCountrate
  else none

namespace EigerFrameDecoder

variable (parse : Parser) {d : EigerFrameDecoder}

theorem processLater_plain (hPlain : Plain d.currentMessageType) (n : Nat) :
    d.processLater parse n = d.processGlobalHeaderMessage parse n := by
  rw [processLater, if_neg hPlain.1, if_neg hPlain.2]

theorem processLater_data (hPlain : Plain d.currentMessageType) {type : EigerMessageType}
    (hType : dataPartType d.currentMessagePart = some type) (n : Nat) :
    d.processLater parse n = (d.setDataSize n).sendBuffer := by
  rw [processLater_plain parse hPlain]
  unfold dataPartType at hType
  split at hType
  · next hPart =>
      rw [processGlobalHeaderMessage, hPart]
      rfl
  split at hType
  · next hPart =>
      rw [processGlobalHeaderMessage, hPart]
      rfl
  split at hType
  · next hPart =>
      rw [processGlobalHeaderMessage, hPart]
      rfl
  split at hType
  · next hPart =>
      rw [processGlobalHeaderMessage, hPart]
      rfl
  · cases hType

theorem processLater_described (hPlain : Plain d.currentMessageType) {type : EigerMessageType}
    (hType : headerPartType d.currentMessagePart = some type) (n : Nat) :
    d.processLater parse n = d.processDataHeader parse type n := by
  rw [processLater_plain parse hPlain]
  unfold headerPartType at hType
  split at hType
  · next hPart =>
      cases hType
      rw [processGlobalHeaderMessage, hPart]
      rfl
  split at hType
  · next hPart =>
      cases hType
      rw [processGlobalHeaderMessage, hPart]
      rfl
  split at hType
  · next hPart =>
      cases hType
      rw [processGlobalHeaderMessage, hPart]
      rfl
  · cases hType

theorem processLater_appendix (hPlain : Plain d.currentMessageType)
    (hPart : d.currentMessagePart = globalAppendixPart) (n : Nat) :
    d.processLater parse n =
      ({ d with currentMessageType := .globalHeaderAppendix }.setDataSize n).sendBuffer := by
  rw [processLater_plain parse hPlain, processGlobalHeaderMessage, hPart]
  rfl

theorem processLater_image (hType : d.currentMessageType = .imageData) (n : Nat) :
    d.processLater parse n = d.processImageMessage parse n := by
  rw [processLater, if_pos hType]

theorem processLater_imaged (hType : d.currentMessageType = .imageData)
    (hPart : d.currentMessagePart = imageDataImagedPart) (n : Nat) :
    d.processLater parse n = (d.parseRaw parse n).readHeader readImaged := by
  rw [processLater_image parse hType, processImageMessage, if_pos hPart]

theorem processLater_blob (hType : d.currentMessageType = .imageData)
    (hPart : d.currentMessagePart = imageDataBlobPart) (n : Nat) :
    d.processLater parse n = some (d.setDataSize n) := by
  rw [processLater_image parse hType, processImageMessage, hPart]
  rfl

theorem processLater_times (hType : d.currentMessageType = .imageData)
    (hPart : d.currentMessagePart = imageDataTimePart) (n : Nat) :
    d.processLater parse n = ((d.parseRaw parse n).readHeader readTimes).bind sendBuffer := by
  rw [processLater_image parse hType, processImageMessage, hPart]
  rfl

theorem processLater_imageAppendix (hType : d.currentMessageType = .imageData)
    (hPart : d.currentMessagePart = imageDataAppendixPart) (n : Nat) :
    d.processLater parse n =
      ({ d with currentMessageType := .imageAppendix }.setDataSize n).sendBuffer := by
  rw [processLater_image parse hType, processImageMessage, hPart]
  rfl

end EigerFrameDecoder

/-- A part went to a buffer of its own, which was sent with that type. -/
structure SentPart (d e : EigerFrameDecoder) (type : EigerMessageType) (part : Bytes) : Prop where
  counter : e.currentMessagePart = d.currentMessagePart
  sent : e.currentMessageType = type
  parent : e.currentParentMessageType = d.currentParentMessageType
  expected : e.numHeaderMessagesToExpect = d.numHeaderMessagesToExpect
  idle : e.pool.currentFrameBufferId = -1
  silent : ¬ d.pool.Available → e.pool.readyCalls = []
  call : d.pool.Available → ∃ call, e.pool.readyCalls = [call] ∧
    call.frameNumber = d.currentFrameNumber ∧
    call.buffer.header =
      { d.currentHeader with dataSize := toUInt32 part.length, messageType := type } ∧
    call.buffer.payload.load part.length = part

/-- The header of a message was sent without a part behind it. -/
structure SentAlone (d e : EigerFrameDecoder) (type : EigerMessageType) : Prop where
  counter : e.currentMessagePart = d.currentMessagePart
  sent : e.currentMessageType = type
  parent : e.currentParentMessageType = d.currentParentMessageType
  expected : e.numHeaderMessagesToExpect = d.numHeaderMessagesToExpect
  idle : e.pool.currentFrameBufferId = -1
  silent : ¬ d.pool.Available → e.pool.readyCalls = []
  call : d.pool.Available → ∃ call, e.pool.readyCalls = [call] ∧
    call.frameNumber = d.currentFrameNumber ∧
    call.buffer.header = { d.currentHeader with messageType := type }

namespace EigerFrameDecoder

variable {parse : Parser} {d d' : EigerFrameDecoder} {part : Bytes} {last : Bool}

/-- The part is copied to a buffer that is allocated for it, which is sent with that type. -/
def GoesOut (parse : Parser) (type : EigerMessageType) (part : Bytes) (d : EigerFrameDecoder) :
    Prop :=
  Allocates d.currentParentMessageType d.currentMessagePart ∧
    ∀ a, d.accept part = some a → a.processLater parse part.length =
      ({ a with currentMessageType := type }.setDataSize part.length).sendBuffer

/-- A part of a global header that goes behind a header. -/
theorem data_goesOut {type : EigerMessageType} (hParent : d.currentParentMessageType = .global)
    (hPlain : Plain d.currentMessageType) (hData : dataPartType d.currentMessagePart = some type)
    (hType : d.currentMessageType = type) : d.GoesOut parse type part := by
  constructor
  · rw [hParent]
    unfold dataPartType at hData
    unfold Allocates
    split at hData
    · next hAt => simp [hAt]
    split at hData
    · next hAt => simp [hAt]
    split at hData
    · next hAt => simp [hAt]
    split at hData
    · next hAt => simp [hAt]
    · cases hData
  · intro a hAccept
    obtain ⟨hSamePart, hSameType, _⟩ := accept_control hAccept
    rw [← hSameType] at hPlain hType
    rw [← hSamePart] at hData
    rw [processLater_data parse hPlain hData, ← hType]

/-- The appendix of a global header. -/
theorem appendix_goesOut (hPart : d.currentMessagePart = globalAppendixPart)
    (hParent : d.currentParentMessageType = .global) (hPlain : Plain d.currentMessageType) :
    d.GoesOut parse .globalHeaderAppendix part := by
  constructor
  · rw [hParent, hPart]
    decide
  · intro a hAccept
    obtain ⟨hSamePart, hSameType, _⟩ := accept_control hAccept
    rw [← hSameType] at hPlain
    exact processLater_appendix parse hPlain (hSamePart.trans hPart) _

/-- The appendix of an image. -/
theorem imageAppendix_goesOut (hPart : d.currentMessagePart = imageDataAppendixPart)
    (hParent : d.currentParentMessageType = .imageData)
    (hType : d.currentMessageType = .imageData) : d.GoesOut parse .imageAppendix part := by
  constructor
  · rw [hParent, hPart]
    decide
  · intro a hAccept
    obtain ⟨hSamePart, hSameType, _⟩ := accept_control hAccept
    exact processLater_imageAppendix parse (hSameType.trans hType) (hSamePart.trans hPart) _

theorem goesOut_later {type : EigerMessageType} (h : d.GoesOut parse type part) :
    d.currentMessagePart ≠ 1 := by
  intro hFirst
  have hAllocates := h.1
  rw [hFirst] at hAllocates
  exact not_allocates_first _ hAllocates

theorem GoesOut.sent {type : EigerMessageType} (hOut : d.GoesOut parse type part)
    (hConsistent : d.pool.Consistent) (hTaken : d.pool.readyCalls = [])
    (h : d.receivePart parse part last = some d') :
    ∃ e, d' = e.advance.frameMetaData last ∧ SentPart d e type part := by
  have hPart := goesOut_later hOut
  obtain ⟨hAllocates, hProcess⟩ := hOut
  rw [receivePart_later parse hPart] at h
  obtain ⟨a, hAccept, hRest⟩ := Option.bind_eq_some_iff.mp h
  obtain ⟨e, hSend, rfl⟩ := Option.map_eq_some_iff.mp hRest
  rw [hProcess a hAccept] at hSend
  obtain ⟨hSamePart, _, hParent, hExpected, hHeader, hNumber⟩ := accept_control hAccept
  obtain ⟨hPool, hPart', hType', hParent', hExpected', _⟩ := sendBuffer_pool hSend
  have hStore : d.pool.allocate.storePayload part = some a.pool := by
    rcases accept_pool hAccept with ⟨_, hStore⟩ | ⟨hRaw, _⟩
    · exact hStore
    · exact absurd hAllocates hRaw
  obtain ⟨hIdle, hSilent, hCall⟩ := BufferPool.stored_sent hConsistent hTaken hStore hPool
  refine ⟨e, rfl, hPart'.trans hSamePart, hType', hParent'.trans hParent,
    hExpected'.trans hExpected, hIdle, hSilent, fun hAvailable => ?_⟩
  obtain ⟨call, hMade, hFrame, hSent, hPayload⟩ := hCall hAvailable
  refine ⟨call, hMade, hFrame.trans hNumber, ?_, hPayload⟩
  rw [hSent, ← hHeader]
  rfl

theorem sent_alone {type : EigerMessageType} (hType : d.currentMessageType = type)
    (hConsistent : d.pool.Consistent) (hTaken : d.pool.readyCalls = [])
    (h : d.allocateNextFrameBuffer.sendBuffer = some d') : SentAlone d d' type := by
  obtain ⟨hPool, hPart', hType', hParent', hExpected', _⟩ := sendBuffer_pool h
  obtain ⟨hIdle, hSilent, hCall⟩ := BufferPool.allocated_sent hConsistent hTaken hPool
  refine ⟨hPart', hType'.trans hType, hParent', hExpected', hIdle, hSilent, fun hAvailable => ?_⟩
  obtain ⟨call, hMade, hFrame, hSent⟩ := hCall hAvailable
  refine ⟨call, hMade, hFrame, ?_⟩
  rw [hSent, ← hType]
  rfl

/-- A part that is not for a frame buffer only changes the document and the header. -/
theorem raw_part (hPart : d.currentMessagePart ≠ 1)
    (hRaw : ¬ Allocates d.currentParentMessageType d.currentMessagePart) :
    d.receivePart parse part last = ((d.stored part).processLater parse part.length).map
      fun processed => processed.advance.frameMetaData last := by
  rw [receivePart_later parse hPart, accept, if_neg hRaw, Option.bind_some]

theorem sendBuffer_total (h : d.pool.Ready ∨ d.pool.Dropping) : ∃ e, d.sendBuffer = some e := by
  obtain ⟨pool, hPool⟩ := BufferPool.send_total h d.sentHeader d.currentFrameNumber
  exact ⟨_, by rw [sendBuffer, hPool, Option.map_some]⟩

/-- A part that goes to a buffer of its own is always processed. -/
theorem GoesOut.total {type : EigerMessageType} (hOut : d.GoesOut parse type part)
    (hConsistent : d.pool.Consistent) : ∃ d', d.receivePart parse part last = some d' := by
  have hPart := goesOut_later hOut
  obtain ⟨hAllocates, hProcess⟩ := hOut
  obtain ⟨pool, hStore, hUsable⟩ :=
    BufferPool.storePayload_total (BufferPool.allocate_usable hConsistent) part
  have hAccept : d.accept part = some { d.allocateNextFrameBuffer with pool := pool } := by
    rw [accept, if_pos hAllocates, hStore, Option.map_some]
  obtain ⟨e, hSend⟩ := sendBuffer_total (d := { ({ d.allocateNextFrameBuffer with pool := pool } :
    EigerFrameDecoder) with currentMessageType := type }.setDataSize part.length) hUsable
  refine ⟨e.advance.frameMetaData last, ?_⟩
  rw [receivePart_later parse hPart, hAccept, Option.bind_some, hProcess _ hAccept, hSend,
    Option.map_some]

/-- The document after a part was copied and parsed. -/
def documentAfter (parse : Parser) (part : Bytes) (d : EigerFrameDecoder) : Value :=
  (parse (cString part)).getD d.jsonDocument

theorem readHeader_stored (read : Value → FrameHeader → Option FrameHeader) :
    ((d.stored part).parseRaw parse part.length).readHeader read =
      (read (d.documentAfter parse part) d.currentHeader).map fun header =>
        { d.parsed parse part with currentHeader := header } := by
  rw [parseRaw_stored]
  rfl

/-- The part of an image that says what it is like. -/
theorem image_imaged (hPart : d.currentMessagePart = imageDataImagedPart)
    (hParent : d.currentParentMessageType = .imageData)
    (hType : d.currentMessageType = .imageData) :
    d.receivePart parse part last =
      (readImaged (d.documentAfter parse part) d.currentHeader).map fun header =>
        ({ d.parsed parse part with currentHeader := header } :
          EigerFrameDecoder).advance.frameMetaData last := by
  have hRaw : ¬ Allocates d.currentParentMessageType d.currentMessagePart := by
    rw [hParent, hPart]
    decide
  rw [raw_part (by rw [hPart]; decide) hRaw,
    processLater_imaged parse (d := d.stored part) hType hPart, readHeader_stored, Option.map_map]
  rfl

/-- The data of an image. -/
theorem image_blob (hPart : d.currentMessagePart = imageDataBlobPart)
    (hParent : d.currentParentMessageType = .imageData)
    (hType : d.currentMessageType = .imageData) :
    d.receivePart parse part last = (d.pool.allocate.storePayload part).map fun pool =>
      ({ d.allocateNextFrameBuffer with
        pool := pool }.setDataSize part.length).advance.frameMetaData last := by
  have hAllocates : Allocates d.currentParentMessageType d.currentMessagePart := by
    rw [hParent, hPart]
    decide
  rw [receivePart_later parse (by rw [hPart]; decide), accept, if_pos hAllocates]
  cases d.pool.allocate.storePayload part with
  | none => rfl
  | some pool =>
      have hBlob := processLater_blob parse (d := { d.allocateNextFrameBuffer with pool := pool })
        hType hPart part.length
      rw [Option.map_some, Option.bind_some, hBlob]
      rfl

/-- The times of an image, after which it is sent. -/
theorem image_times (hPart : d.currentMessagePart = imageDataTimePart)
    (hParent : d.currentParentMessageType = .imageData)
    (hType : d.currentMessageType = .imageData) :
    d.receivePart parse part last =
      (readTimes (d.documentAfter parse part) d.currentHeader).bind fun header =>
        ({ d.parsed parse part with currentHeader := header } : EigerFrameDecoder).sendBuffer.map
          fun sent => sent.advance.frameMetaData last := by
  have hRaw : ¬ Allocates d.currentParentMessageType d.currentMessagePart := by
    rw [hParent, hPart]
    decide
  rw [raw_part (by rw [hPart]; decide) hRaw,
    processLater_times parse (d := d.stored part) hType hPart, readHeader_stored]
  cases readTimes (d.documentAfter parse part) d.currentHeader with
  | none => rfl
  | some header => rfl

end EigerFrameDecoder

end Eiger.Decoder
