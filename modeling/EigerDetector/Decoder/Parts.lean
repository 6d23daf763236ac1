import EigerDetector.Decoder.Process

/-! What each part of a message does to the decoder and to its pool of buffers. -/
namespace Eiger.Decoder

open CharArrays FixedWidth Rapidjson

/-- What the decoder reads of the first part of a message. -/
inductive FirstPart where
  | unreadable
  | unknown
  | header (series : Int) (detail : Bytes) (acqID : Option Bytes)
  | image (frame series : Int) (hash : Bytes) (acqID : Option Bytes)
  | endOfSeries (series : Int) (acqID : Bytes)
  deriving DecidableEq

/-- The acquisition ID, if there is one. -/
def readAcquisitionID (doc : Value) : Option (Option Bytes) := do
  let found ← doc.hasMember acquisitionIDKey
  if found then (doc.member acquisitionIDKey).bind fun value => value.getString.map some
  else some none

/-- Read a first part as the decoder does; `none` where an assertion fails. -/
def readFirstPart (parse : Parser) (part : Bytes) : Option FirstPart :=
  match parse (cString part) with
  | none => some .unreadable
  | some doc => do
      let htype ← (doc.member headerTypeKey).bind Value.getString
      if htype = globalHeaderType then
        let series ← (doc.member seriesKey).bind Value.getInt
        let detail ← (doc.member headerDetailKey).bind Value.getString
        let acqID ← readAcquisitionID doc
        some (.header series detail acqID)
      else if htype = imageHeaderType then
        let frame ← (doc.member frameKey).bind Value.getInt
        let series ← (doc.member seriesKey).bind Value.getInt
        let hash ← (doc.member hashKey).bind Value.getString
        let acqID ← readAcquisitionID doc
        some (.image frame series hash acqID)
      else if htype = endHeaderType then
        let series ← (doc.member seriesKey).bind Value.getInt
        let acqID ← (doc.member acquisitionIDKey).bind Value.getString
        some (.endOfSeries series acqID)
      else some .unknown

namespace EigerFrameDecoder

variable (parse : Parser)

def keepAcquisitionID (acqID : Option Bytes) (d : EigerFrameDecoder) : EigerFrameDecoder :=
  match acqID with
  | none => d
  | some id => d.setAcquisitionID id

/-- The members after the first part of an image. -/
def imageStarted (frame series : Int) (hash : Bytes) (d : EigerFrameDecoder) :
    EigerFrameDecoder :=
  { d with
    currentParentMessageType := .imageData
    currentMessageType := .imageData
    currentFrameNumber := frame
    currentHeader := { d.currentHeader with
      frameNumber := frame
      series := toUInt32 series
      hash := (strncpy 33 hash).set 32 0 } }

/-- The members before the header of an end message is sent. -/
def seriesEnded (series : Int) (acqID : Bytes) (d : EigerFrameDecoder) : EigerFrameDecoder :=
  ({ d with
    currentParentMessageType := .endOfSeries
    currentMessageType := .endOfStream }.setSeries series).setAcquisitionID acqID

/-- The effect of a first part that was read. -/
def start (bytesReceived : Nat) (d : EigerFrameDecoder) : FirstPart → Option EigerFrameDecoder
  | .unreadable => some d
  | .unknown => some d
  | .header series detail acqID =>
      (({ d with currentParentMessageType := .global, framesAllocated := 0 }.setSeries
        series).expectHeaderParts parse detail bytesReceived).map (keepAcquisitionID acqID)
  | .image frame series hash acqID =>
      some ((d.imageStarted frame series hash).keepAcquisitionID acqID)
  | .endOfSeries series acqID => (d.seriesEnded series acqID).processEndMessage

theorem findAcquisitionID_eq (doc : Value) (d : EigerFrameDecoder) :
    d.findAcquisitionID doc = (readAcquisitionID doc).map fun acqID =>
      d.keepAcquisitionID acqID := by
  unfold findAcquisitionID readAcquisitionID
  cases doc.hasMember acquisitionIDKey with
  | none => rfl
  | some found =>
      cases found with
      | false => rfl
      | true =>
          cases doc.member acquisitionIDKey with
          | none => rfl
          | some value => cases h : value.getString <;> simp [h, keepAcquisitionID]

/-- The first part is read, and then takes effect. -/
theorem processFirstPart_eq (bytesReceived : Nat) (d : EigerFrameDecoder) :
    d.processFirstPart parse bytesReceived =
      (readFirstPart parse (d.currentRawBuffer.load bytesReceived)).bind fun first =>
        (d.parseRaw parse bytesReceived).start parse bytesReceived first := by
  unfold processFirstPart readFirstPart parseRaw
  cases parse (cString (d.currentRawBuffer.load bytesReceived)) with
  | none => rfl
  | some doc =>
      simp only
      cases (doc.member headerTypeKey).bind Value.getString with
      | none => rfl
      | some htype =>
          simp only [Option.bind_eq_bind, Option.bind_some]
          split
          · unfold startGlobalHeader
            cases (doc.member seriesKey).bind Value.getInt with
            | none => rfl
            | some series =>
                cases (doc.member headerDetailKey).bind Value.getString with
                | none => rfl
                | some detail =>
                    simp only [Option.bind_eq_bind, Option.bind_some, findAcquisitionID_eq]
                    cases readAcquisitionID doc with
                    | none => simp
                    | some acqID =>
                        simp only [start, Option.map_some, Option.bind_some]
                        exact Option.map_eq_bind.symm
          · split
            · unfold startImage
              cases (doc.member frameKey).bind Value.getInt with
              | none => rfl
              | some frame =>
                  cases (doc.member seriesKey).bind Value.getInt with
                  | none => rfl
                  | some series =>
                      cases (doc.member hashKey).bind Value.getString with
                      | none => rfl
                      | some hash =>
                          simp only [Option.bind_eq_bind, Option.bind_some,
                            findAcquisitionID_eq]
                          cases readAcquisitionID doc <;> rfl
            · split
              · unfold startEnd
                cases (doc.member seriesKey).bind Value.getInt with
                | none => rfl
                | some series =>
                    cases (doc.member acquisitionIDKey).bind Value.getString with
                    | none => rfl
                    | some acqID => rfl
              · rfl

/-- The members after a part that is not for a frame buffer was copied. -/
def stored (part : Bytes) (d : EigerFrameDecoder) : EigerFrameDecoder :=
  { d with currentRawBuffer := d.currentRawBuffer.store part }

/-- The document after a text was parsed. -/
def parsed (part : Bytes) (d : EigerFrameDecoder) : EigerFrameDecoder :=
  { d.stored part with jsonDocument := (parse (cString part)).getD d.jsonDocument }

theorem parseRaw_stored (part : Bytes) (d : EigerFrameDecoder) :
    (d.stored part).parseRaw parse part.length = d.parsed parse part := by
  unfold parseRaw stored parsed
  simp only [Memory.load_store]
  cases parse (cString part) <;> rfl

theorem not_allocates_first (parent : EigerMessageParentType) : ¬ Allocates parent 1 := by
  unfold Allocates
  cases parent <;> decide

/-- The first part of a message. -/
theorem receivePart_first {d : EigerFrameDecoder} (hPart : d.currentMessagePart = 1)
    (part : Bytes) (last : Bool) : d.receivePart parse part last =
      (readFirstPart parse part).bind fun first =>
        ((d.parsed parse part).start parse part.length first).map fun started =>
          started.advance.frameMetaData last := by
  have hNext : d.getNextMessageBuffer = (d, .rawBuffer) := by
    rw [getNextMessageBuffer, hPart, if_neg (not_allocates_first _)]
  have hProcess : (d.stored part).processMessage parse part.length =
      ((d.stored part).processFirstPart parse part.length).map advance := by
    rw [processMessage, if_pos (show (d.stored part).currentMessagePart = 1 from hPart)]
  have hLoad : (d.stored part).currentRawBuffer.load part.length = part := Memory.load_store _ _
  have hReceive : d.receivePart parse part last =
      ((d.stored part).processMessage parse part.length).map (frameMetaData last) := by
    rw [receivePart, hNext, Option.map_eq_bind]
    rfl
  rw [hReceive, hProcess, processFirstPart_eq, hLoad, parseRaw_stored]
  cases readFirstPart parse part with
  | none => rfl
  | some first => simp [Function.comp_def]

/-- The members after a part was copied to where it belongs. -/
def accept (part : Bytes) (d : EigerFrameDecoder) : Option EigerFrameDecoder :=
  if Allocates d.currentParentMessageType d.currentMessagePart then
    (d.pool.allocate.storePayload part).map fun pool =>
      { d.allocateNextFrameBuffer with pool := pool }
  else some (d.stored part)

/-- How a part after the first is processed. -/
def processLater (bytesReceived : Nat) (d : EigerFrameDecoder) : Option EigerFrameDecoder :=
  if d.currentMessageType = .imageData then d.processImageMessage parse bytesReceived
  else if d.currentMessageType = .endOfStream then some d
  else d.processGlobalHeaderMessage parse bytesReceived

theorem accept_control {d d' : EigerFrameDecoder} {part : Bytes} (h : d.accept part = some d') :
    d'.currentMessagePart = d.currentMessagePart ∧
      d'.currentMessageType = d.currentMessageType ∧
      d'.currentParentMessageType = d.currentParentMessageType ∧
      d'.numHeaderMessagesToExpect = d.numHeaderMessagesToExpect ∧
      d'.currentHeader = d.currentHeader ∧ d'.currentFrameNumber = d.currentFrameNumber := by
  unfold accept at h
  split at h
  · obtain ⟨pool, _, rfl⟩ := Option.map_eq_some_iff.mp h
    exact ⟨rfl, rfl, rfl, rfl, rfl, rfl⟩
  · cases h
    exact ⟨rfl, rfl, rfl, rfl, rfl, rfl⟩

/-- A later part of a message. -/
theorem receivePart_later {d : EigerFrameDecoder} (hPart : d.currentMessagePart ≠ 1)
    (part : Bytes) (last : Bool) : d.receivePart parse part last =
      (d.accept part).bind fun accepted => (accepted.processLater parse part.length).map
        fun processed => processed.advance.frameMetaData last := by
  have hCopy : d.getNextMessageBuffer.1.copyPart part d.getNextMessageBuffer.2 =
      d.accept part := by
    unfold getNextMessageBuffer accept
    by_cases hAllocates : Allocates d.currentParentMessageType d.currentMessagePart
    · rw [if_pos hAllocates, if_pos hAllocates]
      rfl
    · rw [if_neg hAllocates, if_neg hAllocates]
      rfl
  have hReceive : d.receivePart parse part last = (d.accept part).bind fun accepted =>
      (accepted.processMessage parse part.length).map (frameMetaData last) := by
    rw [← hCopy]
    simp only [receivePart, Option.map_eq_bind]
    rfl
  rw [hReceive]
  cases hAccept : d.accept part with
  | none => rfl
  | some accepted =>
      have hLater : accepted.currentMessagePart ≠ 1 := by
        rw [(accept_control hAccept).1]
        exact hPart
      simp only [Option.bind_some]
      rw [processMessage, if_neg hLater, processLater, Option.map_map]
      rfl

end EigerFrameDecoder

/-- A part after the first which is followed by a send. -/
def SendsAt (type : EigerMessageType) (part : Int) : Prop :=
  if type = .imageData then part = imageDataTimePart ∨ part = imageDataAppendixPart
  else if type = .endOfStream then False
  else part = globalDetectorConfigPart ∨ part = globalFlatfieldDataPart ∨
    part = globalMaskDataPart ∨ part = globalCountrateDataPart ∨ part = globalAppendixPart

instance (type : EigerMessageType) (part : Int) : Decidable (SendsAt type part) :=
  inferInstanceAs (Decidable (ite _ _ _))

/-- The types which are processed as parts of a global header. -/
def Plain (type : EigerMessageType) : Prop := type ≠ .imageData ∧ type ≠ .endOfStream

namespace EigerFrameDecoder

variable {parse : Parser}

theorem sendBuffer_pool {d d' : EigerFrameDecoder} (h : d.sendBuffer = some d') :
    d.pool.send d.sentHeader d.currentFrameNumber = some d'.pool ∧
      d'.currentMessagePart = d.currentMessagePart ∧
      d'.currentMessageType = d.currentMessageType ∧
      d'.currentParentMessageType = d.currentParentMessageType ∧
      d'.numHeaderMessagesToExpect = d.numHeaderMessagesToExpect ∧
      d'.currentHeader.acquisitionID = d.currentHeader.acquisitionID := by
  obtain ⟨pool, hPool, rfl⟩ := Option.map_eq_some_iff.mp h
  by_cases hDropping : d.pool.droppingFrameData = true
  · rw [BufferPool.send, if_pos hDropping] at hPool ⊢
    rw [if_pos hDropping]
    exact ⟨rfl, rfl, rfl, rfl, rfl, rfl⟩
  · rw [if_neg hDropping]
    exact ⟨hPool, rfl, rfl, rfl, rfl, rfl⟩

end EigerFrameDecoder

section Headers

variable {doc shapeValue : Value} {elements : List Value} {h h' : FrameHeader}

theorem readDataShape_some (hRead : readDataShape shapeValue h = some h') :
    ∃ x y z, h' = { h with shapeSizeX := x, shapeSizeY := y, shapeSizeZ := z } := by
  unfold readDataShape at hRead
  split at hRead
  · obtain ⟨x, _, hRead⟩ := Option.bind_eq_some_iff.mp hRead
    obtain ⟨y, _, hRead⟩ := Option.bind_eq_some_iff.mp hRead
    cases hRead
    exact ⟨_, _, _, rfl⟩
  · cases hRead
    exact ⟨_, _, _, rfl⟩

theorem readDataType_some (hRead : readDataType doc h = some h') :
    ∃ type, h' = { h with dataType := type } := by
  obtain ⟨type, _, hRead⟩ := Option.bind_eq_some_iff.mp hRead
  cases hRead
  exact ⟨_, rfl⟩

theorem readDataHeader_some (hRead : readDataHeader doc h = some h') :
    ∃ x y z type, h' = { h with
      shapeSizeX := x, shapeSizeY := y, shapeSizeZ := z, dataType := type } := by
  obtain ⟨shape, _, hRead⟩ := Option.bind_eq_some_iff.mp hRead
  obtain ⟨h₁, hShape, hType⟩ := Option.bind_eq_some_iff.mp hRead
  obtain ⟨x, y, z, rfl⟩ := readDataShape_some hShape
  obtain ⟨type, rfl⟩ := readDataType_some hType
  exact ⟨x, y, z, type, rfl⟩

theorem readImageShape_some (hRead : readImageShape shapeValue h = some h') :
    ∃ x y z, h' = { h with shapeSizeX := x, shapeSizeY := y, shapeSizeZ := z } := by
  unfold readImageShape at hRead
  split at hRead
  · obtain ⟨h₁, hTwo, hThree⟩ := Option.bind_eq_some_iff.mp hRead
    have hFirst : ∃ x y z, h₁ = { h with shapeSizeX := x, shapeSizeY := y, shapeSizeZ := z } := by
      unfold readTwoSizes at hTwo
      split at hTwo
      · obtain ⟨x, _, hTwo⟩ := Option.bind_eq_some_iff.mp hTwo
        obtain ⟨y, _, hTwo⟩ := Option.bind_eq_some_iff.mp hTwo
        cases hTwo
        exact ⟨_, _, _, rfl⟩
      · cases hTwo
        exact ⟨_, _, _, rfl⟩
    obtain ⟨x₁, y₁, z₁, rfl⟩ := hFirst
    unfold readThreeSizes at hThree
    split at hThree
    · obtain ⟨x, _, hThree⟩ := Option.bind_eq_some_iff.mp hThree
      obtain ⟨y, _, hThree⟩ := Option.bind_eq_some_iff.mp hThree
      obtain ⟨z, _, hThree⟩ := Option.bind_eq_some_iff.mp hThree
      cases hThree
      exact ⟨_, _, _, rfl⟩
    · cases hThree
      exact ⟨_, _, _, rfl⟩
  · cases hRead
    exact ⟨_, _, _, rfl⟩

theorem readImaged_some (hRead : readImaged doc h = some h') :
    ∃ x y z type encoding size, h' = { h with
      shapeSizeX := x, shapeSizeY := y, shapeSizeZ := z, dataType := type,
      encoding := encoding, sizeInHeader := size } := by
  obtain ⟨shape, _, hRead⟩ := Option.bind_eq_some_iff.mp hRead
  obtain ⟨h₁, hShape, hRead⟩ := Option.bind_eq_some_iff.mp hRead
  obtain ⟨h₂, hType, hRead⟩ := Option.bind_eq_some_iff.mp hRead
  obtain ⟨encoding, _, hRead⟩ := Option.bind_eq_some_iff.mp hRead
  obtain ⟨size, _, hRead⟩ := Option.bind_eq_some_iff.mp hRead
  obtain ⟨x, y, z, rfl⟩ := readImageShape_some hShape
  obtain ⟨type, rfl⟩ := readDataType_some hType
  cases hRead
  exact ⟨x, y, z, type, _, _, rfl⟩

theorem readTimes_some (hRead : readTimes doc h = some h') :
    ∃ start stop real, h' = { h with startTime := start, stopTime := stop, realTime := real } := by
  obtain ⟨start, _, hRead⟩ := Option.bind_eq_some_iff.mp hRead
  obtain ⟨stop, _, hRead⟩ := Option.bind_eq_some_iff.mp hRead
  obtain ⟨real, _, hRead⟩ := Option.bind_eq_some_iff.mp hRead
  cases hRead
  exact ⟨_, _, _, rfl⟩

end Headers

/-- What processing a part after the first can do. -/
structure LaterEffect (d d' : EigerFrameDecoder) : Prop where
  pool : if SendsAt d.currentMessageType d.currentMessagePart then
      ∃ header number, d.pool.send header number = some d'.pool ∧
        header.acquisitionID = d.currentHeader.acquisitionID
    else d'.pool = d.pool
  acquisitionID : d'.currentHeader.acquisitionID = d.currentHeader.acquisitionID
  part : d'.currentMessagePart = d.currentMessagePart
  parent : d'.currentParentMessageType = d.currentParentMessageType
  expected : d'.numHeaderMessagesToExpect = d.numHeaderMessagesToExpect
  type : d'.currentMessageType = d.currentMessageType ∨
    (Plain d'.currentMessageType ∧ d.currentMessageType ≠ .endOfStream ∧
      (d.currentMessageType = .imageData → d.currentMessagePart = imageDataAppendixPart))

namespace EigerFrameDecoder

variable {parse : Parser}

/-- The decoder before its buffer is sent differs from the one the part found in
what other parts set as well. -/
structure Prepared (d e : EigerFrameDecoder) : Prop where
  pool : e.pool = d.pool
  acquisitionID : e.currentHeader.acquisitionID = d.currentHeader.acquisitionID
  part : e.currentMessagePart = d.currentMessagePart
  parent : e.currentParentMessageType = d.currentParentMessageType
  expected : e.numHeaderMessagesToExpect = d.numHeaderMessagesToExpect
  type : e.currentMessageType = d.currentMessageType ∨
    (Plain e.currentMessageType ∧ d.currentMessageType ≠ .endOfStream ∧
      (d.currentMessageType = .imageData → d.currentMessagePart = imageDataAppendixPart))

theorem Prepared.effect {d e : EigerFrameDecoder} (h : Prepared d e)
    (hQuiet : ¬ SendsAt d.currentMessageType d.currentMessagePart) : LaterEffect d e where
  pool := by
    rw [if_neg hQuiet]
    exact h.pool
  acquisitionID := h.acquisitionID
  part := h.part
  parent := h.parent
  expected := h.expected
  type := h.type

theorem Prepared.send {d e d' : EigerFrameDecoder} (h : Prepared d e)
    (hSends : SendsAt d.currentMessageType d.currentMessagePart)
    (hSend : e.sendBuffer = some d') : LaterEffect d d' := by
  obtain ⟨hPool, hPart, hType, hParent, hExpected, hID⟩ := sendBuffer_pool hSend
  refine ⟨?_, hID.trans h.acquisitionID, hPart.trans h.part, hParent.trans h.parent,
    hExpected.trans h.expected, ?_⟩
  · rw [if_pos hSends]
    rw [h.pool] at hPool
    exact ⟨_, _, hPool, h.acquisitionID⟩
  · rw [hType]
    exact h.type

theorem parseRaw_eq (n : Nat) (d : EigerFrameDecoder) : d.parseRaw parse n =
    { d with jsonDocument :=
        (parse (cString (d.currentRawBuffer.load n))).getD d.jsonDocument } := by
  unfold parseRaw
  cases parse (cString (d.currentRawBuffer.load n)) <;> rfl

theorem prepared_readHeader {d e : EigerFrameDecoder} {n : Nat}
    {read : Value → FrameHeader → Option FrameHeader}
    (hRead : ∀ doc h h', read doc h = some h' → h'.acquisitionID = h.acquisitionID)
    (h : (d.parseRaw parse n).readHeader read = some e) : Prepared d e := by
  rw [parseRaw_eq] at h
  obtain ⟨header, hHeader, rfl⟩ := Option.map_eq_some_iff.mp h
  exact ⟨rfl, hRead _ _ _ hHeader, rfl, rfl, rfl, .inl rfl⟩

theorem processDataHeader_effect {d d' : EigerFrameDecoder} {n : Nat} {type : EigerMessageType}
    (hPlain : Plain type) (hType : Plain d.currentMessageType)
    (hQuiet : ¬ SendsAt d.currentMessageType d.currentMessagePart)
    (h : d.processDataHeader parse type n = some d') : LaterEffect d d' := by
  have hPrepared : Prepared { d with currentMessageType := type } d' :=
    prepared_readHeader (fun doc header header' hRead => by
      obtain ⟨_, _, _, _, rfl⟩ := readDataHeader_some hRead
      rfl) h
  refine Prepared.effect ⟨hPrepared.pool, hPrepared.acquisitionID, hPrepared.part,
    hPrepared.parent, hPrepared.expected, .inr ⟨?_, hType.2, fun hImage => absurd hImage hType.1⟩⟩
    hQuiet
  rcases hPrepared.type with hSame | ⟨hNext, _⟩
  · rw [hSame]
    exact hPlain
  · exact hNext

theorem prepared_appendix {d : EigerFrameDecoder} {n : Nat} {type : EigerMessageType}
    (hPlain : Plain type) (hEnd : d.currentMessageType ≠ .endOfStream)
    (hPart : d.currentMessageType = .imageData → d.currentMessagePart = imageDataAppendixPart) :
    Prepared d ({ d with currentMessageType := type }.setDataSize n) :=
  ⟨rfl, rfl, rfl, rfl, rfl, .inr ⟨hPlain, hEnd, hPart⟩⟩

theorem processImageMessage_effect {d d' : EigerFrameDecoder} {n : Nat}
    (hType : d.currentMessageType = .imageData)
    (h : d.processImageMessage parse n = some d') : LaterEffect d d' := by
  have hSends : SendsAt d.currentMessageType d.currentMessagePart ↔
      d.currentMessagePart = imageDataTimePart ∨ d.currentMessagePart = imageDataAppendixPart := by
    rw [SendsAt, if_pos hType]
  unfold processImageMessage at h
  split at h
  · next hPart =>
      refine Prepared.effect (prepared_readHeader (fun doc header header' hRead => ?_) h) ?_
      · obtain ⟨_, _, _, _, _, _, rfl⟩ := readImaged_some hRead
        rfl
      · rw [hSends, hPart]
        decide
  · split at h
    · next hPart =>
        cases h
        refine Prepared.effect ⟨rfl, rfl, rfl, rfl, rfl, .inl rfl⟩ ?_
        rw [hSends, hPart]
        decide
    · split at h
      · next hPart =>
          obtain ⟨e, hRead, hSend⟩ := Option.bind_eq_some_iff.mp h
          refine Prepared.send (prepared_readHeader (fun doc header header' hTimes => ?_) hRead)
            (hSends.mpr (.inl hPart)) hSend
          obtain ⟨_, _, _, rfl⟩ := readTimes_some hTimes
          rfl
      · split at h
        · next hPart =>
            exact (prepared_appendix ⟨by decide, by decide⟩ (by rw [hType]; decide)
              fun _ => hPart).send (hSends.mpr (.inr hPart)) h
        · next hTime hAppendix =>
            cases h
            refine Prepared.effect ⟨rfl, rfl, rfl, rfl, rfl, .inl rfl⟩ ?_
            rw [hSends]
            exact not_or.mpr ⟨hTime, hAppendix⟩

theorem processGlobalHeaderMessage_effect {d d' : EigerFrameDecoder} {n : Nat}
    (hPart : d.currentMessagePart ≠ 1) (hType : Plain d.currentMessageType)
    (h : d.processGlobalHeaderMessage parse n = some d') : LaterEffect d d' := by
  have hSends : SendsAt d.currentMessageType d.currentMessagePart ↔
      d.currentMessagePart = globalDetectorConfigPart ∨
      d.currentMessagePart = globalFlatfieldDataPart ∨ d.currentMessagePart = globalMaskDataPart ∨
      d.currentMessagePart = globalCountrateDataPart ∨
      d.currentMessagePart = globalAppendixPart := by
    rw [SendsAt, if_neg hType.1, if_neg hType.2]
  have hData : SendsAt d.currentMessageType d.currentMessagePart →
      (d.setDataSize n).sendBuffer = some d' → LaterEffect d d' :=
    Prepared.send ⟨rfl, rfl, rfl, rfl, rfl, .inl rfl⟩
  have hHeader : ∀ {part : Int} {type : EigerMessageType}, d.currentMessagePart = part →
      ¬ (part = globalDetectorConfigPart ∨ part = globalFlatfieldDataPart ∨
        part = globalMaskDataPart ∨ part = globalCountrateDataPart ∨
        part = globalAppendixPart) → Plain type →
      d.processDataHeader parse type n = some d' → LaterEffect d d' := by
    intro part type hAt hNo hPlain hDescribed
    refine processDataHeader_effect hPlain hType ?_ hDescribed
    rw [hSends, hAt]
    exact hNo
  have hConfig : Plain .globalHeaderFlatfield ∧ Plain .globalHeaderMask ∧
      Plain .globalHeaderCountrate ∧ Plain .globalHeaderAppendix :=
    ⟨⟨by decide, by decide⟩, ⟨by decide, by decide⟩, ⟨by decide, by decide⟩,
      ⟨by decide, by decide⟩⟩
  unfold processGlobalHeaderMessage at h
  rw [if_neg (show ¬ d.currentMessagePart = globalDetectorNonePart from hPart)] at h
  split at h
  · next hAt => exact hData (hSends.mpr (.inl hAt)) h
  split at h
  · next hAt => exact hHeader hAt (by decide) hConfig.1 h
  split at h
  · next hAt => exact hData (hSends.mpr (.inr (.inl hAt))) h
  split at h
  · next hAt => exact hHeader hAt (by decide) hConfig.2.1 h
  split at h
  · next hAt => exact hData (hSends.mpr (.inr (.inr (.inl hAt)))) h
  split at h
  · next hAt => exact hHeader hAt (by decide) hConfig.2.2.1 h
  split at h
  · next hAt => exact hData (hSends.mpr (.inr (.inr (.inr (.inl hAt))))) h
  split at h
  · next hAt =>
      exact (prepared_appendix hConfig.2.2.2 hType.2 fun hImage => absurd hImage hType.1).send
        (hSends.mpr (.inr (.inr (.inr (.inr hAt))))) h
  · next hC _ hF _ hM _ hR hA =>
      cases h
      refine Prepared.effect ⟨rfl, rfl, rfl, rfl, rfl, .inl rfl⟩ ?_
      rw [hSends]
      rintro (hAt | hAt | hAt | hAt | hAt)
      · exact hC hAt
      · exact hF hAt
      · exact hM hAt
      · exact hR hAt
      · exact hA hAt

theorem processLater_effect {d d' : EigerFrameDecoder} {n : Nat}
    (hPart : d.currentMessagePart ≠ 1) (h : d.processLater parse n = some d') :
    LaterEffect d d' := by
  unfold processLater at h
  split at h
  · next hType => exact processImageMessage_effect hType h
  · next hImage =>
      split at h
      · next hEnd =>
          cases h
          refine Prepared.effect ⟨rfl, rfl, rfl, rfl, rfl, .inl rfl⟩ ?_
          rw [SendsAt, if_neg hImage, if_pos hEnd]
          exact id
      · next hEnd => exact processGlobalHeaderMessage_effect hPart ⟨hImage, hEnd⟩ h

end EigerFrameDecoder

/-- A send right after an allocation. -/
def AllocatedSend (acquisitionID : CharArray 256) (p p' : BufferPool) : Prop :=
  ∃ header number, p.allocate.send header number = some p' ∧
    header.acquisitionID = acquisitionID

/-- The acquisition ID in the header after a first part which may carry one. -/
def taggedWith (acqID : Option Bytes) (old : CharArray 256) : CharArray 256 :=
  (acqID.map (strncpy 256)).getD old

/-- What the first part of a message can do. -/
def StartEffect (d d' : EigerFrameDecoder) : FirstPart → Prop
  | .unreadable => d' = d
  | .unknown => d' = d
  | .header _ detail acqID =>
      d'.currentMessagePart = d.currentMessagePart ∧
      d'.currentParentMessageType = .global ∧ Plain d'.currentMessageType ∧
      d'.currentHeader.acquisitionID = taggedWith acqID d.currentHeader.acquisitionID ∧
      if detail = headerDetailNone then
        AllocatedSend d.currentHeader.acquisitionID d.pool d'.pool
      else d'.pool = d.pool
  | .image _ _ _ acqID =>
      d'.currentMessagePart = d.currentMessagePart ∧
      d'.currentParentMessageType = .imageData ∧ d'.currentMessageType = .imageData ∧
      d'.currentHeader.acquisitionID = taggedWith acqID d.currentHeader.acquisitionID ∧
      d'.pool = d.pool
  | .endOfSeries _ acqID =>
      d'.currentMessagePart = d.currentMessagePart ∧
      d'.currentParentMessageType = .endOfSeries ∧ d'.currentMessageType = .endOfStream ∧
      d'.currentHeader.acquisitionID = strncpy 256 acqID ∧
      AllocatedSend (strncpy 256 acqID) d.pool d'.pool

namespace EigerFrameDecoder

variable {parse : Parser}

@[simp] theorem keepAcquisitionID_frame (acqID : Option Bytes) (d : EigerFrameDecoder) :
    (d.keepAcquisitionID acqID).pool = d.pool ∧
      (d.keepAcquisitionID acqID).currentMessagePart = d.currentMessagePart ∧
      (d.keepAcquisitionID acqID).currentParentMessageType = d.currentParentMessageType ∧
      (d.keepAcquisitionID acqID).currentMessageType = d.currentMessageType ∧
      (d.keepAcquisitionID acqID).currentHeader.acquisitionID =
        taggedWith acqID d.currentHeader.acquisitionID := by
  cases acqID with
  | none => exact ⟨rfl, rfl, rfl, rfl, rfl⟩
  | some id => exact ⟨rfl, rfl, rfl, rfl, rfl⟩

theorem expectHeaderParts_effect {d d' : EigerFrameDecoder} {n : Nat} {detail : Bytes}
    (h : d.expectHeaderParts parse detail n = some d') (hPart : d.currentMessagePart = 1) :
    d'.currentMessagePart = d.currentMessagePart ∧
      d'.currentParentMessageType = d.currentParentMessageType ∧ Plain d'.currentMessageType ∧
      d'.currentHeader.acquisitionID = d.currentHeader.acquisitionID ∧
      if detail = headerDetailNone then
        AllocatedSend d.currentHeader.acquisitionID d.pool d'.pool
      else d'.pool = d.pool := by
  have hNoDetail : Plain .globalHeaderNone := ⟨by decide, by decide⟩
  have hConfig : Plain .globalHeaderConfig := ⟨by decide, by decide⟩
  unfold expectHeaderParts at h
  split at h
  · next hNone =>
      obtain ⟨sent, hSent, rfl⟩ := Option.map_eq_some_iff.mp h
      rw [processGlobalHeaderMessage, if_pos (show _ = globalDetectorNonePart from hPart)] at hSent
      obtain ⟨hPool, hPart', hType, hParent, _, hID⟩ := sendBuffer_pool hSent
      have hPlain : Plain sent.currentMessageType := by
        rw [hType]
        exact hNoDetail
      rw [if_pos hNone]
      exact ⟨hPart', hParent, hPlain, hID, _, _, hPool, rfl⟩
  · next hDetail =>
      rw [if_neg hDetail]
      split at h
      · cases h
        exact ⟨rfl, rfl, hConfig, rfl, rfl⟩
      · cases h
        exact ⟨rfl, rfl, hConfig, rfl, rfl⟩

theorem start_effect {d d' : EigerFrameDecoder} {n : Nat} {first : FirstPart}
    (hPart : d.currentMessagePart = 1) (h : d.start parse n first = some d') :
    StartEffect d d' first := by
  cases first with
  | unreadable => exact (Option.some.inj h).symm
  | unknown => exact (Option.some.inj h).symm
  | header series detail acqID =>
      obtain ⟨expecting, hExpect, rfl⟩ := Option.map_eq_some_iff.mp h
      obtain ⟨hPart', hParent, hPlain, hID, hPool⟩ := expectHeaderParts_effect hExpect hPart
      obtain ⟨hPool', hSamePart, hSameParent, hSameType, hTag⟩ :=
        keepAcquisitionID_frame acqID expecting
      refine ⟨hSamePart.trans hPart', hSameParent.trans hParent, ?_, ?_, ?_⟩
      · rw [hSameType]
        exact hPlain
      · rw [hTag, hID]
        rfl
      · rw [hPool']
        exact hPool
  | image frame series hash acqID =>
      cases h
      obtain ⟨hPool, hSamePart, hSameParent, hSameType, hTag⟩ :=
        keepAcquisitionID_frame acqID (d.imageStarted frame series hash)
      exact ⟨hSamePart, hSameParent, hSameType, hTag, hPool⟩
  | endOfSeries series acqID =>
      have hTag : (d.seriesEnded series acqID).allocateNextFrameBuffer.sentHeader.acquisitionID =
          strncpy 256 acqID := by
        rw [seriesEnded, allocateNextFrameBuffer, sentHeader, setAcquisitionID]
      have hSend : (d.seriesEnded series acqID).allocateNextFrameBuffer.sendBuffer = some d' := h
      obtain ⟨hPool, hPart', hType, hParent, _, hID⟩ := sendBuffer_pool hSend
      exact ⟨hPart', hParent, hType, hID.trans hTag, _, _, hPool, hTag⟩

end EigerFrameDecoder

end Eiger.Decoder
