import EigerDetector.Plugin.Process
import EigerDetector.Decoder.Tagging
import EigerDetector.Fan.State

/-! What an image message says comes out of the process plugin again, whatever the
decoder went through before. -/
namespace Eiger

open CharArrays FixedWidth Rapidjson Transition Decoder ProcessPlugin

/-- What the four parts of an image say. -/
structure ImageMessage where
  frame : Int
  series : Int
  hash : Bytes
  acqID : Bytes
  shape0 : Int
  shape1 : Int
  moreShape : List Int
  dataType : Bytes
  encoding : Bytes
  size : Int
  blob : Bytes
  startTime : Int
  stopTime : Int
  realTime : Int

namespace ImageMessage

/-- Every value fits the field of the header that is meant for it. -/
structure Fits (m : ImageMessage) : Prop where
  frame : 0 ≤ m.frame ∧ m.frame ≤ maxInt32
  series : 0 ≤ m.series ∧ m.series ≤ maxInt32
  shape0 : 0 ≤ m.shape0 ∧ m.shape0 ≤ maxInt32
  shape1 : 0 ≤ m.shape1 ∧ m.shape1 ≤ maxInt32
  moreShape : ∀ z ∈ m.moreShape, 0 ≤ z ∧ z ≤ maxInt32
  size : 0 ≤ m.size ∧ m.size ≤ maxInt64
  startTime : 0 ≤ m.startTime ∧ m.startTime ≤ maxInt64
  stopTime : 0 ≤ m.stopTime ∧ m.stopTime ≤ maxInt64
  realTime : 0 ≤ m.realTime ∧ m.realTime ≤ maxInt64
  hash : NulFree m.hash ∧ m.hash.length ≤ 32
  dataType : NulFree m.dataType ∧ m.dataType.length ≤ 7
  encoding : NulFree m.encoding ∧ m.encoding.length ≤ 10
  acqID : NulFree m.acqID ∧ m.acqID.length ≤ 255
  blob : m.blob.length < 2 ^ 32

/-- The document of the first part. -/
def FirstSays (m : ImageMessage) (doc : Value) : Prop :=
  doc.member headerTypeKey = some (.string imageHeaderType) ∧
    doc.member frameKey = some (.int m.frame) ∧ doc.member seriesKey = some (.int m.series) ∧
    doc.member hashKey = some (.string m.hash) ∧
    doc.member acquisitionIDKey = some (.string m.acqID)

/-- The document of the second part. -/
def SecondSays (m : ImageMessage) (doc : Value) : Prop :=
  doc.member shapeKey =
      some (.array (.int m.shape0 :: .int m.shape1 :: m.moreShape.map .int)) ∧
    doc.member dataTypeKey = some (.string m.dataType) ∧
    doc.member encodingKey = some (.string m.encoding) ∧
    doc.member sizeKey = some (.int m.size)

/-- The document of the fourth part. -/
def FourthSays (m : ImageMessage) (doc : Value) : Prop :=
  doc.member startTimeKey = some (.int m.startTime) ∧
    doc.member stopTimeKey = some (.int m.stopTime) ∧
    doc.member realTimeKey = some (.int m.realTime)

/-- Part texts that say what the message is; the blob is a part of its own. -/
structure Texts (parse : Parser) (m : ImageMessage) (first second fourth : Bytes) : Prop where
  first_says : ∃ doc, parse (cString first) = some doc ∧ m.FirstSays doc
  second_says : ∃ doc, parse (cString second) = some doc ∧ m.SecondSays doc
  fourth_says : ∃ doc, parse (cString fourth) = some doc ∧ m.FourthSays doc

/-- The header once the first part was read. -/
def started (m : ImageMessage) (h : FrameHeader) : FrameHeader :=
  { h with
    frameNumber := m.frame
    series := toUInt32 m.series
    hash := (strncpy 33 m.hash).set 32 0
    acquisitionID := strncpy 256 m.acqID }

/-- The header once the second part was read. -/
def imaged (m : ImageMessage) (h : FrameHeader) : FrameHeader :=
  { h with
    shapeSizeX := toUInt32 m.shape0
    shapeSizeY := toUInt32 m.shape1
    shapeSizeZ := (m.moreShape.head?.map toUInt32).getD 0
    dataType := (strncpy 8 m.dataType).set 7 0
    encoding := (strncpy 11 m.encoding).set 10 0
    sizeInHeader := toUInt64 m.size }

def sized (m : ImageMessage) (h : FrameHeader) : FrameHeader :=
  { h with dataSize := toUInt32 m.blob.length }

/-- The header once the fourth part was read. -/
def timed (m : ImageMessage) (h : FrameHeader) : FrameHeader :=
  { h with
    startTime := toUInt64 m.startTime
    stopTime := toUInt64 m.stopTime
    realTime := toUInt64 m.realTime }

/-- The header in front of the image. -/
def header (m : ImageMessage) : FrameHeader where
  messageType := .imageData
  frameNumber := m.frame
  series := toUInt32 m.series
  shapeSizeX := toUInt32 m.shape0
  shapeSizeY := toUInt32 m.shape1
  shapeSizeZ := (m.moreShape.head?.map toUInt32).getD 0
  startTime := toUInt64 m.startTime
  stopTime := toUInt64 m.stopTime
  realTime := toUInt64 m.realTime
  dataSize := toUInt32 m.blob.length
  sizeInHeader := toUInt64 m.size
  hash := (strncpy 33 m.hash).set 32 0
  encoding := (strncpy 11 m.encoding).set 10 0
  dataType := (strncpy 8 m.dataType).set 7 0
  acquisitionID := strncpy 256 m.acqID

/-- Nothing is left of the header that was there before. -/
theorem header_eq (m : ImageMessage) (h : FrameHeader) :
    { m.timed (m.sized (m.imaged (m.started h))) with messageType := .imageData } = m.header :=
  rfl

section Reading

variable {parse : Parser} {m : ImageMessage} {doc : Value} {part : Bytes}

theorem getInt_of_nonneg {n : Int} (h : 0 ≤ n ∧ n ≤ maxInt32) : (Value.int n).getInt = some n := by
  have hLow : minInt32 ≤ n := le_trans (by decide) h.1
  rw [Value.getInt, if_pos ⟨hLow, h.2⟩]

theorem getInt64_of_nonneg {n : Int} (h : 0 ≤ n ∧ n ≤ maxInt64) :
    (Value.int n).getInt64 = some n := by
  have hLow : minInt64 ≤ n := le_trans (by decide) h.1
  rw [Value.getInt64, if_pos ⟨hLow, h.2⟩]

theorem getString_of_nulFree {text : Bytes} (h : NulFree text) :
    (Value.string text).getString = some text := by
  rw [Value.getString, cString_of_nulFree h]

theorem hasMember_of_member {key : Bytes} {value : Value} (h : doc.member key = some value) :
    doc.hasMember key = some true := by
  cases doc with
  | object members =>
      have hFind : Value.findMember key members = some value := h
      rw [Value.hasMember, hFind]
      rfl
  | _ => cases h

theorem readFirstPart_says (hFits : m.Fits) (hParse : parse (cString part) = some doc)
    (hSays : m.FirstSays doc) :
    readFirstPart parse part = some (.image m.frame m.series m.hash (some m.acqID)) := by
  obtain ⟨hType, hFrame, hSeries, hHash, hID⟩ := hSays
  have hKind : (Value.string imageHeaderType).getString = some imageHeaderType :=
    getString_of_nulFree (by decide)
  have hAcqID : readAcquisitionID doc = some (some m.acqID) := by
    rw [readAcquisitionID, hasMember_of_member hID, hID]
    show ((Value.string m.acqID).getString).map some = some (some m.acqID)
    rw [getString_of_nulFree hFits.acqID.1]
    rfl
  unfold readFirstPart
  simp only [hParse, hType, hFrame, hSeries, hHash, hKind, hAcqID, getInt_of_nonneg hFits.frame,
    getInt_of_nonneg hFits.series, getString_of_nulFree hFits.hash.1, Option.bind_eq_bind,
    Option.bind_some]
  rw [if_neg headerTypes_distinct.1.symm, if_pos trivial]

theorem readImaged_says (hFits : m.Fits) (hSays : m.SecondSays doc) (h : FrameHeader) :
    readImaged doc h = some (m.imaged h) := by
  obtain ⟨hShape, hType, hEncoding, hSize⟩ := hSays
  have hThree : ∀ h' : FrameHeader, readThreeSizes
      (.int m.shape0 :: .int m.shape1 :: m.moreShape.map .int)
        { h' with
          shapeSizeX := toUInt32 m.shape0, shapeSizeY := toUInt32 m.shape1, shapeSizeZ := 0 } =
      some { h' with
        shapeSizeX := toUInt32 m.shape0
        shapeSizeY := toUInt32 m.shape1
        shapeSizeZ := (m.moreShape.head?.map toUInt32).getD 0 } := by
    intro h'
    have hMore := hFits.moreShape
    cases hRest : m.moreShape with
    | nil => rfl
    | cons z rest =>
        rw [hRest] at hMore
        have hZ := getInt_of_nonneg (hMore z List.mem_cons_self)
        simp [readThreeSizes, getInt_of_nonneg hFits.shape0, getInt_of_nonneg hFits.shape1, hZ]
  have hSizes : readImageShape (.array (.int m.shape0 :: .int m.shape1 :: m.moreShape.map .int)) h =
      some { h with
        shapeSizeX := toUInt32 m.shape0
        shapeSizeY := toUInt32 m.shape1
        shapeSizeZ := (m.moreShape.head?.map toUInt32).getD 0 } := by
    rw [← hThree h]
    simp [readImageShape, Value.elements?, readTwoSizes, getInt_of_nonneg hFits.shape0,
      getInt_of_nonneg hFits.shape1]
  unfold readImaged readDataType
  simp only [hShape, hSizes, hType, hEncoding, hSize, getString_of_nulFree hFits.dataType.1,
    getString_of_nulFree hFits.encoding.1, getInt64_of_nonneg hFits.size, Option.bind_eq_bind,
    Option.bind_some]
  rfl

theorem readTimes_says (hFits : m.Fits) (hSays : m.FourthSays doc) (h : FrameHeader) :
    readTimes doc h = some (m.timed h) := by
  obtain ⟨hStart, hStop, hReal⟩ := hSays
  unfold readTimes
  simp only [hStart, hStop, hReal, getInt64_of_nonneg hFits.startTime,
    getInt64_of_nonneg hFits.stopTime, getInt64_of_nonneg hFits.realTime, Option.bind_eq_bind,
    Option.bind_some]
  rfl

end Reading

section Decoding

variable {parse : Parser} {m : ImageMessage} {d : EigerFrameDecoder} {h : FrameHeader}
variable {first second fourth : Bytes}

/-- The decoder while it waits for a later part of an image. -/
structure Expecting (d : EigerFrameDecoder) (part : Int) (h : FrameHeader) : Prop where
  counter : d.currentMessagePart = part
  parent : d.currentParentMessageType = .imageData
  sent : d.currentMessageType = .imageData
  header : d.currentHeader = h

theorem receive_first (hFits : m.Fits) (hTexts : m.Texts parse first second fourth)
    (hPart : d.currentMessagePart = 1) :
    ∃ d', d.receivePart parse first false = some d' ∧
      Expecting d' 2 (m.started d.currentHeader) ∧ d'.pool = d.pool := by
  obtain ⟨doc, hParse, hSays⟩ := hTexts.first_says
  have hRead := readFirstPart_says hFits hParse hSays
  rw [EigerFrameDecoder.receivePart_first parse hPart, hRead]
  refine ⟨_, rfl, ⟨?_, rfl, rfl, rfl⟩, rfl⟩
  show d.currentMessagePart + 1 = 2
  rw [hPart]
  rfl

theorem receive_second (hFits : m.Fits) (hTexts : m.Texts parse first second fourth)
    (hExpecting : Expecting d 2 h) :
    ∃ d', d.receivePart parse second false = some d' ∧
      Expecting d' 3 (m.imaged h) ∧ d'.pool = d.pool := by
  obtain ⟨doc, hParse, hSays⟩ := hTexts.second_says
  obtain ⟨hPart, hParent, hType, hHeader⟩ := hExpecting
  have hDocument : d.documentAfter parse second = doc := by
    rw [EigerFrameDecoder.documentAfter, hParse]
    rfl
  rw [EigerFrameDecoder.image_imaged hPart hParent hType, hDocument,
    readImaged_says hFits hSays, hHeader]
  refine ⟨_, rfl, ⟨?_, hParent, hType, rfl⟩, rfl⟩
  refine (EigerFrameDecoder.finish_part_image ?_).trans ?_
  · exact hParent
  · show d.currentMessagePart + 1 = 3
    rw [hPart]
    rfl

theorem receive_blob (hExpecting : Expecting d 3 h) (hConsistent : d.pool.Consistent) :
    ∃ d', d.receivePart parse m.blob false = some d' ∧ Expecting d' 4 (m.sized h) ∧
      d.pool.allocate.storePayload m.blob = some d'.pool := by
  obtain ⟨hPart, hParent, hType, hHeader⟩ := hExpecting
  obtain ⟨pool, hStore, _⟩ := BufferPool.storePayload_total
    (BufferPool.allocate_usable hConsistent) m.blob
  rw [EigerFrameDecoder.image_blob hPart hParent hType, hStore]
  refine ⟨_, rfl, ⟨?_, hParent, hType, ?_⟩, rfl⟩
  · refine (EigerFrameDecoder.finish_part_image ?_).trans ?_
    · exact hParent
    · show d.currentMessagePart + 1 = 4
      rw [hPart]
      rfl
  · rw [← hHeader]
    rfl

theorem receive_fourth (hFits : m.Fits) (hTexts : m.Texts parse first second fourth)
    (hExpecting : Expecting d 4 h) (hUsable : d.pool.Ready ∨ d.pool.Dropping) :
    ∃ d', d.receivePart parse fourth true = some d' ∧
      d.pool.send { m.timed h with messageType := .imageData } d.currentFrameNumber =
        some d'.pool := by
  obtain ⟨doc, hParse, hSays⟩ := hTexts.fourth_says
  obtain ⟨hPart, hParent, hType, hHeader⟩ := hExpecting
  have hDocument : d.documentAfter parse fourth = doc := by
    rw [EigerFrameDecoder.documentAfter, hParse]
    rfl
  obtain ⟨e, hSend⟩ := EigerFrameDecoder.sendBuffer_total
    (d := { d.parsed parse fourth with currentHeader := m.timed h }) hUsable
  rw [EigerFrameDecoder.image_times hPart hParent hType, hDocument, hHeader,
    readTimes_says hFits hSays, Option.bind_some, hSend]
  refine ⟨_, rfl, ?_⟩
  obtain ⟨hPool, _⟩ := EigerFrameDecoder.sendBuffer_pool hSend
  rw [(EigerFrameDecoder.finish_frame true e).1, ← hPool, EigerFrameDecoder.sentHeader]
  show _ = d.pool.send { m.timed h with messageType := d.currentMessageType } _
  rw [hType]
  rfl

end Decoding

section Stages

variable {parse : Parser} {m : ImageMessage} {r r' : Receiver} {later : List (List Bytes)}
variable {first second fourth : Bytes}

/-- Some parts of a message arrived and led to no call; the rest is still to come. -/
structure Partly (r : Receiver) (count : Nat) (rest : List Bytes) (later : List (List Bytes)) :
    Prop where
  unfinished : r.complete = false
  stream : r.stream = rest :: later
  count : r.arrivals.length = count
  silent : r.calls = []

/-- The blob is where a send finds it, if there was a buffer for it. -/
structure Loaded (m : ImageMessage) (r : Receiver) : Prop where
  usable : r.decoder.pool.Ready ∨ r.decoder.pool.Dropping
  blob : ∃ arrival, r.arrivals[2]? = some arrival ∧ arrival.part = m.blob ∧
    (arrival.available = true → r.decoder.pool.Ready ∧
      (r.decoder.pool.sharedBuffers r.decoder.pool.currentFrameBufferId).payload.load
        m.blob.length = m.blob)

/-- One buffer was handed over, if there was one for the blob. -/
def HandedOver (m : ImageMessage) (r : Receiver) : Prop :=
  ∃ arrival, r.arrivals[2]? = some arrival ∧ arrival.part = m.blob ∧
    (arrival.available = true → ∃ call, r.calls = [call] ∧ call.buffer.header = m.header ∧
      call.buffer.payload.load m.blob.length = m.blob)

/-- The receiver after so many parts of the message. -/
def Stage (m : ImageMessage) (first second fourth : Bytes) (later : List (List Bytes)) :
    Nat → Receiver → Prop
  | 0, r => r.complete = true ∧ r.stream = [first, second, m.blob, fourth] :: later
  | 1, r => Partly r 1 [second, m.blob, fourth] later ∧
      ∃ h, Expecting r.decoder 2 (m.started h)
  | 2, r => Partly r 2 [m.blob, fourth] later ∧
      ∃ h, Expecting r.decoder 3 (m.imaged (m.started h))
  | 3, r => Partly r 3 [fourth] later ∧ Loaded m r ∧
      ∃ h, Expecting r.decoder 4 (m.sized (m.imaged (m.started h)))
  | _, r => HandedOver m r

theorem earlier_of_unfinished (h : r.complete = false) : r.earlier = r.arrivals := by
  rw [Receiver.earlier, h]
  rfl

/-- A part which leads to no call, with more parts behind it. -/
theorem Partly.next {count : Nat} {part : Bytes} {rest : List Bytes} {d' : EigerFrameDecoder}
    (h : Partly r count (part :: rest) later) (hCalls : d'.pool.readyCalls = []) :
    Partly (r.received part false (rest :: later) d') (count + 1) rest later := by
  have hEarlier := earlier_of_unfinished h.unfinished
  refine ⟨rfl, rfl, ?_, ?_⟩
  · rw [Receiver.received_length, hEarlier, h.count]
  · rw [Receiver.calls, Receiver.received, hEarlier, List.flatMap_append, hCalls]
    show r.calls ++ _ = []
    rw [h.silent]
    rfl

theorem step_received {part : Bytes} {last : Bool} {rest : List (List Bytes)}
    {d' : EigerFrameDecoder} (hNext : nextPart r.stream = some (part, last, rest))
    (hReceive : r.decoder.receivePart parse part last = some d') :
    r.step parse .part = some (r.received part last rest d') := by
  rw [Receiver.step, hNext, Option.bind_some]
  show (r.decoder.receivePart parse part last).map _ = _
  rw [hReceive]
  rfl

/-- What the next part of the message does. -/
theorem Stage.part (hFits : m.Fits) (hTexts : m.Texts parse first second fourth)
    (hSteady : Steady r) {k : Nat} (hCount : k < 4)
    (h : Stage m first second fourth later k r) :
    ∃ r', r.step parse .part = some r' ∧ Stage m first second fourth later (k + 1) r' := by
  match k, hCount with
  | 0, _ =>
      obtain ⟨hComplete, hStream⟩ := h
      obtain ⟨d', hReceive, hExpecting, hPool⟩ :=
        receive_first hFits hTexts (hSteady.boundary hComplete)
      have hEarlier : r.earlier = [] := if_pos hComplete
      have hNext : nextPart r.stream =
          some (first, false, [second, m.blob, fourth] :: later) := by
        rw [hStream]
        rfl
      refine ⟨_, step_received hNext hReceive, ⟨rfl, rfl, ?_, ?_⟩, _, hExpecting.counter,
        hExpecting.parent, hExpecting.sent, hExpecting.header⟩
      · rw [Receiver.received_length, hEarlier]
        rfl
      · rw [Receiver.calls, Receiver.received, hEarlier, hPool, hSteady.taken]
        rfl
  | 1, _ =>
      obtain ⟨hPartly, header, hExpecting⟩ := h
      obtain ⟨d', hReceive, hExpecting', hPool⟩ := receive_second hFits hTexts hExpecting
      have hNext : nextPart r.stream = some (second, false, [m.blob, fourth] :: later) := by
        rw [hPartly.stream]
        rfl
      have hCalls : d'.pool.readyCalls = [] := by rw [hPool, hSteady.taken]
      exact ⟨_, step_received hNext hReceive, hPartly.next hCalls, header, hExpecting'.counter,
        hExpecting'.parent, hExpecting'.sent, hExpecting'.header⟩
  | 2, _ =>
      obtain ⟨hPartly, header, hExpecting⟩ := h
      obtain ⟨d', hReceive, hExpecting', hStore⟩ := receive_blob hExpecting hSteady.consistent
      have hNext : nextPart r.stream = some (m.blob, false, [fourth] :: later) := by
        rw [hPartly.stream]
        rfl
      have hCalls : d'.pool.readyCalls = [] := by
        obtain ⟨_, _, hSame, _⟩ := BufferPool.storePayload_frame hStore
        rw [hSame, r.decoder.pool.allocate_frame.1, hSteady.taken]
      obtain ⟨hReady, hDropping⟩ := BufferPool.allocated_store hSteady.consistent hStore
      refine ⟨_, step_received hNext hReceive, hPartly.next hCalls, ⟨?_, ?_⟩, header,
        hExpecting'.counter, hExpecting'.parent, hExpecting'.sent, hExpecting'.header⟩
      · by_cases hAvailable : r.decoder.pool.Available
        · exact .inl ⟨(hReady hAvailable).1.kept, (hReady hAvailable).1.location⟩
        · have hNone := hDropping hAvailable
          exact .inr ⟨hNone.dropped, hNone.location, hNone.none_held⟩
      · have hEarlier := earlier_of_unfinished hPartly.unfinished
        have hArrival : (r.received m.blob false ([fourth] :: later) d').arrivals[2]? =
            some ⟨m.blob, r.decoder.pool.Available, d'.pool.readyCalls⟩ := by
          rw [Receiver.received, hEarlier, List.getElem?_append_right (by rw [hPartly.count]),
            hPartly.count]
          rfl
        refine ⟨_, hArrival, rfl, fun hAvailable => ?_⟩
        obtain ⟨hHeld, hLoad⟩ := hReady (of_decide_eq_true hAvailable)
        exact ⟨⟨hHeld.kept, hHeld.location⟩, hLoad⟩
  | 3, _ =>
      obtain ⟨hPartly, hLoaded, header, hExpecting⟩ := h
      obtain ⟨d', hReceive, hSend⟩ := receive_fourth hFits hTexts hExpecting hLoaded.usable
      have hNext : nextPart r.stream = some (fourth, true, later) := by
        rw [hPartly.stream]
        rfl
      have hEarlier := earlier_of_unfinished hPartly.unfinished
      obtain ⟨arrival, hArrival, hBlob, hStored⟩ := hLoaded.blob
      have hArrival' : (r.received fourth true later d').arrivals[2]? = some arrival := by
        rw [Receiver.received, hEarlier,
          List.getElem?_append_left (by rw [hPartly.count]; decide), hArrival]
      refine ⟨_, step_received hNext hReceive, arrival, hArrival', hBlob, fun hAvailable => ?_⟩
      obtain ⟨hReady, hLoad⟩ := hStored hAvailable
      obtain ⟨_, call, hCall, _, hHeader, hPayload⟩ := hReady.sent hSteady.taken hSend
      refine ⟨call, ?_, hHeader.trans (m.header_eq header), by rw [hPayload, hLoad]⟩
      rw [Receiver.calls, Receiver.received, hEarlier, List.flatMap_append]
      show r.calls ++ _ = _
      rw [hPartly.silent, hCall]
      rfl

/-- A buffer that comes back changes nothing for the message. -/
theorem Stage.release {k : Nat} {id : Int} (h : Stage m first second fourth later k r)
    (hStep : r.step parse (.release id) = some r') : Stage m first second fourth later k r' := by
  rw [Receiver.step] at hStep
  split at hStep
  · cases hStep
    rcases k with _ | _ | _ | _ | k
    · exact h
    · obtain ⟨hPartly, header, hExpecting⟩ := h
      exact ⟨⟨hPartly.unfinished, hPartly.stream, hPartly.count, hPartly.silent⟩, header,
        hExpecting.counter, hExpecting.parent, hExpecting.sent, hExpecting.header⟩
    · obtain ⟨hPartly, header, hExpecting⟩ := h
      exact ⟨⟨hPartly.unfinished, hPartly.stream, hPartly.count, hPartly.silent⟩, header,
        hExpecting.counter, hExpecting.parent, hExpecting.sent, hExpecting.header⟩
    · obtain ⟨hPartly, hLoaded, header, hExpecting⟩ := h
      refine ⟨⟨hPartly.unfinished, hPartly.stream, hPartly.count, hPartly.silent⟩, ⟨?_, ?_⟩,
        header, hExpecting.counter, hExpecting.parent, hExpecting.sent, hExpecting.header⟩
      · rcases hLoaded.usable with hReady | hDropping
        · exact .inl ⟨hReady.kept, hReady.location⟩
        · exact .inr ⟨hDropping.dropped, hDropping.location, hDropping.none_held⟩
      · obtain ⟨arrival, hArrival, hBlob, hStored⟩ := hLoaded.blob
        refine ⟨arrival, hArrival, hBlob, fun hAvailable => ?_⟩
        obtain ⟨hReady, hLoad⟩ := hStored hAvailable
        exact ⟨⟨hReady.kept, hReady.location⟩, hLoad⟩
    · exact h
  · cases hStep

/-- Whatever is given back in between, each part takes the message to its next stage. -/
theorem Stage.run {events : List Event} (hFits : m.Fits)
    (hTexts : m.Texts parse first second fourth) (hSteady : Steady r)
    (h : Stage m first second fourth later 0 r)
    (hRun : Run (Receiver.step parse) always r events r') (hCount : events.count .part ≤ 4) :
    Steady r' ∧ Stage m first second fourth later (events.count .part) r' := by
  let stage (k : Nat) (r : Receiver) : Prop := Steady r ∧ Stage m first second fourth later k r
  have hStart : stage 0 r := ⟨hSteady, h⟩
  have hEnd := hRun.staged stage (fun event => event == .part) 4 hStart
    (by rw [Nat.zero_add]; exact hCount) ?_ ?_
  · rw [Nat.zero_add] at hEnd
    exact hEnd
  · intro k s event t hs hk hPart _ hStep
    rw [eq_of_beq hPart] at hStep
    obtain ⟨t', hTaken, hNext⟩ := Stage.part hFits hTexts hs.1 hk hs.2
    cases hTaken.symm.trans hStep
    exact ⟨hs.1.step hStep, hNext⟩
  · intro k s event t hs hOther _ hStep
    cases event with
    | part => cases hOther
    | release id => exact ⟨hs.1.step hStep, Stage.release hs.2 hStep⟩

end Stages

section Publication

/-- What is published about the image. -/
def json (m : ImageMessage) : JsonDict :=
  ⟨[(acquisitionIDKey, .string m.acqID), (frameKey, .int m.frame), (seriesKey, .int m.series),
    (sizeKey, .int m.size), (startTimeKey, .int m.startTime), (stopTimeKey, .int m.stopTime),
    (realTimeKey, .int m.realTime), (shapeKey, .array [.int m.shape0, .int m.shape1]),
    (dataTypeKey, .string m.dataType), (encodingKey, .string m.encoding),
    (hashKey, .string m.hash)]⟩

/-- The dimensions of the image, slowest first. A third one counts if it is positive. -/
def dimensions (m : ImageMessage) : List Int :=
  (m.moreShape.head?.filter (0 < ·)).toList ++ [m.shape1, m.shape0]

/-- What the frame of the image is like. -/
structure Frames (m : ImageMessage) (frame : Frame) : Prop where
  frameNumber : frame.frameNumber = m.frame
  acquisitionID : frame.metaData.acquisitionID = m.acqID
  dimensions : frame.metaData.dimensions.map Int.ofNat = m.dimensions
  compressedSize : frame.metaData.parameters = [(compressedSizeKey, m.blob.length)]
  image : frame.image = m.blob

variable {m : ImageMessage} {buffer : FrameBuffer}

theorem toUInt32_of_nonneg {x : Int} (h : 0 ≤ x ∧ x ≤ maxInt32) : (toUInt32 x : Int) = x := by
  have hHigh : x < 2 ^ 32 := lt_of_le_of_lt h.2 (by decide)
  exact toUInt32_of_range h.1 hHigh

theorem toUInt64_of_nonneg {x : Int} (h : 0 ≤ x ∧ x ≤ maxInt64) : (toUInt64 x : Int) = x := by
  have hHigh : x < 2 ^ 64 := lt_of_le_of_lt h.2 (by decide)
  exact toUInt64_of_range h.1 hHigh

theorem imageJson_header (hFits : m.Fits) :
    imageJson m.header ⟨[(acquisitionIDKey, .string m.acqID)]⟩ = some m.json := by
  have hType : readText m.header.dataType = some m.dataType :=
    readText_strncpy_terminated hFits.dataType.1 hFits.dataType.2
  have hEncoding : readText m.header.encoding = some m.encoding :=
    readText_strncpy_terminated hFits.encoding.1 hFits.encoding.2
  have hHash : readText m.header.hash = some m.hash :=
    readText_strncpy_terminated hFits.hash.1 hFits.hash.2
  have hSeries : (m.header.series : Int) = m.series := toUInt32_of_nonneg hFits.series
  have hSize : (m.header.sizeInHeader : Int) = m.size := toUInt64_of_nonneg hFits.size
  have hStart : (m.header.startTime : Int) = m.startTime := toUInt64_of_nonneg hFits.startTime
  have hStop : (m.header.stopTime : Int) = m.stopTime := toUInt64_of_nonneg hFits.stopTime
  have hReal : (m.header.realTime : Int) = m.realTime := toUInt64_of_nonneg hFits.realTime
  have hX : (m.header.shapeSizeX : Int) = m.shape0 := toUInt32_of_nonneg hFits.shape0
  have hY : (m.header.shapeSizeY : Int) = m.shape1 := toUInt32_of_nonneg hFits.shape1
  rw [imageJson, hType, hEncoding, hHash, shapeValue, hSeries, hSize, hStart, hStop, hReal, hX, hY]
  rfl

theorem dimensions_header (hFits : m.Fits) (frame : FrameMetaData) :
    (setFrameDimensions m.header frame).dimensions.map Int.ofNat = m.dimensions := by
  have hX : (m.header.shapeSizeX : Int) = m.shape0 := toUInt32_of_nonneg hFits.shape0
  have hY : (m.header.shapeSizeY : Int) = m.shape1 := toUInt32_of_nonneg hFits.shape1
  have hZ : (if m.header.shapeSizeZ > 0 then [m.header.shapeSizeZ] else []).map Int.ofNat =
      (m.moreShape.head?.filter (0 < ·)).toList := by
    have hMore := hFits.moreShape
    have hZ : m.header.shapeSizeZ = (m.moreShape.head?.map toUInt32).getD 0 := rfl
    rw [hZ]
    cases hRest : m.moreShape with
    | nil => rfl
    | cons z rest =>
        rw [hRest] at hMore
        have hThird : (toUInt32 z : Int) = z := toUInt32_of_nonneg (hMore z List.mem_cons_self)
        show (if toUInt32 z > 0 then [toUInt32 z] else []).map Int.ofNat =
          ((some z).filter (0 < ·)).toList
        by_cases hPos : 0 < z
        · rw [if_pos (by omega), Option.filter_some_pos (by simpa using hPos)]
          show [(toUInt32 z : Int)] = [z]
          rw [hThird]
        · rw [if_neg (by omega), Option.filter_some_neg (by simpa using hPos)]
          rfl
  rw [setFrameDimensions, List.map_append, hZ, dimensions]
  show _ ++ [(m.header.shapeSizeY : Int), (m.header.shapeSizeX : Int)] = _
  rw [hX, hY]

/-- The meta data of an image is complete but for a data type that is not known. -/
theorem imageMetaData_header (hFits : m.Fits) :
    ∃ metaData, imageMetaData m.header = some metaData ∧ metaData.acquisitionID = m.acqID ∧
      metaData.dimensions.map Int.ofNat = m.dimensions ∧
      metaData.parameters = [(compressedSizeKey, m.header.dataSize)] := by
  have hType : readText m.header.dataType = some m.dataType :=
    readText_strncpy_terminated hFits.dataType.1 hFits.dataType.2
  have hEncoding : readText m.header.encoding = some m.encoding :=
    readText_strncpy_terminated hFits.encoding.1 hFits.encoding.2
  have hID : readText m.header.acquisitionID = some m.acqID :=
    readText_strncpy hFits.acqID.1 (Nat.lt_succ_of_le hFits.acqID.2)
  have hEncoded : ∀ frame, ∃ frame', setFrameEncoding m.header frame = some frame' := by
    intro frame
    rw [setFrameEncoding, hEncoding]
    simp only [Option.bind_eq_bind, Option.bind_some]
    split
    · split <;> exact ⟨_, rfl⟩
    · exact ⟨_, rfl⟩
  have hTyped : ∀ frame, ∃ frame', setFrameDataType m.header frame = some frame' := by
    intro frame
    rw [setFrameDataType, hType]
    simp only [Option.bind_eq_bind, Option.bind_some]
    split
    · exact ⟨_, rfl⟩
    split
    · exact ⟨_, rfl⟩
    split <;> exact ⟨_, rfl⟩
  obtain ⟨encoded, hEncoded⟩ := hEncoded ⟨bytes "data", none, none, [], [], []⟩
  obtain ⟨typed, hTyped⟩ := hTyped encoded
  refine ⟨{ setFrameDimensions m.header typed with
    acquisitionID := m.acqID
    parameters := [(compressedSizeKey, m.header.dataSize)] }, ?_, rfl,
    dimensions_header hFits typed, rfl⟩
  unfold imageMetaData
  simp only [hEncoded, hTyped, hID, Option.bind_eq_bind, Option.bind_some]
  rfl

/-- The plugin publishes what the message says, and passes its frame on. -/
theorem processFrame_header (framework : Framework) (hFits : m.Fits)
    (hHeader : buffer.header = m.header)
    (hBlob : buffer.payload.load m.blob.length = m.blob) :
    ∃ frame, processFrame framework buffer =
      some [.publishMeta framework.name (bytes "eiger-imagedata") (framework.str m.json)
        (framework.str m.json), .push frame] ∧ m.Frames frame := by
  have hID : readText m.header.acquisitionID = some m.acqID :=
    readText_strncpy hFits.acqID.1 (Nat.lt_succ_of_le hFits.acqID.2)
  have hSize : m.header.dataSize = m.blob.length := toUInt32_natCast hFits.blob
  obtain ⟨metaData, hMeta, hMetaID, hDimensions, hParameters⟩ := imageMetaData_header hFits
  rw [hSize] at hParameters
  refine ⟨⟨buffer, m.header.dataSize, metaData, m.header.frameNumber⟩, ?_, rfl, hMetaID,
    hDimensions, hParameters, ?_⟩
  · have hImage : processFrame framework buffer =
        processImage framework buffer ⟨[(acquisitionIDKey, .string m.acqID)]⟩ := by
      rw [processFrame, hHeader, hID]
      rfl
    rw [hImage, processImage, hHeader, hMeta, imageJson_header hFits]
    rfl
  · rw [Frame.image, hSize]
    exact hBlob

end Publication

/-- From any state between two messages, with any buffers given back in between, all
parts of an image are processed; and if there was a buffer for its blob, then what is
handed over makes the plugin publish what the message says and pass on its frame. -/
theorem image_survives {parse : Parser} {garbage : Uninitialised} {ids : List Nat}
    {messages later : List (List Bytes)} {before events : List Event} {r r' : Receiver}
    {m : ImageMessage} {first second fourth : Bytes} (framework : Framework)
    (hReached : Run (Receiver.step parse) always (.initial garbage ids messages) before r)
    (hBoundary : r.complete = true)
    (hStream : r.stream = [first, second, m.blob, fourth] :: later)
    (hTexts : m.Texts parse first second fourth) (hFits : m.Fits)
    (hRun : Run (Receiver.step parse) always r events r') :
    (events.count .part < 4 → ∃ r'', r'.step parse .part = some r'') ∧
    (events.count .part = 4 → ∃ arrival, r'.arrivals[2]? = some arrival ∧
      arrival.part = m.blob ∧ (arrival.available = true → ∃ call frame, r'.calls = [call] ∧
        processFrame framework call.buffer =
          some [.publishMeta framework.name (bytes "eiger-imagedata") (framework.str m.json)
            (framework.str m.json), .push frame] ∧ m.Frames frame)) := by
  have hSteady := steady_of_run hReached
  have hStart : Stage m first second fourth later 0 r := ⟨hBoundary, hStream⟩
  constructor
  · intro hCount
    obtain ⟨hSteady', hStage⟩ := Stage.run hFits hTexts hSteady hStart hRun (le_of_lt hCount)
    obtain ⟨r'', hStep, _⟩ := Stage.part hFits hTexts hSteady' hCount hStage
    exact ⟨r'', hStep⟩
  · intro hCount
    obtain ⟨_, hStage⟩ := Stage.run hFits hTexts hSteady hStart hRun (le_of_eq hCount)
    rw [hCount] at hStage
    obtain ⟨arrival, hArrival, hPart, hHandedOver⟩ := hStage
    refine ⟨arrival, hArrival, hPart, fun hAvailable => ?_⟩
    obtain ⟨call, hCalls, hHeader, hBlob⟩ := hHandedOver hAvailable
    obtain ⟨frame, hOutput, hFrame⟩ := processFrame_header framework hFits hHeader hBlob
    exact ⟨call, frame, hCalls, hOutput, hFrame⟩

/-- What the parts of the sample image say. -/
def sample : ImageMessage where
  frame := 5
  series := 1
  hash := bytes "ab"
  acqID := bytes "a"
  shape0 := 3
  shape1 := 2
  moreShape := []
  dataType := bytes "uint16"
  encoding := bytes "lz4<"
  size := 12
  blob := [7, 8]
  startTime := 10
  stopTime := 30
  realTime := 20

theorem sample_texts : sample.Texts sampleParser sampleImage.1 sampleImaged.1 sampleTimes.1 where
  first_says := ⟨sampleImage.2, rfl, rfl, rfl, rfl, rfl, rfl⟩
  second_says := ⟨sampleImaged.2, rfl, rfl, rfl, rfl, rfl⟩
  fourth_says := ⟨sampleTimes.2, rfl, rfl, rfl, rfl⟩

theorem sample_fits : sample.Fits where
  frame := by decide
  series := by decide
  shape0 := by decide
  shape1 := by decide
  moreShape := nofun
  size := by decide
  startTime := by decide
  stopTime := by decide
  realTime := by decide
  hash := by decide
  dataType := by decide
  encoding := by decide
  acqID := by decide
  blob := by decide

/-- The compact text of a scalar or an array of scalars. -/
def memberText : Value → Bytes
  | .array elements =>
      bytes "[" ++ (bytes ",").intercalate (elements.map Fan.scalarText) ++ bytes "]"
  | value => Fan.scalarText value

/-- A framework that writes the members of a dictionary in their order. -/
def sampleFramework : Framework where
  name := bytes "eiger"
  str json :=
    let texts := json.members.map fun (key, value) =>
      Fan.scalarText (.string key) ++ bytes ":" ++ memberText value
    bytes "\x7b" ++ (bytes ",").intercalate texts ++ bytes "\x7d"

/-- The image after one that was dropped, with the one buffer back from downstream. -/
theorem image_survives_after_dropped :
    ∃ r r' call frame,
      Run (Receiver.step sampleParser) always
        (.initial zeroed [0] [[sampleEnd.1], imageMessage, imageMessage])
        [.part, .part, .part, .part, .part, .release 0] r ∧
      Run (Receiver.step sampleParser) always r [.part, .part, .part, .part] r' ∧
      r'.calls = [call] ∧
      processFrame sampleFramework call.buffer =
        some [.publishMeta (bytes "eiger") (bytes "eiger-imagedata")
          (sampleFramework.str sample.json) (sampleFramework.str sample.json), .push frame] ∧ sample.Frames frame := by
  have hExec : ((exec (Receiver.step sampleParser)
      (.initial zeroed [0] [[sampleEnd.1], imageMessage, imageMessage])
      [.part, .part, .part, .part, .part, .release 0]).bind fun r =>
        (exec (Receiver.step sampleParser) r [.part, .part, .part, .part]).map fun r' =>
          (r.complete, r.stream, (r'.arrivals.map Arrival.available)[2]?)) =
      some (true, [imageMessage], some true) := by decide +kernel
  obtain ⟨r, hReached, hRest⟩ := Option.bind_eq_some_iff.mp hExec
  obtain ⟨r', hRun, hEnd⟩ := Option.map_eq_some_iff.mp hRest
  obtain ⟨hBoundary, hLast⟩ := Prod.mk.inj hEnd
  obtain ⟨hStream, hAvailable⟩ := Prod.mk.inj hLast
  have hReached := run_always_iff.mpr hReached
  have hRun := run_always_iff.mpr hRun
  have hNext : r.stream = [[sampleImage.1, sampleImaged.1, sample.blob, sampleTimes.1]] := hStream
  obtain ⟨_, hDelivered⟩ :=
    image_survives sampleFramework hReached hBoundary hNext sample_texts sample_fits hRun
  obtain ⟨arrival, hArrival, _, hSurvives⟩ := hDelivered rfl
  rw [List.getElem?_map, hArrival] at hAvailable
  obtain ⟨call, frame, hCalls, hOutput, hFrame⟩ := hSurvives (Option.some.inj hAvailable)
  exact ⟨r, r', call, frame, hReached, hRun, hCalls, hOutput, hFrame⟩

end ImageMessage

end Eiger
