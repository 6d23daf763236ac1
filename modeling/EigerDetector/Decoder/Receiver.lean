import EigerDetector.Decoder.Pool
import EigerDetector.Library.Transition

/-! The receiver drives the decoder part by part, while the processes downstream
give buffers back at any time. -/
namespace Eiger.Decoder

open CharArrays FixedWidth Rapidjson Lending Transition

/-- A part that arrived: whether a buffer was available for it, and the calls it led to. -/
structure Arrival where
  part : Bytes
  available : Bool
  calls : List ReadyCall

/-- The decoder, the buffers downstream and the messages still to come. Of the
message at hand there is a record: the decoder before it and its parts so far. -/
structure Receiver where
  decoder : EigerFrameDecoder
  downstream : List ReadyCall
  stream : List (List Bytes)
  before : EigerFrameDecoder
  arrivals : List Arrival
  complete : Bool

inductive Event where
  | part
  | release (id : Int)
  deriving DecidableEq

/-- `push_empty_buffer`. -/
def EigerFrameDecoder.pushEmptyBuffer (id : Int) (d : EigerFrameDecoder) : EigerFrameDecoder :=
  { d with pool := { d.pool with emptyBufferQueue := d.pool.emptyBufferQueue ++ [id] } }

/-- The calls that were made are taken note of. -/
def EigerFrameDecoder.callsTaken (d : EigerFrameDecoder) : EigerFrameDecoder :=
  { d with pool := { d.pool with readyCalls := [] } }

/-- The next part, whether it is the last one of its message, and what follows it. -/
def nextPart : List (List Bytes) → Option (Bytes × Bool × List (List Bytes))
  | [part] :: later => some (part, true, later)
  | (part :: more) :: later => some (part, false, more :: later)
  | _ => none

namespace Receiver

variable (parse : Parser)

def initial (garbage : Uninitialised) (ids : List Nat) (stream : List (List Bytes)) : Receiver where
  decoder := Decoder.initial garbage ids
  downstream := []
  stream := stream
  before := Decoder.initial garbage ids
  arrivals := []
  complete := true

/-- The parts before the next one that belong to its message. -/
def earlier (r : Receiver) : List Arrival := if r.complete then [] else r.arrivals

/-- The parts of the message at hand. -/
def parts (r : Receiver) : List Bytes := r.arrivals.map Arrival.part

/-- The calls for the message at hand. -/
def calls (r : Receiver) : List ReadyCall := r.arrivals.flatMap Arrival.calls

/-- The decoder has processed a part. -/
def received (part : Bytes) (last : Bool) (later : List (List Bytes)) (d : EigerFrameDecoder)
    (r : Receiver) : Receiver where
  decoder := d.callsTaken
  downstream := r.downstream ++ d.pool.readyCalls
  stream := later
  before := if r.complete then r.decoder else r.before
  arrivals := r.earlier ++ [⟨part, r.decoder.pool.Available, d.pool.readyCalls⟩]
  complete := last

/-- A buffer that is downstream comes back. -/
def released (id : Int) (r : Receiver) : Receiver :=
  { r with
    decoder := r.decoder.pushEmptyBuffer id
    downstream := r.downstream.eraseP fun call => call.bufferId = id }

def step (r : Receiver) : Event → Option Receiver
  | .part => (nextPart r.stream).bind fun (part, last, later) =>
      (r.decoder.receivePart parse part last).map fun d => r.received part last later d
  | .release id =>
      if id ∈ r.downstream.map ReadyCall.bufferId then some (r.released id) else none

end Receiver

/-- From which part on the message is to cause no frame. -/
def FirstPart.surplus : FirstPart → Option Nat
  | unreadable => some 0
  | unknown => some 0
  | header .. => none
  | image .. => some 5
  | endOfSeries .. => some 1

def surplusFrom (parse : Parser) (parts : List Bytes) : Option Nat :=
  (parts.head?.bind (readFirstPart parse)).bind FirstPart.surplus

/-- The last of these parts of one message is one that is to cause no frame. -/
def Unwanted (parse : Parser) (parts : List Bytes) : Prop :=
  ∃ n ∈ surplusFrom parse parts, n < parts.length

instance (parse : Parser) (parts : List Bytes) : Decidable (Unwanted parse parts) :=
  inferInstanceAs (Decidable (∃ n ∈ surplusFrom parse parts, n < parts.length))

/-- Whatever the next part holds, it causes no call: it is read as a first part of a
message, or it is followed by no send, or the data is dropped. -/
def EigerFrameDecoder.Quiet (d : EigerFrameDecoder) : Prop :=
  d.currentMessagePart = 1 ∨ ¬ SendsAt d.currentMessageType d.currentMessagePart ∨
    if Allocates d.currentParentMessageType d.currentMessagePart then ¬ d.pool.Available
    else d.pool.droppingFrameData = true

instance (d : EigerFrameDecoder) : Decidable d.Quiet :=
  inferInstanceAs (Decidable (_ ∨ _ ∨ ite _ _ _))

/-- An unwanted part finds the decoder in a state where it causes no call. -/
def Receiver.Guarded (parse : Parser) (r : Receiver) : Event → Prop
  | .part => ∀ next ∈ nextPart r.stream,
      Unwanted parse (r.earlier.map Arrival.part ++ [next.1]) → r.decoder.Quiet
  | .release _ => True

instance (parse : Parser) (r : Receiver) (event : Event) : Decidable (r.Guarded parse event) :=
  match event with
  | .part => inferInstanceAs (Decidable (∀ next ∈ nextPart r.stream,
      Unwanted parse (r.earlier.map Arrival.part ++ [next.1]) → r.decoder.Quiet))
  | .release _ => .isTrue trivial

/-- How many parts a message has that begins with this first part. -/
def FirstPart.Emits (count : Nat) : FirstPart → Prop
  | unreadable => False
  | unknown => False
  | header _ detail _ =>
      (detail = headerDetailNone ∧ (count = 1 ∨ count = 2)) ∨
      (detail = headerDetailBasic ∧ (count = 2 ∨ count = 3)) ∨
      (detail = headerDetailAll ∧ (count = 8 ∨ count = 9))
  | image .. => count = 4 ∨ count = 5
  | endOfSeries .. => count = 1

/-- A message the fan can emit. -/
def Emittable (parse : Parser) (message : List Bytes) : Prop :=
  ∃ kind, message.head?.bind (readFirstPart parse) = some kind ∧ kind.Emits message.length

/-- The messages that are not over yet, each with the parts that arrived. -/
def Receiver.unfinished (r : Receiver) : List (List Bytes) :=
  if r.complete then r.stream else (r.parts ++ r.stream.headD []) :: r.stream.tail

section Messages

variable {parse : Parser} {r r' : Receiver}

theorem Receiver.step_part (h : r.step parse .part = some r') :
    ∃ part last later d', nextPart r.stream = some (part, last, later) ∧
      r.decoder.receivePart parse part last = some d' ∧ r' = r.received part last later d' := by
  obtain ⟨⟨part, last, later⟩, hNext, hReceive⟩ := Option.bind_eq_some_iff.mp h
  obtain ⟨d', hDecoder, rfl⟩ := Option.map_eq_some_iff.mp hReceive
  exact ⟨part, last, later, d', hNext, hDecoder, rfl⟩

theorem Receiver.received_parts (r : Receiver) (part : Bytes) (last : Bool)
    (later : List (List Bytes)) (d : EigerFrameDecoder) :
    (r.received part last later d).parts = r.earlier.map Arrival.part ++ [part] := by
  rw [parts, received, List.map_append]
  rfl

theorem Receiver.received_length (r : Receiver) (part : Bytes) (last : Bool)
    (later : List (List Bytes)) (d : EigerFrameDecoder) :
    (r.received part last later d).arrivals.length = r.earlier.length + 1 := by
  rw [received, List.length_append]
  rfl

theorem nextPart_some {stream later : List (List Bytes)} {part : Bytes} {last : Bool}
    (h : nextPart stream = some (part, last, later)) :
    ∃ more rest, stream = (part :: more) :: rest ∧
      ((last = true ∧ more = [] ∧ later = rest) ∨
        (last = false ∧ more ≠ [] ∧ later = more :: rest)) := by
  unfold nextPart at h
  split at h
  · cases h
    exact ⟨[], _, rfl, .inl ⟨rfl, rfl, rfl⟩⟩
  · next more rest hMore =>
      cases h
      exact ⟨_, _, rfl, .inr ⟨rfl, fun hNone => hMore (by rw [hNone]), rfl⟩⟩
  · cases h

/-- The next part belongs to the first message that is not over, and the messages
that are not over after it are those before it, up to this one. -/
theorem Receiver.unfinished_next {part : Bytes} {last : Bool} {later : List (List Bytes)}
    (h : nextPart r.stream = some (part, last, later)) (d : EigerFrameDecoder) :
    ∃ more rest, r.unfinished = (r.earlier.map Arrival.part ++ part :: more) :: rest ∧
      ((last = true ∧ more = [] ∧ (r.received part last later d).unfinished = rest) ∨
        (last = false ∧ more ≠ [] ∧
          (r.received part last later d).unfinished = r.unfinished)) := by
  obtain ⟨more, rest, hStream, hLast⟩ := nextPart_some h
  have hUnfinished : r.unfinished = (r.earlier.map Arrival.part ++ part :: more) :: rest := by
    rw [unfinished, earlier, hStream]
    by_cases hComplete : r.complete = true
    · rw [if_pos hComplete, if_pos hComplete]
      rfl
    · rw [if_neg hComplete, if_neg hComplete]
      rfl
  refine ⟨more, rest, hUnfinished, ?_⟩
  rcases hLast with ⟨rfl, hMore, rfl⟩ | ⟨rfl, hMore, rfl⟩
  · exact .inl ⟨rfl, hMore, rfl⟩
  · refine .inr ⟨rfl, hMore, ?_⟩
    rw [hUnfinished]
    show ((r.received part false (more :: rest) d).parts ++ more) :: rest = _
    rw [received_parts, List.append_assoc]
    rfl

/-- Every message that is not over was one of the stream from the start. -/
theorem Receiver.unfinished_step {event : Event} (h : r.step parse event = some r') :
    ∀ message ∈ r'.unfinished, message ∈ r.unfinished := by
  cases event with
  | part =>
      obtain ⟨part, last, later, d', hNext, _, rfl⟩ := step_part h
      obtain ⟨more, rest, hBefore, hAfter⟩ := unfinished_next hNext d'
      rcases hAfter with ⟨_, _, hRest⟩ | ⟨_, _, hSame⟩
      · intro message hMessage
        rw [hRest] at hMessage
        rw [hBefore]
        exact List.mem_cons_of_mem _ hMessage
      · rw [hSame]
        exact fun _ hMessage => hMessage
  | release id =>
      rw [step] at h
      split at h
      · cases h
        exact fun _ hMessage => hMessage
      · cases h

/-- The messages that are not over in a run are some of those of its stream. -/
theorem Receiver.unfinished_of_run {garbage : Uninitialised} {ids : List Nat}
    {messages : List (List Bytes)} {events : List Event} {allowed : Receiver → Event → Prop}
    (hRun : Run (step parse) allowed (.initial garbage ids messages) events r) :
    ∀ message ∈ r.unfinished, message ∈ messages := by
  let inv (r : Receiver) : Prop := ∀ message ∈ r.unfinished, message ∈ messages
  have hInit : inv (.initial garbage ids messages) := fun _ hMessage => hMessage
  exact hRun.invariant hInit fun s event t hMessages _ hStep message hMessage =>
    hMessages message (unfinished_step hStep message hMessage)

end Messages

/-- A parser which knows the given texts. -/
def Parser.ofTexts (texts : List (Bytes × Value)) : Parser := fun text =>
  (texts.find? fun (known, _) => known = text).map Prod.snd

def sampleHeader : Bytes × Value :=
  (bytes "\x7b\"htype\":\"dheader-1.0\",\"series\":1,\"header_detail\":\"basic\",\"acqID\":\"a\"\x7d",
    .object [(headerTypeKey, .string globalHeaderType), (seriesKey, .int 1),
      (headerDetailKey, .string headerDetailBasic), (acquisitionIDKey, .string (bytes "a"))])

def sampleImage : Bytes × Value :=
  (bytes "\x7b\"htype\":\"dimage-1.0\",\"series\":1,\"frame\":5,\"hash\":\"ab\",\"acqID\":\"a\"\x7d",
    .object [(headerTypeKey, .string imageHeaderType), (seriesKey, .int 1), (frameKey, .int 5),
      (hashKey, .string (bytes "ab")), (acquisitionIDKey, .string (bytes "a"))])

def sampleImaged : Bytes × Value :=
  (bytes "\x7b\"shape\":[3,2],\"type\":\"uint16\",\"encoding\":\"lz4<\",\"size\":12\x7d",
    .object [(shapeKey, .array [.int 3, .int 2]), (dataTypeKey, .string (bytes "uint16")),
      (encodingKey, .string (bytes "lz4<")), (sizeKey, .int 12)])

def sampleTimes : Bytes × Value :=
  (bytes "\x7b\"start_time\":10,\"stop_time\":30,\"real_time\":20\x7d",
    .object [(startTimeKey, .int 10), (stopTimeKey, .int 30), (realTimeKey, .int 20)])

def sampleEnd : Bytes × Value :=
  (bytes "\x7b\"htype\":\"dseries_end-1.0\",\"series\":1,\"acqID\":\"a\"\x7d",
    .object [(headerTypeKey, .string endHeaderType), (seriesKey, .int 1),
      (acquisitionIDKey, .string (bytes "a"))])

def sampleParser : Parser :=
  .ofTexts [sampleHeader, sampleImage, sampleImaged, sampleTimes, sampleEnd]

/-- An image whose blob is two bytes long. -/
def imageMessage : List Bytes := [sampleImage.1, sampleImaged.1, [7, 8], sampleTimes.1]

theorem sampleHeader_read : readFirstPart sampleParser sampleHeader.1 =
    some (.header 1 headerDetailBasic (some (bytes "a"))) := by decide +kernel

theorem sampleImage_read : readFirstPart sampleParser sampleImage.1 =
    some (.image 5 1 (bytes "ab") (some (bytes "a"))) := by decide +kernel

theorem sampleEnd_read : readFirstPart sampleParser sampleEnd.1 =
    some (.endOfSeries 1 (bytes "a")) := by decide +kernel

theorem sampleHeader_emittable : Emittable sampleParser [sampleHeader.1, [1]] :=
  ⟨_, sampleHeader_read, .inr (.inl ⟨rfl, .inl rfl⟩)⟩

theorem imageMessage_emittable : Emittable sampleParser imageMessage :=
  ⟨_, sampleImage_read, .inl rfl⟩

theorem sampleEnd_emittable : Emittable sampleParser [sampleEnd.1] := ⟨_, sampleEnd_read, rfl⟩

/-- Memory which happens to be zero. -/
def zeroed : Uninitialised :=
  let header : FrameHeader := ⟨.globalHeaderNone, 0, 0, 0, 0, 0, 0, 0, 0, 0, 0,
    strncpy 33 [], strncpy 11 [], strncpy 8 [], strncpy 256 []⟩
  ⟨fun _ => 0, ⟨header, fun _ => 0⟩, fun _ => ⟨header, fun _ => 0⟩, header⟩

end Eiger.Decoder
