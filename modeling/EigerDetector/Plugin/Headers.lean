import EigerDetector.Decoder.Numbering
import EigerDetector.Plugin.Survival

/-! The header in front of an image that is handed on, whatever was dropped before it and
whatever is still to come of its message. -/
namespace Eiger.ImageMessage

open CharArrays FixedWidth Rapidjson Transition Decoder

/-- The parts of an image that says this; an appendix may follow. -/
def SaidBy (parse : Parser) (m : ImageMessage) (parts : List Bytes) : Prop :=
  m.Fits ∧ ∃ first second fourth more, parts = first :: second :: m.blob :: fourth :: more ∧
    m.Texts parse first second fourth

/-- The header after so many parts of the image. -/
def HeaderAfter (m : ImageMessage) : Nat → FrameHeader → Prop
  | 1, h => ∃ old, h = m.started old
  | 2, h => ∃ old, h = m.imaged (m.started old)
  | 3, h => ∃ old, h = m.sized (m.imaged (m.started old))
  | _, _ => True

/-- Whatever is handed over as the data of the image has its header. -/
def HeadsCalls (m : ImageMessage) (calls : List ReadyCall) : Prop :=
  ∀ call ∈ calls, call.header.messageType = .imageData → call.header = m.header

/-- The image at hand is in the header as far as it has come. -/
structure Headed (m : ImageMessage) (r : Receiver) : Prop where
  current : r.complete = false → m.HeaderAfter r.parts.length r.decoder.currentHeader
  handed : m.HeadsCalls r.calls

/-- This holds of whatever image the parts may come to be those of. -/
def AllHeaded (parse : Parser) (r : Receiver) : Prop :=
  ∀ (m : ImageMessage) (more : List Bytes), m.SaidBy parse (r.parts ++ more) → Headed m r

section Parts

variable {parse : Parser} {m : ImageMessage} {d d' : EigerFrameDecoder} {part : Bytes}
variable {last : Bool} {arrivals : List Arrival} {more : List Bytes}

theorem headsCalls_nil (m : ImageMessage) : m.HeadsCalls [] := by
  intro call hCall
  cases hCall

/-- The first part begins the header. -/
theorem first_headed (hSaid : m.SaidBy parse (part :: more)) (hPart : d.currentMessagePart = 1)
    (hReceive : d.receivePart parse part last = some d') :
    ∃ e : EigerFrameDecoder, d' = e.advance.frameMetaData last ∧
      m.HeaderAfter 1 e.currentHeader ∧ e.pool = d.pool := by
  obtain ⟨hFits, first, second, fourth, others, hParts, hTexts⟩ := hSaid
  cases hParts
  obtain ⟨doc, hParse, hSays⟩ := hTexts.first_says
  rw [EigerFrameDecoder.receivePart_first parse hPart, readFirstPart_says hFits hParse hSays]
    at hReceive
  cases hReceive
  exact ⟨_, rfl, ⟨d.currentHeader, rfl⟩, rfl⟩

theorem imaged_headed (hSaid : m.SaidBy parse (arrivals.map Arrival.part ++ part :: more))
    (hAt : arrivals.length = 1) (hInside : InImage d arrivals)
    (hHeader : m.HeaderAfter 1 d.currentHeader)
    (hReceive : d.receivePart parse part last = some d') :
    ∃ e : EigerFrameDecoder, d' = e.advance.frameMetaData last ∧
      m.HeaderAfter 2 e.currentHeader ∧ e.pool = d.pool := by
  obtain ⟨hFits, first, second, fourth, others, hParts, hTexts⟩ := hSaid
  obtain ⟨arrival, rfl⟩ := List.length_eq_one_iff.mp hAt
  cases hParts
  obtain ⟨doc, hParse, hSays⟩ := hTexts.second_says
  obtain ⟨old, hOld⟩ := hHeader
  have hDocument : d.documentAfter parse part = doc := by
    rw [EigerFrameDecoder.documentAfter, hParse]
    rfl
  rw [EigerFrameDecoder.image_imaged hInside.counter hInside.parent hInside.type, hDocument,
    readImaged_says hFits hSays, hOld] at hReceive
  cases hReceive
  exact ⟨_, rfl, ⟨old, rfl⟩, rfl⟩

theorem blob_headed (hSaid : m.SaidBy parse (arrivals.map Arrival.part ++ part :: more))
    (hAt : arrivals.length = 2) (hInside : InImage d arrivals)
    (hHeader : m.HeaderAfter 2 d.currentHeader)
    (hReceive : d.receivePart parse part last = some d') :
    ∃ e : EigerFrameDecoder, d' = e.advance.frameMetaData last ∧
      m.HeaderAfter 3 e.currentHeader ∧ e.pool.readyCalls = d.pool.readyCalls := by
  obtain ⟨hFits, first, second, fourth, others, hParts, hTexts⟩ := hSaid
  obtain ⟨arrival, arrival', rfl⟩ := List.length_eq_two.mp hAt
  cases hParts
  obtain ⟨old, hOld⟩ := hHeader
  rw [EigerFrameDecoder.image_blob hInside.counter hInside.parent hInside.type] at hReceive
  obtain ⟨pool, hStore, rfl⟩ := Option.map_eq_some_iff.mp hReceive
  obtain ⟨_, _, hCalls, _⟩ := BufferPool.storePayload_frame hStore
  refine ⟨_, rfl, ⟨old, ?_⟩, hCalls.trans d.pool.allocate_frame.1⟩
  rw [← hOld]
  rfl

/-- A buffer goes out under the header it has, or nothing goes out. -/
theorem sent_headed {e : EigerFrameDecoder} (hSend : d.sendBuffer = some e)
    (hTaken : d.pool.readyCalls = [])
    (hSent : d.sentHeader.messageType = .imageData → d.sentHeader = m.header) :
    m.HeadsCalls e.pool.readyCalls := by
  rcases EigerFrameDecoder.sendBuffer_cases hSend with ⟨_, rfl⟩ | ⟨_, _, call, hCall, hMade⟩
  · rw [hTaken]
    exact headsCalls_nil m
  · intro made hMem
    rw [hMade, hTaken] at hMem
    rw [List.mem_singleton.mp hMem, ReadyCall.header, hCall]
    exact hSent

/-- The image goes out with the header that it says, if there is a buffer for it. -/
theorem times_headed (hSaid : m.SaidBy parse (arrivals.map Arrival.part ++ part :: more))
    (hAt : arrivals.length = 3) (hInside : InImage d arrivals)
    (hHeader : m.HeaderAfter 3 d.currentHeader) (hTaken : d.pool.readyCalls = [])
    (hReceive : d.receivePart parse part last = some d') :
    ∃ e : EigerFrameDecoder, d' = e.advance.frameMetaData last ∧
      m.HeadsCalls e.pool.readyCalls := by
  obtain ⟨hFits, first, second, fourth, others, hParts, hTexts⟩ := hSaid
  obtain ⟨arrival, arrival', arrival'', rfl⟩ := List.length_eq_three.mp hAt
  simp only [List.map_cons, List.map_nil, List.cons_append, List.nil_append,
    List.cons.injEq] at hParts
  obtain ⟨rfl, rfl, _, rfl, rfl⟩ := hParts
  obtain ⟨doc, hParse, hSays⟩ := hTexts.fourth_says
  obtain ⟨old, hOld⟩ := hHeader
  have hDocument : d.documentAfter parse part = doc := by
    rw [EigerFrameDecoder.documentAfter, hParse]
    rfl
  rw [EigerFrameDecoder.image_times hInside.counter hInside.parent hInside.type, hDocument, hOld,
    readTimes_says hFits hSays, Option.bind_some] at hReceive
  obtain ⟨e, hSend, rfl⟩ := Option.map_eq_some_iff.mp hReceive
  refine ⟨e, rfl, sent_headed hSend hTaken fun _ => ?_⟩
  show { m.timed (m.sized (m.imaged (m.started old))) with
    messageType := d.currentMessageType } = m.header
  rw [hInside.type, m.header_eq]

/-- What follows goes out as an appendix. -/
theorem appendix_headed (hAt : arrivals.length = 4) (hInside : InImage d arrivals)
    (hTaken : d.pool.readyCalls = []) (hReceive : d.receivePart parse part last = some d') :
    ∃ e : EigerFrameDecoder, d' = e.advance.frameMetaData last ∧
      m.HeadsCalls e.pool.readyCalls := by
  have hPart : d.currentMessagePart = imageDataAppendixPart := by
    rw [hInside.counter, hAt]
    rfl
  have hOut : d.GoesOut parse .imageAppendix part :=
    EigerFrameDecoder.imageAppendix_goesOut hPart hInside.parent hInside.type
  rw [EigerFrameDecoder.receivePart_later parse (EigerFrameDecoder.goesOut_later hOut)] at hReceive
  obtain ⟨a, hAccept, hRest⟩ := Option.bind_eq_some_iff.mp hReceive
  obtain ⟨e, hSend, rfl⟩ := Option.map_eq_some_iff.mp hRest
  rw [hOut.2 a hAccept] at hSend
  have hNone : a.pool.readyCalls = [] := (EigerFrameDecoder.accept_calls hAccept).trans hTaken
  refine ⟨e, rfl, sent_headed hSend hNone fun hType => ?_⟩
  cases hType

end Parts

section Runs

variable {parse : Parser} {ids : List Nat} {m : ImageMessage} {r r' : Receiver} {part : Bytes}
variable {last : Bool} {coming : List (List Bytes)} {d' : EigerFrameDecoder} {more : List Bytes}

/-- A part keeps to the header, if the decoder does. -/
theorem Headed.received {e : EigerFrameDecoder} (hEarlier : m.HeadsCalls
      (r.earlier.flatMap Arrival.calls))
    (hHeader : m.HeaderAfter (r.earlier.length + 1) e.currentHeader)
    (hCalls : m.HeadsCalls e.pool.readyCalls) :
    Headed m (r.received part last coming (e.advance.frameMetaData last)) := by
  refine ⟨fun hMore => ?_, ?_⟩
  · have hMore : last = false := hMore
    subst hMore
    rw [Receiver.parts, List.length_map, Receiver.received, List.length_append]
    exact hHeader
  · rw [Receiver.calls, Receiver.received, List.flatMap_append, List.flatMap_singleton,
      (EigerFrameDecoder.finish_frame last e).1]
    intro call hCall
    rcases List.mem_append.mp hCall with hEarly | hNew
    · exact hEarlier call hEarly
    · exact hCalls call hNew

theorem AllHeaded.first (hSound : Sound parse ids r) (hComplete : r.complete = true)
    (hReceive : r.decoder.receivePart parse part last = some d') :
    AllHeaded parse (r.received part last coming d') := by
  intro m more hSaid
  have hEarlier : r.earlier = [] := if_pos hComplete
  rw [Receiver.received_parts, hEarlier] at hSaid
  obtain ⟨e, rfl, hHeader, hPool⟩ :=
    first_headed hSaid (hSound.boundary hComplete) hReceive
  refine .received ?_ ?_ ?_
  · rw [hEarlier]
    exact headsCalls_nil m
  · rw [hEarlier]
    exact hHeader
  · rw [hPool, hSound.taken]
    exact headsCalls_nil m

theorem AllHeaded.later (h : AllHeaded parse r) (hEmitting : Emitting parse r)
    (hSound : Sound parse ids r) (hOpen : r.complete = false)
    (hReceive : r.decoder.receivePart parse part last = some d') :
    AllHeaded parse (r.received part last coming d') := by
  intro m more hSaid
  have hEarlier : r.earlier = r.arrivals := by
    rw [Receiver.earlier, hOpen]
    rfl
  rw [Receiver.received_parts, hEarlier, List.append_assoc] at hSaid
  have hSaid : m.SaidBy parse (r.arrivals.map Arrival.part ++ part :: more) := hSaid
  obtain ⟨hCurrent, hHanded⟩ := h m (part :: more) hSaid
  have hHeader := hCurrent hOpen
  obtain ⟨kind, hKind, hStage⟩ := hEmitting.stage hOpen
  have hInside : InImage r.decoder r.arrivals := by
    obtain ⟨hFits, first, second, fourth, others, hParts, hTexts⟩ := hSaid
    obtain ⟨doc, hParse, hSays⟩ := hTexts.first_says
    have hRead := readFirstPart_says hFits hParse hSays
    obtain ⟨found, hFirst, hFound⟩ := Option.bind_eq_some_iff.mp hKind
    have hHead : (r.arrivals.map Arrival.part ++ part :: more).head? = some found := by
      rw [List.head?_append, ← Receiver.parts, hFirst]
      rfl
    rw [hParts] at hHead
    cases hHead
    cases hRead.symm.trans hFound
    exact hStage
  have hLength : r.parts.length = r.arrivals.length := List.length_map _
  have hSome : 1 ≤ r.arrivals.length := List.length_pos_iff.mpr hInside.started
  have hFew := hInside.few
  have hAt : r.arrivals.length = 1 ∨ r.arrivals.length = 2 ∨ r.arrivals.length = 3 ∨
      r.arrivals.length = 4 := by omega
  rw [hLength] at hHeader
  have hReceived : ∀ e : EigerFrameDecoder, d' = e.advance.frameMetaData last →
      m.HeaderAfter (r.arrivals.length + 1) e.currentHeader → m.HeadsCalls e.pool.readyCalls →
        Headed m (r.received part last coming d') := by
    rintro e rfl hNext hCalls
    refine .received ?_ ?_ hCalls
    · rw [hEarlier]
      exact hHanded
    · rw [hEarlier]
      exact hNext
  have hSilent : m.HeadsCalls r.decoder.pool.readyCalls := by
    rw [hSound.taken]
    exact headsCalls_nil m
  rcases hAt with hAt | hAt | hAt | hAt
  · rw [hAt] at hHeader hReceived
    obtain ⟨e, hNext, hHeader', hPool⟩ := imaged_headed hSaid hAt hInside hHeader hReceive
    exact hReceived e hNext hHeader' (hPool ▸ hSilent)
  · rw [hAt] at hHeader hReceived
    obtain ⟨e, hNext, hHeader', hCalls⟩ := blob_headed hSaid hAt hInside hHeader hReceive
    exact hReceived e hNext hHeader' (hCalls ▸ hSilent)
  · rw [hAt] at hHeader hReceived
    obtain ⟨e, hNext, hCalls⟩ := times_headed hSaid hAt hInside hHeader hSound.taken hReceive
    exact hReceived e hNext trivial hCalls
  · rw [hAt] at hReceived
    obtain ⟨e, hNext, hCalls⟩ := appendix_headed hAt hInside hSound.taken hReceive
    exact hReceived e hNext trivial hCalls

/-- Whatever a receiver does, images keep to their headers. -/
theorem AllHeaded.step {event : Event} (h : AllHeaded parse r) (hEmitting : Emitting parse r)
    (hSound : Sound parse ids r) (hStep : r.step parse event = some r') : AllHeaded parse r' := by
  cases event with
  | part =>
      obtain ⟨part, last, coming, d', _, hReceive, rfl⟩ := Receiver.step_part hStep
      by_cases hComplete : r.complete = true
      · exact .first hSound hComplete hReceive
      · exact h.later hEmitting hSound (Bool.eq_false_iff.mpr hComplete) hReceive
  | release id =>
      rw [Receiver.step] at hStep
      split at hStep
      · cases hStep
        intro m more hSaid
        obtain ⟨hCurrent, hHanded⟩ := h m more hSaid
        exact ⟨hCurrent, hHanded⟩
      · cases hStep

end Runs

end Eiger.ImageMessage
