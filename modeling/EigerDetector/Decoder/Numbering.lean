import EigerDetector.Decoder.Following

/-! The frame number of an image, which is in every header handed over for it. -/
namespace Eiger.Decoder

open CharArrays FixedWidth Rapidjson Transition

/-- A step which leaves the frame number in the header and hands over no other one. -/
def KeepsNumber (d e : EigerFrameDecoder) : Prop :=
  e.currentHeader.frameNumber = d.currentHeader.frameNumber ∧
    ∀ call ∈ e.pool.readyCalls, call.header.frameNumber = d.currentHeader.frameNumber

namespace EigerFrameDecoder

variable {parse : Parser} {d a e : EigerFrameDecoder}

theorem keepsNumber_of_silent (hNumber : e.currentHeader.frameNumber = d.currentHeader.frameNumber)
    (hSilent : e.pool.readyCalls = []) : KeepsNumber d e := by
  refine ⟨hNumber, ?_⟩
  rw [hSilent]
  intro call hCall
  cases hCall

theorem sendBuffer_number (h : a.sendBuffer = some e) (hTaken : a.pool.readyCalls = [])
    (hNumber : a.currentHeader.frameNumber = d.currentHeader.frameNumber) : KeepsNumber d e := by
  rcases sendBuffer_cases h with ⟨_, rfl⟩ | ⟨_, hCleared, call, hSent, hMade⟩
  · exact keepsNumber_of_silent hNumber hTaken
  · refine ⟨by rw [hCleared]; exact hNumber, ?_⟩
    rw [hMade, hTaken]
    intro made hMem
    rw [List.mem_singleton.mp hMem, ReadyCall.header, hSent]
    exact hNumber

end EigerFrameDecoder

section Images

variable {parse : Parser} {d d' : EigerFrameDecoder} {part : Bytes} {last : Bool}
variable {arrivals : List Arrival}

theorem readImaged_number {doc : Value} {h h' : FrameHeader} (hRead : readImaged doc h = some h') :
    h'.frameNumber = h.frameNumber := by
  obtain ⟨type, encoding, size, hBoth⟩ := readImaged_both hRead hRead
  rcases hBoth with ⟨_, x, y, z, rfl, _⟩ | ⟨_, rfl, _⟩
  · rfl
  · rfl

theorem readTimes_number {doc : Value} {h h' : FrameHeader} (hRead : readTimes doc h = some h') :
    h'.frameNumber = h.frameNumber := by
  obtain ⟨start, stop, real, rfl, _⟩ := readTimes_both hRead hRead
  rfl

/-- No part of an image after the first touches the frame number. -/
theorem InImage.keepsNumber (h : InImage d arrivals) (hTaken : d.pool.readyCalls = [])
    (hReceive : d.receivePart parse part last = some d') :
    ∃ e, d' = e.advance.frameMetaData last ∧ KeepsNumber d e := by
  have hSome : 1 ≤ arrivals.length := List.length_pos_iff.mpr h.started
  have hFew := h.few
  have hCounter := h.counter
  have hAt : arrivals.length = 1 ∨ arrivals.length = 2 ∨ arrivals.length = 3 ∨
      arrivals.length = 4 := by omega
  rcases hAt with hAt | hAt | hAt | hAt
  · rw [hAt] at hCounter
    rw [EigerFrameDecoder.image_imaged hCounter h.parent h.type] at hReceive
    obtain ⟨header, hRead, rfl⟩ := Option.map_eq_some_iff.mp hReceive
    exact ⟨_, rfl, EigerFrameDecoder.keepsNumber_of_silent (readImaged_number hRead) hTaken⟩
  · rw [hAt] at hCounter
    rw [EigerFrameDecoder.image_blob hCounter h.parent h.type] at hReceive
    obtain ⟨pool, hStore, rfl⟩ := Option.map_eq_some_iff.mp hReceive
    obtain ⟨_, _, hCalls, _⟩ := BufferPool.storePayload_frame hStore
    have hSilent : pool.readyCalls = [] := by rw [hCalls, d.pool.allocate_frame.1, hTaken]
    exact ⟨_, rfl, EigerFrameDecoder.keepsNumber_of_silent rfl hSilent⟩
  · rw [hAt] at hCounter
    rw [EigerFrameDecoder.image_times hCounter h.parent h.type] at hReceive
    obtain ⟨header, hRead, hRest⟩ := Option.bind_eq_some_iff.mp hReceive
    obtain ⟨e, hSend, rfl⟩ := Option.map_eq_some_iff.mp hRest
    exact ⟨e, rfl, EigerFrameDecoder.sendBuffer_number hSend hTaken (readTimes_number hRead)⟩
  · rw [hAt] at hCounter
    have hOut : d.GoesOut parse .imageAppendix part :=
      EigerFrameDecoder.imageAppendix_goesOut hCounter h.parent h.type
    rw [EigerFrameDecoder.receivePart_later parse (EigerFrameDecoder.goesOut_later hOut)]
      at hReceive
    obtain ⟨a, hAccept, hRest⟩ := Option.bind_eq_some_iff.mp hReceive
    obtain ⟨e, hSend, rfl⟩ := Option.map_eq_some_iff.mp hRest
    rw [hOut.2 a hAccept] at hSend
    obtain ⟨_, _, _, _, hHeader, _⟩ := EigerFrameDecoder.accept_control hAccept
    refine ⟨e, rfl, EigerFrameDecoder.sendBuffer_number hSend
      ((EigerFrameDecoder.accept_calls hAccept).trans hTaken) ?_⟩
    rw [← hHeader]
    rfl

/-- The first part of an image puts its number there. -/
theorem image_begins {frame series : Int} {hash : Bytes} {acqID : Option Bytes}
    (hPart : d.currentMessagePart = 1) (hTaken : d.pool.readyCalls = [])
    (hRead : readFirstPart parse part = some (.image frame series hash acqID))
    (hReceive : d.receivePart parse part last = some d') :
    ∃ e : EigerFrameDecoder, d' = e.advance.frameMetaData last ∧
      e.currentHeader.frameNumber = frame ∧ e.pool.readyCalls = [] := by
  rw [EigerFrameDecoder.receivePart_first parse hPart, hRead, Option.bind_some] at hReceive
  obtain ⟨e, hStart, rfl⟩ := Option.map_eq_some_iff.mp hReceive
  cases hStart
  refine ⟨_, rfl, ?_, ?_⟩
  · rw [(keepAcquisitionID_header acqID _).1]
    rfl
  · rw [(EigerFrameDecoder.keepAcquisitionID_frame acqID _).1]
    exact hTaken

end Images

/-- The image at hand has this frame number: in the header until it is over, and in
whatever was handed over for it. -/
structure Numbered (frame : Int) (r : Receiver) : Prop where
  current : r.complete = false → r.decoder.currentHeader.frameNumber = frame
  handed : ∀ call ∈ r.calls, call.header.frameNumber = frame

section Runs

variable {parse : Parser} {ids : List Nat} {r r' : Receiver} {part : Bytes} {last : Bool}
variable {coming : List (List Bytes)} {d' : EigerFrameDecoder} {frame series : Int} {hash : Bytes}
variable {acqID : Option Bytes}

/-- The first part of the message at hand is that of this image. -/
def AtImage (parse : Parser) (frame series : Int) (hash : Bytes) (acqID : Option Bytes)
    (r : Receiver) : Prop :=
  r.parts.head?.bind (readFirstPart parse) = some (.image frame series hash acqID)

theorem Numbered.first (hSound : Sound parse ids r) (hComplete : r.complete = true)
    (hAt : AtImage parse frame series hash acqID (r.received part last coming d'))
    (hReceive : r.decoder.receivePart parse part last = some d') :
    Numbered frame (r.received part last coming d') := by
  have hEarlier : r.earlier = [] := if_pos hComplete
  rw [AtImage, Receiver.received_parts, hEarlier] at hAt
  obtain ⟨e, rfl, hNumber, hSilent⟩ :=
    image_begins (hSound.boundary hComplete) hSound.taken hAt hReceive
  refine ⟨fun hMore => ?_, ?_⟩
  · have hMore : last = false := hMore
    subst hMore
    exact hNumber
  · rw [Receiver.calls, Receiver.received, hEarlier]
    intro call hCall
    rw [List.nil_append, List.flatMap_singleton, (EigerFrameDecoder.finish_frame last e).1,
      hSilent] at hCall
    cases hCall

theorem Numbered.later (h : AtImage parse frame series hash acqID r → Numbered frame r)
    (hEmitting : Emitting parse r) (hSound : Sound parse ids r) (hOpen : r.complete = false)
    (hAt : AtImage parse frame series hash acqID (r.received part last coming d'))
    (hReceive : r.decoder.receivePart parse part last = some d') :
    Numbered frame (r.received part last coming d') := by
  obtain ⟨kind, hKind, hStage⟩ := hEmitting.stage hOpen
  have hEarlier : r.earlier = r.arrivals := by
    rw [Receiver.earlier, hOpen]
    rfl
  have hSame : kind = .image frame series hash acqID := by
    obtain ⟨first, hFirst, hRead⟩ := Option.bind_eq_some_iff.mp hKind
    rw [AtImage, Receiver.received_parts, hEarlier] at hAt
    have hHead : (r.parts ++ [part]).head? = some first := by
      rw [List.head?_append, hFirst]
      rfl
    rw [Receiver.parts] at hHead
    rw [hHead] at hAt
    exact Option.some.inj (hRead.symm.trans hAt)
  subst hSame
  have hOld := h hKind
  have hInside : InImage r.decoder r.arrivals := hStage
  obtain ⟨e, rfl, hNumber, hCalls⟩ := hInside.keepsNumber hSound.taken hReceive
  rw [hOld.current hOpen] at hNumber hCalls
  refine ⟨fun hMore => ?_, ?_⟩
  · have hMore : last = false := hMore
    subst hMore
    exact hNumber
  · rw [Receiver.calls, Receiver.received, hEarlier]
    intro call hCall
    rw [List.flatMap_append, List.flatMap_singleton,
      (EigerFrameDecoder.finish_frame last e).1] at hCall
    rcases List.mem_append.mp hCall with hEarly | hNew
    · exact hOld.handed call hEarly
    · exact hCalls call hNew

theorem Numbered.step {event : Event}
    (h : AtImage parse frame series hash acqID r → Numbered frame r)
    (hEmitting : Emitting parse r) (hSound : Sound parse ids r)
    (hStep : r.step parse event = some r') (hAt : AtImage parse frame series hash acqID r') :
    Numbered frame r' := by
  cases event with
  | part =>
      obtain ⟨part, last, coming, d', _, hReceive, rfl⟩ := Receiver.step_part hStep
      by_cases hComplete : r.complete = true
      · exact .first hSound hComplete hAt hReceive
      · exact .later h hEmitting hSound (Bool.eq_false_iff.mpr hComplete) hAt hReceive
  | release id =>
      rw [Receiver.step] at hStep
      split at hStep
      · cases hStep
        have hOld := h hAt
        exact ⟨hOld.current, hOld.handed⟩
      · cases hStep

/-- In every run over messages the fan can emit, what is handed over for an image has the
frame number of its first part. -/
theorem numbered_of_run (garbage : Uninitialised) (hIds : ids.Nodup)
    {messages : List (List Bytes)} (hMessages : ∀ message ∈ messages, Emittable parse message)
    {events : List Event}
    (hRun : Run (Receiver.step parse) always (.initial garbage ids messages) events r)
    (hAt : AtImage parse frame series hash acqID r) : Numbered frame r := by
  let inv (r : Receiver) : Prop := (AtImage parse frame series hash acqID r → Numbered frame r) ∧
    Emitting parse r ∧ Sound parse ids r ∧ ∀ message ∈ r.unfinished, Emittable parse message
  have hInit : inv (.initial garbage ids messages) :=
    ⟨fun hImage => (by cases hImage), emitting_of_run garbage hIds hMessages (.nil _)⟩
  refine (hRun.invariant hInit ?_).1 hAt
  rintro s event t ⟨hNumbered, hEmitting, hSound, hStream⟩ _ hStep
  exact ⟨.step hNumbered hEmitting hSound hStep, hEmitting.step hSound hStream hStep,
    hSound.step (guarded_of_emittable hStream event) hStep,
    fun message hMessage => hStream message (Receiver.unfinished_step hStep message hMessage)⟩

end Runs

end Eiger.Decoder
