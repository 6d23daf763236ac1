import EigerDetector.Decoder.Tagging

/-! The figures which `monitor_buffers` reports for the last acquisition, beside a
record of the buffer requests since its header. -/
namespace Eiger.Decoder

open CharArrays FixedWidth Rapidjson Transition

/-- What came of a buffer request. -/
inductive Request where
  | obtained
  | foundNone
  deriving DecidableEq

/-- A call of `allocate_next_frame_buffer` is a request unless a buffer is held. -/
def BufferPool.request (p : BufferPool) : List Request :=
  if p.currentFrameBufferId = -1 then
    if p.emptyBufferQueue = [] then [.foundNone] else [.obtained]
  else []

/-- First parts which ask for a buffer themselves. -/
def FirstPart.Requests : FirstPart → Prop
  | header _ detail _ => detail = headerDetailNone
  | endOfSeries .. => True
  | _ => False

instance : DecidablePred FirstPart.Requests
  | .unreadable => inferInstanceAs (Decidable False)
  | .unknown => inferInstanceAs (Decidable False)
  | .header _ detail _ => inferInstanceAs (Decidable (detail = headerDetailNone))
  | .image .. => inferInstanceAs (Decidable False)
  | .endOfSeries .. => inferInstanceAs (Decidable True)

def FirstPart.IsHeader : FirstPart → Prop
  | header .. => True
  | _ => False

instance : DecidablePred FirstPart.IsHeader
  | .unreadable => inferInstanceAs (Decidable False)
  | .unknown => inferInstanceAs (Decidable False)
  | .header .. => inferInstanceAs (Decidable True)
  | .image .. => inferInstanceAs (Decidable False)
  | .endOfSeries .. => inferInstanceAs (Decidable False)

namespace EigerFrameDecoder

variable (parse : Parser)

/-- The requests that a part leads to: at the buffer lookup of a later part, or in the
processing of a first part. -/
def requests (part : Bytes) (d : EigerFrameDecoder) : List Request :=
  if d.currentMessagePart = 1 then
    if ∃ kind ∈ readFirstPart parse part, kind.Requests then d.pool.request else []
  else if Allocates d.currentParentMessageType d.currentMessagePart then d.pool.request
  else []

/-- The part is the first one of a global header. -/
def StartsHeader (part : Bytes) (d : EigerFrameDecoder) : Prop :=
  d.currentMessagePart = 1 ∧ ∃ kind ∈ readFirstPart parse part, kind.IsHeader

instance (part : Bytes) (d : EigerFrameDecoder) : Decidable (d.StartsHeader parse part) :=
  inferInstanceAs (Decidable (_ ∧ _))

end EigerFrameDecoder

/-- The receiver, with the requests before and since the last global header. -/
structure Statistics where
  receiver : Receiver
  earlier : List Request
  requests : List Request

namespace Statistics

variable (parse : Parser)

def initial (garbage : Uninitialised) (ids : List Nat) (stream : List (List Bytes)) :
    Statistics :=
  ⟨.initial garbage ids stream, [], []⟩

/-- Take note of the requests that a part led to. -/
def record (part : Bytes) (after : Receiver) (s : Statistics) : Statistics :=
  if s.receiver.decoder.StartsHeader parse part then
    ⟨after, s.earlier ++ s.requests, s.receiver.decoder.requests parse part⟩
  else ⟨after, s.earlier, s.requests ++ s.receiver.decoder.requests parse part⟩

def step (s : Statistics) : Event → Option Statistics
  | .part => (nextPart s.receiver.stream).bind fun next =>
      (s.receiver.step parse .part).map fun after => s.record parse next.1 after
  | .release id => (s.receiver.step parse (.release id)).map fun after =>
      { s with receiver := after }

/-- The two 32-bit counters are the numbers of requests since the last header. -/
def Describes (s : Statistics) : Prop :=
  toUInt32 s.receiver.decoder.framesAllocated = s.requests.count .obtained ∧
    toUInt32 s.receiver.decoder.pool.framesDropped = s.requests.count .foundNone

/-- Up to the last header no request found no buffer, but for multiples of the range of
the counter; and the requests since then do not exceed this range. -/
def FreshlyCounted (s : Statistics) : Prop :=
  toUInt32 (s.earlier.count .foundNone : Nat) = 0 ∧
    s.requests.count .obtained < 2 ^ 32 ∧ s.requests.count .foundNone < 2 ^ 32

end Statistics

namespace EigerFrameDecoder

/-- Neither counter has changed. -/
structure SameCounts (d e : EigerFrameDecoder) : Prop where
  allocated : e.framesAllocated = d.framesAllocated
  dropped : e.pool.framesDropped = d.pool.framesDropped

/-- The counters have grown by the requests of either kind. -/
structure CountedBy (requests : List Request) (d e : EigerFrameDecoder) : Prop where
  allocated : e.framesAllocated = d.framesAllocated + requests.count .obtained
  dropped : e.pool.framesDropped = d.pool.framesDropped + requests.count .foundNone

variable {parse : Parser} {d e f : EigerFrameDecoder} {requests : List Request} {part : Bytes}

theorem CountedBy.trans (h : CountedBy requests d e) (hSame : SameCounts e f) :
    CountedBy requests d f :=
  ⟨hSame.allocated.trans h.allocated, hSame.dropped.trans h.dropped⟩

theorem allocate_counts (d : EigerFrameDecoder) :
    CountedBy d.pool.request d d.allocateNextFrameBuffer := by
  unfold BufferPool.request allocateNextFrameBuffer
  by_cases hHeld : d.pool.currentFrameBufferId = -1
  · rw [if_pos hHeld]
    cases hQueue : d.pool.emptyBufferQueue with
    | nil =>
        rw [BufferPool.allocate_of_empty hHeld hQueue]
        refine ⟨?_, rfl⟩
        rw [if_neg (by simp)]
        rfl
    | cons id queue =>
        rw [BufferPool.allocate_of_free hHeld hQueue]
        refine ⟨?_, rfl⟩
        rw [if_pos ⟨hHeld, List.cons_ne_nil id queue⟩]
        rfl
  · rw [if_neg hHeld, BufferPool.allocate_of_held hHeld]
    refine ⟨?_, rfl⟩
    rw [if_neg fun hBoth => hHeld hBoth.1]
    rfl

theorem setFrameBuffer_framesDropped (buffer : FrameBuffer) (p : BufferPool) :
    (p.setFrameBuffer buffer).framesDropped = p.framesDropped := by
  unfold BufferPool.setFrameBuffer
  split <;> rfl

theorem send_framesDropped {p p' : BufferPool} {header : FrameHeader} {frameNumber : Int}
    (h : p.send header frameNumber = some p') : p'.framesDropped = p.framesDropped := by
  rw [BufferPool.send] at h
  split at h
  · cases h
    rfl
  · obtain ⟨buffer, _, rfl⟩ := Option.map_eq_some_iff.mp h
    exact setFrameBuffer_framesDropped _ p

theorem sendBuffer_counts (h : d.sendBuffer = some e) : SameCounts d e := by
  obtain ⟨pool, hPool, rfl⟩ := Option.map_eq_some_iff.mp h
  split
  · exact ⟨rfl, rfl⟩
  · exact ⟨rfl, send_framesDropped hPool⟩

theorem readHeader_counts {read : Value → FrameHeader → Option FrameHeader} {n : Nat}
    (h : (d.parseRaw parse n).readHeader read = some e) : SameCounts d e := by
  rw [parseRaw_eq] at h
  obtain ⟨header, _, rfl⟩ := Option.map_eq_some_iff.mp h
  exact ⟨rfl, rfl⟩

theorem setDataSize_send_counts {n : Nat} (h : (d.setDataSize n).sendBuffer = some e) :
    SameCounts d e :=
  ⟨(sendBuffer_counts h).allocated, (sendBuffer_counts h).dropped⟩

theorem processDataHeader_counts {type : EigerMessageType} {n : Nat}
    (h : d.processDataHeader parse type n = some e) : SameCounts d e := by
  have hCounts := readHeader_counts h
  exact ⟨hCounts.allocated, hCounts.dropped⟩

theorem processImageMessage_counts {n : Nat} (h : d.processImageMessage parse n = some e) :
    SameCounts d e := by
  unfold processImageMessage at h
  split at h
  · exact readHeader_counts h
  split at h
  · cases h
    exact ⟨rfl, rfl⟩
  split at h
  · obtain ⟨read, hRead, hSend⟩ := Option.bind_eq_some_iff.mp h
    have hFirst := readHeader_counts hRead
    have hSecond := sendBuffer_counts hSend
    exact ⟨hSecond.allocated.trans hFirst.allocated, hSecond.dropped.trans hFirst.dropped⟩
  split at h
  · have hCounts := setDataSize_send_counts h
    exact ⟨hCounts.allocated, hCounts.dropped⟩
  · cases h
    exact ⟨rfl, rfl⟩

theorem processGlobalHeaderMessage_counts {n : Nat} (hPart : d.currentMessagePart ≠ 1)
    (h : d.processGlobalHeaderMessage parse n = some e) : SameCounts d e := by
  unfold processGlobalHeaderMessage at h
  rw [if_neg (show ¬ d.currentMessagePart = globalDetectorNonePart from hPart)] at h
  split at h
  · exact setDataSize_send_counts h
  split at h
  · exact processDataHeader_counts h
  split at h
  · exact setDataSize_send_counts h
  split at h
  · exact processDataHeader_counts h
  split at h
  · exact setDataSize_send_counts h
  split at h
  · exact processDataHeader_counts h
  split at h
  · exact setDataSize_send_counts h
  split at h
  · have hCounts := setDataSize_send_counts h
    exact ⟨hCounts.allocated, hCounts.dropped⟩
  · cases h
    exact ⟨rfl, rfl⟩

/-- Only the buffer lookup of a later part is a request. -/
theorem processLater_counts {n : Nat} (hPart : d.currentMessagePart ≠ 1)
    (h : d.processLater parse n = some e) : SameCounts d e := by
  unfold processLater at h
  split at h
  · exact processImageMessage_counts h
  split at h
  · cases h
    exact ⟨rfl, rfl⟩
  · exact processGlobalHeaderMessage_counts hPart h

theorem accept_counts (hPart : d.currentMessagePart ≠ 1) (h : d.accept part = some e) :
    CountedBy (d.requests parse part) d e := by
  unfold accept at h
  rw [requests, if_neg hPart]
  split at h
  · next hAllocates =>
      rw [if_pos hAllocates]
      obtain ⟨pool, hStore, rfl⟩ := Option.map_eq_some_iff.mp h
      have hCounts := allocate_counts d
      refine ⟨hCounts.allocated, ?_⟩
      obtain ⟨buffer, _, rfl⟩ := Option.map_eq_some_iff.mp hStore
      rw [setFrameBuffer_framesDropped]
      exact hCounts.dropped
  · next hRaw =>
      rw [if_neg hRaw]
      cases h
      exact ⟨rfl, rfl⟩

theorem keepAcquisitionID_counts (acqID : Option Bytes) (d : EigerFrameDecoder) :
    SameCounts d (d.keepAcquisitionID acqID) := by
  cases acqID <;> exact ⟨rfl, rfl⟩

theorem allocated_send_counts (h : d.allocateNextFrameBuffer.sendBuffer = some e) :
    CountedBy d.pool.request d e :=
  (allocate_counts d).trans (sendBuffer_counts h)

/-- A header without detail is the only one whose first part is followed by a request. -/
theorem expectHeaderParts_counts {n : Nat} {detail : Bytes}
    (h : d.expectHeaderParts parse detail n = some e) (hPart : d.currentMessagePart = 1) :
    CountedBy (if detail = headerDetailNone then d.pool.request else []) d e := by
  unfold expectHeaderParts at h
  split at h
  · next hNone =>
      rw [if_pos hNone]
      obtain ⟨sent, hSent, rfl⟩ := Option.map_eq_some_iff.mp h
      rw [processGlobalHeaderMessage, if_pos (show _ = globalDetectorNonePart from hPart)] at hSent
      have hCounts := allocated_send_counts hSent
      exact ⟨hCounts.allocated, hCounts.dropped⟩
  · next hDetail =>
      rw [if_neg hDetail]
      split at h
      · cases h
        exact ⟨rfl, rfl⟩
      · cases h
        exact ⟨rfl, rfl⟩

/-- The counter of buffers obtained, as the first part of a message leaves it. -/
def restarted (kind : FirstPart) (d : EigerFrameDecoder) : EigerFrameDecoder :=
  if kind.IsHeader then { d with framesAllocated := 0 } else d

theorem start_counts {n : Nat} {kind : FirstPart} (hPart : d.currentMessagePart = 1)
    (h : d.start parse n kind = some e) :
    CountedBy (if kind.Requests then d.pool.request else []) (d.restarted kind) e := by
  cases kind with
  | unreadable =>
      cases h
      exact ⟨rfl, rfl⟩
  | unknown =>
      cases h
      exact ⟨rfl, rfl⟩
  | header series detail acqID =>
      obtain ⟨expecting, hExpect, rfl⟩ := Option.map_eq_some_iff.mp h
      have hCounts := (expectHeaderParts_counts hExpect hPart).trans
        (keepAcquisitionID_counts acqID expecting)
      have hRequests : (if FirstPart.Requests (.header series detail acqID) then d.pool.request
          else []) = if detail = headerDetailNone then d.pool.request else [] :=
        ite_congr rfl (fun _ => rfl) fun _ => rfl
      rw [hRequests]
      exact ⟨hCounts.allocated, hCounts.dropped⟩
  | image frame series hash acqID =>
      cases h
      have hCounts := keepAcquisitionID_counts acqID (d.imageStarted frame series hash)
      exact ⟨hCounts.allocated, hCounts.dropped⟩
  | endOfSeries series acqID =>
      have hSend : (d.seriesEnded series acqID).allocateNextFrameBuffer.sendBuffer = some e := h
      have hCounts := allocated_send_counts hSend
      rw [if_pos (show FirstPart.Requests (.endOfSeries series acqID) from trivial)]
      exact ⟨hCounts.allocated, hCounts.dropped⟩

theorem advance_counts (last : Bool) (d : EigerFrameDecoder) :
    SameCounts d (d.advance.frameMetaData last) := by
  cases last <;> exact ⟨rfl, rfl⟩

/-- What one part does to the counters: a global header starts the count of buffers
obtained, and no part that of requests which found none. -/
theorem receivePart_counts {last : Bool} (h : d.receivePart parse part last = some e) :
    e.framesAllocated = (if d.StartsHeader parse part then 0 else d.framesAllocated) +
        (d.requests parse part).count .obtained ∧
      e.pool.framesDropped = d.pool.framesDropped +
        (d.requests parse part).count .foundNone := by
  by_cases hPart : d.currentMessagePart = 1
  · rw [receivePart_first parse hPart] at h
    obtain ⟨kind, hRead, hStart⟩ := Option.bind_eq_some_iff.mp h
    obtain ⟨started, hStarted, rfl⟩ := Option.map_eq_some_iff.mp hStart
    have hCounts := (start_counts (d := d.parsed parse part) hPart hStarted).trans
      (advance_counts last started)
    have hRequests : d.requests parse part = if kind.Requests then d.pool.request else [] := by
      rw [requests, if_pos hPart, hRead]
      simp
    have hHeader : d.StartsHeader parse part ↔ kind.IsHeader := by
      rw [StartsHeader, hRead]
      simp [hPart]
    rw [hRequests]
    refine ⟨?_, hCounts.dropped.trans ?_⟩
    · rw [hCounts.allocated, restarted]
      by_cases hKind : kind.IsHeader
      · rw [if_pos hKind, if_pos (hHeader.mpr hKind)]
        rfl
      · rw [if_neg hKind, if_neg fun hStarts => hKind (hHeader.mp hStarts)]
        rfl
    · rw [restarted]
      split <;> rfl
  · rw [receivePart_later parse hPart] at h
    obtain ⟨accepted, hAccept, hLater⟩ := Option.bind_eq_some_iff.mp h
    obtain ⟨processed, hProcess, rfl⟩ := Option.map_eq_some_iff.mp hLater
    have hSame : accepted.currentMessagePart ≠ 1 := by
      rw [(accept_control hAccept).1]
      exact hPart
    have hAccepted : CountedBy (d.requests parse part) d accepted := accept_counts hPart hAccept
    have hCounts := (hAccepted.trans (processLater_counts hSame hProcess)).trans
      (advance_counts last processed)
    rw [if_neg fun hStarts => hPart hStarts.1]
    exact ⟨hCounts.allocated, hCounts.dropped⟩

end EigerFrameDecoder

namespace Statistics

variable {parse : Parser} {s s' : Statistics}

/-- The counters, in terms of all requests. -/
structure Counted (s : Statistics) : Prop where
  allocated : s.receiver.decoder.framesAllocated = s.requests.count .obtained
  dropped : s.receiver.decoder.pool.framesDropped =
    s.earlier.count .foundNone + s.requests.count .foundNone

theorem Counted.step {event : Event} (h : Counted s) (hStep : s.step parse event = some s') :
    Counted s' := by
  cases event with
  | part =>
      obtain ⟨⟨part, last, later⟩, hNext, hStep⟩ := Option.bind_eq_some_iff.mp hStep
      obtain ⟨after, hAfter, rfl⟩ := Option.map_eq_some_iff.mp hStep
      obtain ⟨_, _, _, d', hSame, hReceive, rfl⟩ := Receiver.step_part hAfter
      cases hNext.symm.trans hSame
      obtain ⟨hAllocated, hDropped⟩ := EigerFrameDecoder.receivePart_counts hReceive
      unfold record
      split
      · next hHeader =>
          rw [if_pos hHeader, Nat.zero_add] at hAllocated
          refine ⟨hAllocated, hDropped.trans ?_⟩
          rw [h.dropped, List.count_append]
      · next hOther =>
          rw [if_neg hOther, h.allocated] at hAllocated
          rw [h.dropped] at hDropped
          refine ⟨hAllocated.trans ?_, hDropped.trans ?_⟩
          · rw [List.count_append]
          · rw [List.count_append, Nat.add_assoc]
  | release id =>
      obtain ⟨after, hAfter, rfl⟩ := Option.map_eq_some_iff.mp hStep
      rw [Receiver.step] at hAfter
      split at hAfter
      · cases hAfter
        exact ⟨h.allocated, h.dropped⟩
      · cases hAfter

theorem counted_of_run {garbage : Uninitialised} {ids : List Nat} {messages : List (List Bytes)}
    {events : List Event}
    (hRun : Run (step parse) always (initial garbage ids messages) events s) : Counted s :=
  hRun.invariant ⟨rfl, rfl⟩ fun _ _ _ h _ hStep => h.step hStep

theorem toUInt32_eq_self_iff {n : Nat} : toUInt32 n = n ↔ n < 2 ^ 32 := by
  refine ⟨fun h => ?_, toUInt32_natCast⟩
  unfold toUInt32 at h
  omega

theorem toUInt32_add_eq_right_iff {m n : Nat} :
    toUInt32 (m + n : Nat) = n ↔ toUInt32 m = 0 ∧ n < 2 ^ 32 := by
  unfold toUInt32
  omega

/-- The figures describe the last acquisition exactly if no request before it found no
buffer, since only one of the two counters starts afresh with a header. -/
theorem describes_iff_freshlyCounted {garbage : Uninitialised} {ids : List Nat}
    {messages : List (List Bytes)} {events : List Event}
    (hRun : Run (step parse) always (initial garbage ids messages) events s) :
    s.Describes ↔ s.FreshlyCounted := by
  obtain ⟨hAllocated, hDropped⟩ := counted_of_run hRun
  rw [Describes, FreshlyCounted, hAllocated, hDropped, toUInt32_eq_self_iff,
    toUInt32_add_eq_right_iff]
  constructor
  · rintro ⟨hObtained, hEarlier, hNone⟩
    exact ⟨hEarlier, hObtained, hNone⟩
  · rintro ⟨hEarlier, hObtained, hNone⟩
    exact ⟨hObtained, hEarlier, hNone⟩

/-- A header, the end of its series, and the header of the next one. -/
def twoHeaders : List (List Bytes) :=
  [[sampleHeader.1, [1]], [sampleEnd.1], [sampleHeader.1, [1]]]

/-- With two buffers none of the three messages is dropped. -/
theorem two_headers_described :
    ∃ s, Run (step sampleParser) always (initial zeroed [0, 1] twoHeaders)
        [.part, .part, .part, .part] s ∧
      s.earlier = [.obtained, .obtained] ∧ s.requests = [] ∧ s.Describes := by
  have hExec : (exec (step sampleParser) (initial zeroed [0, 1] twoHeaders)
      [.part, .part, .part, .part]).map (fun s => (s.earlier, s.requests)) =
      some ([.obtained, .obtained], []) := by decide +kernel
  obtain ⟨s, hRun, hEnd⟩ := Option.map_eq_some_iff.mp hExec
  obtain ⟨hEarlier, hRequests⟩ := Prod.mk.inj hEnd
  have hRun := run_always_iff.mpr hRun
  refine ⟨s, hRun, hEarlier, hRequests, (describes_iff_freshlyCounted hRun).mpr ?_⟩
  rw [FreshlyCounted, hEarlier, hRequests]
  decide +kernel

/-- With one buffer the end is dropped; right after the next header, before any request
for it, the figures say that one frame was. -/
theorem earlier_drop_reported :
    (∀ message ∈ twoHeaders, Emittable sampleParser message) ∧
      ∃ s, Run (step sampleParser) always (initial zeroed [0] twoHeaders)
          [.part, .part, .part, .part] s ∧
        s.requests = [] ∧ s.receiver.decoder.pool.framesDropped = 1 ∧ ¬ s.Describes := by
  have hExec : (exec (step sampleParser) (initial zeroed [0] twoHeaders)
      [.part, .part, .part, .part]).map (fun s =>
        (s.requests, s.receiver.decoder.pool.framesDropped)) = some ([], 1) := by decide +kernel
  obtain ⟨s, hRun, hEnd⟩ := Option.map_eq_some_iff.mp hExec
  obtain ⟨hRequests, hDropped⟩ := Prod.mk.inj hEnd
  refine ⟨?_, s, run_always_iff.mpr hRun, hRequests, hDropped, ?_⟩
  · intro message hMessage
    simp only [twoHeaders, List.mem_cons, List.not_mem_nil, or_false] at hMessage
    rcases hMessage with rfl | rfl | rfl
    · exact sampleHeader_emittable
    · exact sampleEnd_emittable
    · exact sampleHeader_emittable
  · rintro ⟨_, hNone⟩
    rw [hRequests, hDropped] at hNone
    cases hNone

end Statistics

end Eiger.Decoder
