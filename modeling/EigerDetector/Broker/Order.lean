import EigerDetector.Broker.Worker
import EigerDetector.Fan.Latching
import EigerDetector.Fan.Sockets
import Mathlib.Data.List.Chain

/-! From the detector through the workers of the broker to the rx thread. Every
link keeps its order; nothing orders different workers. -/
namespace Eiger.Broker

open CharArrays Multipart Transition Fan

inductive Kind where
  | header
  | image
  | endOfSeries
  deriving DecidableEq

/-- Which message of the detector it is. No code sees a label. -/
structure Label where
  acquisition : Nat
  kind : Kind
  deriving DecidableEq

structure Acquisition where
  header : List Bytes
  images : List (List Bytes)
  endOfSeries : List Bytes

def Acquisition.messages (a : Acquisition) (number : Nat) : List (Label × List Bytes) :=
  (⟨number, .header⟩, a.header) :: (a.images.map fun image => (⟨number, .image⟩, image)) ++
    [(⟨number, .endOfSeries⟩, a.endOfSeries)]

/-- The messages of successive acquisitions, the first of which has this number. -/
def detectorStream (first : Nat) : List Acquisition → List (Label × List Bytes)
  | [] => []
  | a :: acquisitions => a.messages first ++ detectorStream (first + 1) acquisitions

/-- A message the rx thread has handled, with what was latched at its end. -/
structure HandledMessage where
  label : Label
  message : List Bytes
  acquisitionID : Bytes
  offset : Int

/-- The detector with what it has still to send, the workers, and the fan. The
labels of what is on the links of a worker are kept in `assigned`. -/
structure Pipeline where
  detector : List (Label × List Bytes)
  workers : Nat → Worker
  assigned : Nat → List (Label × List Bytes)
  shutdownRequested : Bool
  fan : EigerFan
  handled : List HandledMessage

inductive PipelineEvent where
  | main (event : MainEvent)
  | startRx
  | hand (worker : Nat)
  | worker (worker : Nat) (event : WorkerEvent)
  | receive (worker : Nat)
  | shutdown

namespace Pipeline

def initial (config : EigerFanConfig) (acquisitions : List Acquisition) : Pipeline where
  detector := detectorStream 0 acquisitions
  workers _ := .initial
  assigned _ := []
  shutdownRequested := false
  fan := Fan.initial config
  handled := []

/-- The detector hands its next message to any worker. The rx thread takes a
message from a worker when all of its parts are there, and handles it. -/
def step (env : Environment) (threadCount : Nat) (p : Pipeline) :
    PipelineEvent → Option Pipeline
  | .main event => (operate env p.fan (.main event)).map fun fan => { p with fan := fan }
  | .startRx => (operate env p.fan .startRx).map fun fan => { p with fan := fan }
  | .hand i =>
      match p.detector with
      | [] => none
      | (label, message) :: detector =>
          if i < threadCount ∧ p.fan.state ≠ .waitingConsumers then
            let worker := { p.workers i with
              sourceSocket := (p.workers i).sourceSocket ++ frame message }
            some { p with
              detector := detector
              workers := Function.update p.workers i worker
              assigned := Function.update p.assigned i (p.assigned i ++ [(label, message)]) }
          else none
  | .worker i event =>
      if i < threadCount then
        ((p.workers i).step p.shutdownRequested event).map fun (worker, counted) => { p with
          workers := Function.update p.workers i worker
          fan := { p.fan with messagesReceived := p.fan.messagesReceived + counted } }
      else none
  | .receive i =>
      match takeMessage (p.workers i).sinkSocket, p.assigned i with
      | some (message, sink), (label, _) :: assigned =>
          if i < threadCount then
            let received := (operate env p.fan (.arrive message)).bind fun fan =>
              operate env fan .receive
            received.map fun fan => { p with
              workers := Function.update p.workers i { p.workers i with sinkSocket := sink }
              assigned := Function.update p.assigned i assigned
              fan := fan
              handled := p.handled ++
                [⟨label, message, fan.currentAcquisitionID, fan.currentOffset⟩] }
          else none
      | _, _ => none
  | .shutdown => if p.fan.killRequested then some { p with shutdownRequested := true } else none

end Pipeline

/-- The messages of an acquisition are of the kind their labels say. -/
structure Acquisition.Reads (env : Environment) (a : Acquisition) : Prop where
  header : ∃ part1 rest members series detail, a.header = part1 :: rest ∧
    readFirstPart env part1 = some (.header members series detail)
  images : ∀ image ∈ a.images, ∃ part1 rest members frame, image = part1 :: rest ∧
    readFirstPart env part1 = some (.image members frame)
  endOfSeries : ∃ part1 rest members, a.endOfSeries = part1 :: rest ∧
    readFirstPart env part1 = some (.endOfSeries members)

/-- Each image was handled after its own header, with the acquisition ID and the
offset latched by that header, and before the end of its own acquisition. -/
def InOrder (handled : List HandledMessage) : Prop :=
  ∀ before image after, handled = before ++ image :: after → image.label.kind = .image →
    (∃ header ∈ before, header.label = ⟨image.label.acquisition, .header⟩ ∧
      header.acquisitionID = image.acquisitionID ∧ header.offset = image.offset) ∧
    ∀ earlier ∈ before, earlier.label ≠ ⟨image.label.acquisition, .endOfSeries⟩

/-- The promise of the broker for a number of workers. -/
def OrderKept (threadCount : Nat) : Prop :=
  ∀ (env : Environment) (config : EigerFanConfig) (acquisitions : List Acquisition)
    (events : List PipelineEvent) (p : Pipeline), (∀ a ∈ acquisitions, a.Reads env) →
    Run (Pipeline.step env threadCount) always (.initial config acquisitions) events p →
      InOrder p.handled

section Stream

theorem first_le_of_mem {first : Nat} {acquisitions : List Acquisition}
    {m : Label × List Bytes} (h : m ∈ detectorStream first acquisitions) :
    first ≤ m.1.acquisition := by
  induction acquisitions generalizing first with
  | nil => cases h
  | cons a acquisitions ih =>
      rcases List.mem_append.mp h with hHere | hLater
      · simp only [Acquisition.messages, List.cons_append, List.mem_cons, List.mem_append,
          List.mem_map, List.not_mem_nil, or_false] at hHere
        rcases hHere with rfl | ⟨_, _, rfl⟩ | rfl <;> exact le_rfl
      · exact Nat.le_of_succ_le (ih hLater)

theorem acquisition_of_mem {a : Acquisition} {number : Nat} {m : Label × List Bytes}
    (h : m ∈ a.messages number) : m.1.acquisition = number := by
  simp only [Acquisition.messages, List.cons_append, List.mem_cons, List.mem_append,
    List.mem_map, List.not_mem_nil, or_false] at h
  rcases h with rfl | ⟨_, _, rfl⟩ | rfl <;> rfl

/-- What precedes an image of an acquisition is its header and some of its images. -/
theorem messages_split {a : Acquisition} {number : Nat} {before after : List (Label × List Bytes)}
    {m : Label × List Bytes} (h : a.messages number = before ++ m :: after)
    (hImage : m.1.kind = .image) :
    ∃ images, before = (⟨number, .header⟩, a.header) :: images ∧
      ∀ image ∈ images, image.1.kind = .image := by
  cases before with
  | nil =>
      cases h
      cases hImage
  | cons head before =>
      obtain ⟨rfl, hTail⟩ := List.cons.inj h
      refine ⟨before, rfl, fun image hMember => ?_⟩
      rcases List.append_eq_append_iff.mp hTail with ⟨c, rfl, hEnd⟩ | ⟨c, hImages, _⟩
      · cases c with
        | nil =>
            cases hEnd
            cases hImage
        | cons last c =>
            have hNone := (List.cons.inj hEnd).2
            cases c <;> cases hNone
      · have hOld : image ∈ a.images.map fun image => (⟨number, .image⟩, image) := by
          rw [hImages]
          exact List.mem_append_left _ hMember
        obtain ⟨_, _, rfl⟩ := List.mem_map.mp hOld
        rfl

/-- In the stream of the detector an image follows its header, with other images
in between, and the end of its acquisition does not come before it. -/
theorem detectorStream_split {first : Nat} {acquisitions : List Acquisition}
    {before after : List (Label × List Bytes)} {m : Label × List Bytes}
    (h : detectorStream first acquisitions = before ++ m :: after) (hImage : m.1.kind = .image) :
    (∃ earlier header images, before = earlier ++ header :: images ∧
      header.1 = ⟨m.1.acquisition, .header⟩ ∧ ∀ image ∈ images, image.1.kind = .image) ∧
    ∀ other ∈ before, other.1 ≠ ⟨m.1.acquisition, .endOfSeries⟩ := by
  induction acquisitions generalizing first before with
  | nil => cases before <;> cases h
  | cons a acquisitions ih =>
      have hLater : ∀ c, before = a.messages first ++ c →
          detectorStream (first + 1) acquisitions = c ++ m :: after →
          (∃ earlier header images, before = earlier ++ header :: images ∧
            header.1 = ⟨m.1.acquisition, .header⟩ ∧ ∀ image ∈ images, image.1.kind = .image) ∧
          ∀ other ∈ before, other.1 ≠ ⟨m.1.acquisition, .endOfSeries⟩ := by
        rintro c rfl hRest
        obtain ⟨⟨earlier, header, images, rfl, hHeader, hImages⟩, hEnd⟩ := ih hRest
        refine ⟨⟨a.messages first ++ earlier, header, images, (List.append_assoc ..).symm,
          hHeader, hImages⟩, fun other hOther => ?_⟩
        rcases List.mem_append.mp hOther with hHere | hThere
        · have hMember : m ∈ detectorStream (first + 1) acquisitions := by
            rw [hRest]
            exact List.mem_append_right _ List.mem_cons_self
          intro hLabel
          have hNumber := acquisition_of_mem hHere
          rw [hLabel] at hNumber
          have hAfter := first_le_of_mem hMember
          simp only at hNumber
          omega
        · exact hEnd other hThere
      rcases List.append_eq_append_iff.mp h with ⟨c, hBefore, hRest⟩ | ⟨c, hHere, hRest⟩
      · exact hLater c hBefore hRest
      · cases c with
        | nil =>
            refine hLater [] ?_ hRest.symm
            rw [hHere, List.append_nil, List.append_nil]
        | cons head c =>
            obtain ⟨rfl, _⟩ := List.cons.inj hRest
            obtain ⟨images, rfl, hImages⟩ := messages_split hHere hImage
            have hNumber : m.1.acquisition = first := by
              refine acquisition_of_mem (a := a) ?_
              rw [hHere]
              exact List.mem_append_right _ List.mem_cons_self
            refine ⟨⟨[], _, images, rfl, by rw [hNumber], hImages⟩, fun other hOther => ?_⟩
            rintro hLabel
            rcases List.mem_cons.mp hOther with rfl | hOther
            · cases hLabel
            · have hKind := hImages other hOther
              rw [hLabel] at hKind
              cases hKind

theorem mem_detectorStream {first : Nat} {acquisitions : List Acquisition}
    {m : Label × List Bytes} (h : m ∈ detectorStream first acquisitions) :
    ∃ a ∈ acquisitions, ∃ number, m ∈ a.messages number := by
  induction acquisitions generalizing first with
  | nil => cases h
  | cons a acquisitions ih =>
      rcases List.mem_append.mp h with hHere | hLater
      · exact ⟨a, List.mem_cons_self, first, hHere⟩
      · obtain ⟨b, hb, hThere⟩ := ih hLater
        exact ⟨b, List.mem_cons_of_mem _ hb, hThere⟩

/-- Every message has a first part which is read as a message of its kind. -/
theorem reads_of_mem {env : Environment} {first : Nat} {acquisitions : List Acquisition}
    {m : Label × List Bytes} (hReads : ∀ a ∈ acquisitions, a.Reads env)
    (h : m ∈ detectorStream first acquisitions) :
    ∃ part1 rest read, m.2 = part1 :: rest ∧ readFirstPart env part1 = some read ∧
      (m.1.kind = .header ↔ ∃ members series detail, read = .header members series detail) := by
  obtain ⟨a, hMember, number, hMessage⟩ := mem_detectorStream h
  have ha := hReads a hMember
  simp only [Acquisition.messages, List.cons_append, List.mem_cons, List.mem_append,
    List.mem_map, List.not_mem_nil, or_false] at hMessage
  rcases hMessage with rfl | ⟨image, hImage, rfl⟩ | rfl
  · obtain ⟨part1, rest, members, series, detail, hParts, hRead⟩ := ha.header
    exact ⟨part1, rest, _, hParts, hRead, fun _ => ⟨_, _, _, rfl⟩, fun _ => rfl⟩
  · obtain ⟨part1, rest, members, frame, hParts, hRead⟩ := ha.images image hImage
    exact ⟨part1, rest, _, hParts, hRead, nofun, nofun⟩
  · obtain ⟨part1, rest, members, hParts, hRead⟩ := ha.endOfSeries
    exact ⟨part1, rest, _, hParts, hRead, nofun, nofun⟩

end Stream

/-- A message that is no header keeps what was latched. -/
def Steady (m next : HandledMessage) : Prop :=
  next.label.kind ≠ .header → next.acquisitionID = m.acquisitionID ∧ next.offset = m.offset

theorem steady_chain {header : HandledMessage} {between : List HandledMessage}
    (hChain : (header :: between).IsChain Steady)
    (hKinds : ∀ m ∈ between, m.label.kind ≠ .header) :
    ∀ m ∈ between, m.acquisitionID = header.acquisitionID ∧ m.offset = header.offset := by
  induction between generalizing header with
  | nil => exact fun m hm => absurd hm List.not_mem_nil
  | cons next between ih =>
      obtain ⟨hStep, hRest⟩ := List.isChain_cons_cons.mp hChain
      obtain ⟨hID, hOffset⟩ := hStep (hKinds next List.mem_cons_self)
      intro m hm
      rcases List.mem_cons.mp hm with rfl | hm
      · exact ⟨hID, hOffset⟩
      · have hNext := ih hRest (fun m hm => hKinds m (List.mem_cons_of_mem _ hm)) m hm
        exact ⟨hNext.1.trans hID, hNext.2.trans hOffset⟩

/-- Handling the stream of the detector from its start, and keeping what was
latched except at headers, is enough. -/
theorem inOrder_of_stream {acquisitions : List Acquisition} {handled : List HandledMessage}
    {left : List (Label × List Bytes)}
    (hStream : (handled.map fun m => (m.label, m.message)) ++ left = detectorStream 0 acquisitions)
    (hChain : handled.IsChain Steady) : InOrder handled := by
  rintro before image after rfl hImage
  rw [List.map_append, List.map_cons, List.append_assoc, List.cons_append] at hStream
  obtain ⟨⟨earlier, header, images, hBefore, hHeader, hImages⟩, hEnd⟩ :=
    detectorStream_split hStream.symm hImage
  constructor
  · obtain ⟨first, second, rfl, _, hSecond⟩ := List.map_eq_append_iff.mp hBefore
    obtain ⟨head, between, rfl, rfl, hBetween⟩ := List.map_eq_cons_iff.mp hSecond
    have hKinds : ∀ m ∈ between ++ [image], m.label.kind ≠ .header := by
      intro m hm
      rcases List.mem_append.mp hm with hm | hm
      · have hKind := hImages (m.label, m.message) (by
          rw [← hBetween]
          exact List.mem_map_of_mem hm)
        rw [show m.label.kind = .image from hKind]
        exact fun h => by cases h
      · rw [List.mem_singleton.mp hm, hImage]
        exact fun h => by cases h
    have hParts : first ++ head :: between ++ image :: after =
        first ++ ((head :: (between ++ [image])) ++ after) := by simp
    rw [hParts] at hChain
    have hSinceHeader : (head :: (between ++ [image])).IsChain Steady :=
      hChain.right_of_append.left_of_append
    have hLatched := steady_chain hSinceHeader hKinds image (by simp)
    exact ⟨head, by simp, hHeader, hLatched.1.symm, hLatched.2.symm⟩
  · intro other hOther
    exact hEnd (other.label, other.message) (List.mem_map_of_mem hOther)

/-- The rx thread takes the message which the label on the link stands for, and
handles it in the state the fan is in. -/
theorem Pipeline.receive_cases {env : Environment} {threadCount i : Nat}
    {acquisitions : List Acquisition} {p p' : Pipeline}
    (hReads : ∀ a ∈ acquisitions, a.Reads env)
    (hKnown : ∀ m ∈ p.assigned i, m ∈ detectorStream 0 acquisitions)
    (hLinks : (p.workers i).sinkSocket ++ (p.workers i).sourceSocket =
      Multipart.stream ((p.assigned i).map Prod.snd))
    (hQueue : p.fan.rxSocket.queue = [])
    (hStep : p.step env threadCount (.receive i) = some p') :
    ∃ label part1 rest read sink assigned fan, i < threadCount ∧
      p.assigned i = (label, part1 :: rest) :: assigned ∧
      (p.workers i).sinkSocket = frame (part1 :: rest) ++ sink ∧
      sink ++ (p.workers i).sourceSocket = Multipart.stream (assigned.map Prod.snd) ∧
      readFirstPart env part1 = some read ∧
      (label.kind = .header ↔ ∃ members series detail, read = .header members series detail) ∧
      Fan.receive env { p.fan with
        rxSocket := { p.fan.rxSocket with queue := frame (part1 :: rest) ++ [] } } =
          .returned fan () ∧
      p' = { p with
        workers := Function.update p.workers i { p.workers i with sinkSocket := sink }
        assigned := Function.update p.assigned i assigned
        fan := fan
        handled := p.handled ++
          [⟨label, part1 :: rest, fan.currentAcquisitionID, fan.currentOffset⟩] } := by
  rw [Pipeline.step] at hStep
  split at hStep
  · next message sink label sent assigned hTake hAssigned =>
      split at hStep
      · next hGuard =>
          obtain ⟨fan, hReceived, rfl⟩ := Option.map_eq_some_iff.mp hStep
          obtain ⟨arrived, hArrive, hReceive⟩ := Option.bind_eq_some_iff.mp hReceived
          have hMember : (label, sent) ∈ detectorStream 0 acquisitions :=
            hKnown _ (by rw [hAssigned]; exact List.mem_cons_self)
          obtain ⟨part1, rest, read, rfl, hRead, hKinds⟩ := reads_of_mem hReads hMember
          obtain ⟨hNonempty, hSink⟩ := takeMessage_some hTake
          rw [hAssigned, hSink, List.append_assoc, List.map_cons, stream_cons] at hLinks
          obtain ⟨rfl, hRest⟩ := frame_append_inj hNonempty (List.cons_ne_nil _ _) hLinks
          refine ⟨label, part1, rest, read, sink, assigned, fan, hGuard, hAssigned, hSink,
            hRest, hRead, hKinds, ?_, rfl⟩
          rw [operate] at hArrive
          split at hArrive
          · cases hArrive
          · cases hArrive
            rw [operate] at hReceive
            split at hReceive
            · cases hReceive
            · split at hReceive
              · next t hRun =>
                  cases hReceive
                  rw [hQueue, List.nil_append] at hRun
                  rw [List.append_nil]
                  exact hRun
              · cases hReceive
      · cases hStep
  · cases hStep

/-- With a single worker nothing changes places on the way. -/
structure Ordered (acquisitions : List Acquisition) (p : Pipeline) : Prop where
  stream : (p.handled.map fun m => (m.label, m.message)) ++ (p.assigned 0 ++ p.detector) =
    detectorStream 0 acquisitions
  links : (p.workers 0).sinkSocket ++ (p.workers 0).sourceSocket =
    Multipart.stream ((p.assigned 0).map Prod.snd)
  queue : p.fan.rxSocket.queue = []
  chain : p.handled.IsChain Steady
  latched : ∀ m ∈ p.handled.getLast?, m.acquisitionID = p.fan.currentAcquisitionID ∧
    m.offset = p.fan.currentOffset

namespace Ordered

variable {env : Environment} {acquisitions : List Acquisition} {p p' : Pipeline}

theorem initial (config : EigerFanConfig) (acquisitions : List Acquisition) :
    Ordered acquisitions (.initial config acquisitions) where
  stream := rfl
  links := rfl
  queue := rfl
  chain := .nil
  latched := fun _ h => by cases h

/-- Steps which handle no message and move nothing. -/
theorem beside {fan : EigerFan} (h : Ordered acquisitions p)
    (hSocket : fan.rxSocket = p.fan.rxSocket)
    (hID : fan.currentAcquisitionID = p.fan.currentAcquisitionID)
    (hOffset : fan.currentOffset = p.fan.currentOffset) :
    Ordered acquisitions { p with fan := fan } where
  stream := h.stream
  links := h.links
  queue := by
    rw [hSocket]
    exact h.queue
  chain := h.chain
  latched := by
    rw [hID, hOffset]
    exact h.latched

theorem hand {i : Nat} (h : Ordered acquisitions p) (hStep : p.step env 1 (.hand i) = some p') :
    Ordered acquisitions p' := by
  rw [Pipeline.step] at hStep
  split at hStep
  · cases hStep
  · next label message detector hDetector =>
      split at hStep
      · next hGuard =>
          obtain rfl := Nat.lt_one_iff.mp hGuard.1
          cases hStep
          refine { h with stream := ?_, links := ?_ }
          · rw [← h.stream, hDetector]
            simp
          · simp only [Function.update_self, List.map_append, List.map_cons, List.map_nil,
              stream_concat]
            rw [← List.append_assoc, h.links]
      · cases hStep

theorem worker {i : Nat} {event : WorkerEvent} (h : Ordered acquisitions p)
    (hStep : p.step env 1 (.worker i event) = some p') : Ordered acquisitions p' := by
  rw [Pipeline.step] at hStep
  split at hStep
  · next hGuard =>
      obtain rfl := Nat.lt_one_iff.mp hGuard
      obtain ⟨⟨worker, counted⟩, hWorker, rfl⟩ := Option.map_eq_some_iff.mp hStep
      refine { h with links := ?_ }
      simp only [Function.update_self]
      rw [Worker.step_parts hWorker]
      exact h.links
  · cases hStep

/-- The message handled is the one the detector sent next, and it leaves alone what
was latched unless it is a header. -/
theorem receive {i : Nat} (hReads : ∀ a ∈ acquisitions, a.Reads env) (h : Ordered acquisitions p)
    (hStep : p.step env 1 (.receive i) = some p') : Ordered acquisitions p' := by
  obtain rfl : i = 0 := by
    rw [Pipeline.step] at hStep
    split at hStep
    · split at hStep
      · next hGuard => exact Nat.lt_one_iff.mp hGuard
      · cases hStep
    · cases hStep
  have hKnown : ∀ m ∈ p.assigned 0, m ∈ detectorStream 0 acquisitions := by
    intro m hm
    rw [← h.stream]
    exact List.mem_append_right _ (List.mem_append_left _ hm)
  obtain ⟨label, part1, rest, read, sink, assigned, fan, _, hAssigned, _, hRest, hRead, hKinds,
    hReturned, rfl⟩ := Pipeline.receive_cases hReads hKnown h.links h.queue hStep
  refine ⟨?_, ?_, ?_, ?_, ?_⟩
  · rw [← h.stream, hAssigned]
    simp
  · simp only [Function.update_self]
    exact hRest
  · obtain ⟨u, rfl, _⟩ := receive_handled rfl hRead hReturned
    rfl
  · refine h.chain.append (.singleton _) fun last hLast next hNext hKind => ?_
    cases hNext
    have hNotHeader : ∀ members series detail, read ≠ .header members series detail :=
      fun members series detail hHeader => hKind (hKinds.mpr ⟨_, _, _, hHeader⟩)
    obtain ⟨hOffset, _, hID⟩ := receive_not_header rfl hRead hNotHeader hReturned
    obtain ⟨hLastID, hLastOffset⟩ := h.latched last hLast
    exact ⟨hID.trans hLastID.symm, hOffset.trans hLastOffset.symm⟩
  · intro m hm
    rw [List.getLast?_concat] at hm
    cases hm
    exact ⟨rfl, rfl⟩

theorem step {event : PipelineEvent} (hReads : ∀ a ∈ acquisitions, a.Reads env)
    (h : Ordered acquisitions p) (hStep : p.step env 1 event = some p') :
    Ordered acquisitions p' := by
  cases event with
  | main event =>
      obtain ⟨fan, hFan, rfl⟩ := Option.map_eq_some_iff.mp hStep
      rw [operate] at hFan
      split at hFan
      · cases hFan
      · obtain ⟨hSocket, hOffset, hID, _⟩ := mainStep_reception hFan
        exact h.beside hSocket hID hOffset
  | startRx =>
      obtain ⟨fan, hFan, rfl⟩ := Option.map_eq_some_iff.mp hStep
      rw [operate] at hFan
      split at hFan
      · cases hFan
        exact h.beside rfl rfl rfl
      · cases hFan
  | hand i => exact h.hand hStep
  | worker i event => exact h.worker hStep
  | receive i => exact h.receive hReads hStep
  | shutdown =>
      rw [Pipeline.step] at hStep
      split at hStep
      · cases hStep
        exact { h with }
      · cases hStep

end Ordered

theorem orderKept_one : OrderKept 1 := by
  intro env config acquisitions events p hReads hRun
  have hOrdered : Ordered acquisitions p :=
    hRun.invariant (.initial config acquisitions) fun _ _ _ h _ hStep => h.step hReads hStep
  exact inOrder_of_stream hOrdered.stream hOrdered.chain

/-- A run with some workers is a run with more workers, of which some stay idle. -/
theorem step_mono {env : Environment} {n n' : Nat} (h : n ≤ n') {p p' : Pipeline}
    {event : PipelineEvent} (hStep : p.step env n event = some p') :
    p.step env n' event = some p' := by
  have hLift : ∀ {i : Nat}, i < n → i < n' := fun hi => Nat.lt_of_lt_of_le hi h
  cases event with
  | main event => exact hStep
  | startRx => exact hStep
  | shutdown => exact hStep
  | hand i =>
      rw [Pipeline.step] at hStep ⊢
      split at hStep
      · cases hStep
      · split at hStep
        · next hGuard =>
            rw [if_pos ⟨hLift hGuard.1, hGuard.2⟩]
            exact hStep
        · cases hStep
  | worker i event =>
      rw [Pipeline.step] at hStep ⊢
      split at hStep
      · next hGuard =>
          rw [if_pos (hLift hGuard)]
          exact hStep
      · cases hStep
  | receive i =>
      rw [Pipeline.step] at hStep ⊢
      split at hStep
      · split at hStep
        · next hGuard =>
            rw [if_pos (hLift hGuard)]
            exact hStep
        · cases hStep
      · cases hStep

def sampleEnd : Rapidjson.Value :=
  .object [(headerTypeKey, .string endHeaderType), (seriesKey, .int 7)]

def sampleAcquisition : Acquisition where
  header := [objectText sampleHeader]
  images := [[objectText sampleImage, [1], [2], [3]]]
  endOfSeries := [objectText sampleEnd]

def pipelineEnvironment : Environment :=
  .ofTexts [(objectText sampleHeader, sampleHeader), (objectText sampleImage, sampleImage),
    (objectText sampleEnd, sampleEnd)]

theorem sampleAcquisition_reads : sampleAcquisition.Reads pipelineEnvironment where
  header := ⟨_, _, _, _, _, rfl, rfl⟩
  images := by
    intro image hImage
    rw [List.mem_singleton.mp hImage]
    exact ⟨_, _, _, _, rfl, rfl⟩
  endOfSeries := ⟨_, _, _, rfl, rfl⟩

theorem sample_reads : ∀ a ∈ [sampleAcquisition], a.Reads pipelineEnvironment := by
  intro a ha
  rw [List.mem_singleton.mp ha]
  exact sampleAcquisition_reads

/-- One worker has the header and another one the image, and is faster. -/
def overtaking : List PipelineEvent :=
  [.main (.monitor zmqEventAccepted 0), .startRx, .hand 0, .hand 1, .worker 1 .enter] ++
    List.replicate 4 (.worker 1 .forward) ++
    [.receive 1, .worker 0 .enter, .worker 0 .forward, .receive 0]

theorem overtaking_handled : ∃ p, Run (Pipeline.step pipelineEnvironment 2) always
    (.initial defaultConfig [sampleAcquisition]) overtaking p ∧
    (p.handled.map fun m => m.label) = [⟨0, .image⟩, ⟨0, .header⟩] := by
  have hExec : (exec (Pipeline.step pipelineEnvironment 2)
      (.initial defaultConfig [sampleAcquisition]) overtaking).map
      (fun p => p.handled.map fun m => m.label) = some [⟨0, .image⟩, ⟨0, .header⟩] := by
    decide +kernel
  obtain ⟨p, hRun, hLabels⟩ := Option.map_eq_some_iff.mp hExec
  exact ⟨p, run_always_iff.mpr hRun, hLabels⟩

/-- An image at the head of the handled messages has no header before it. -/
theorem not_inOrder_of_image_first {handled : List HandledMessage} {label : Label}
    {labels : List Label} (h : (handled.map fun m => m.label) = label :: labels)
    (hImage : label.kind = .image) : ¬ InOrder handled := by
  intro hOrder
  obtain ⟨image, after, rfl, rfl, _⟩ := List.map_eq_cons_iff.mp h
  obtain ⟨⟨header, hHeader, _⟩, _⟩ := hOrder [] image after rfl hImage
  cases hHeader

/-- The order of the acquisitions is kept by one worker, and by no larger number. -/
theorem orderKept_iff_single {threadCount : Nat} (h : 1 ≤ threadCount) :
    OrderKept threadCount ↔ threadCount = 1 := by
  constructor
  · intro hKept
    by_contra hMore
    obtain ⟨p, hRun, hLabels⟩ := overtaking_handled
    have hSame : ∀ (q : Pipeline) (event : PipelineEvent) (t r : Pipeline), always q event →
        q.step pipelineEnvironment 2 event = some t → q = r →
        ∃ u, r.step pipelineEnvironment threadCount event = some u ∧ t = u := by
      rintro q event t _ _ hStep rfl
      exact ⟨t, step_mono (by omega) hStep, rfl⟩
    obtain ⟨_, hExec, rfl⟩ := hRun.simulation rfl hSame
    have hOrder := hKept _ _ _ _ p sample_reads (run_always_iff.mpr hExec)
    exact not_inOrder_of_image_first hLabels rfl hOrder
  · rintro rfl
    exact orderKept_one

/-- The iff at one worker and at the default number of workers. -/
theorem orderKept_single_and_default :
    (OrderKept 1 ↔ (1 : Nat) = 1) ∧
      (OrderKept defaultConfig.numThreads.toNat ↔ defaultConfig.numThreads.toNat = 1) :=
  ⟨orderKept_iff_single (by decide), orderKept_iff_single (by decide)⟩

/-- With the default number of workers an image can be handled before its header. -/
theorem default_threads_break_order : ∃ p,
    Run (Pipeline.step pipelineEnvironment defaultConfig.numThreads.toNat) always
      (.initial defaultConfig [sampleAcquisition]) overtaking p ∧
    sampleAcquisition.Reads pipelineEnvironment ∧
    (p.handled.map fun m => m.label) = [⟨0, .image⟩, ⟨0, .header⟩] ∧ ¬ InOrder p.handled := by
  obtain ⟨p, hRun, hLabels⟩ := overtaking_handled
  exact ⟨p, hRun, sampleAcquisition_reads, hLabels, not_inOrder_of_image_first hLabels rfl⟩

end Eiger.Broker
