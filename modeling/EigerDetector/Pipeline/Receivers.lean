import EigerDetector.Interface.Contract
import EigerDetector.Plugin.Headers

/-! The fan with the frame receivers at its consumer sockets. A link delivers what was sent
on it in order; the receivers take part by part, at any time. -/
namespace Eiger.Pipeline

open CharArrays Rapidjson Multipart Transition Decoder

/-- A frame receiver: how many parts it took from its link, its decoder, the buffers
downstream, and everything its decoder ever handed on. -/
structure FrameReceiver where
  taken : Nat
  decoder : EigerFrameDecoder
  downstream : List ReadyCall
  handed : List ReadyCall

structure System where
  fan : Fan.EigerFan
  receivers : Nat → FrameReceiver

inductive Event where
  | fan (event : Fan.Event)
  | part (rank : Nat)
  | release (rank : Nat) (id : Int)

namespace FrameReceiver

variable (parse : Parser)

def initial (garbage : Uninitialised) (ids : List Nat) : FrameReceiver :=
  ⟨0, Decoder.initial garbage ids, [], []⟩

/-- Take the next part that was sent on the link. -/
def receive (log : List (Bytes × Bool)) (c : FrameReceiver) : Option FrameReceiver :=
  log[c.taken]?.bind fun (part, more) =>
    (c.decoder.receivePart parse part !more).map fun d =>
      { taken := c.taken + 1
        decoder := d.callsTaken
        downstream := c.downstream ++ d.pool.readyCalls
        handed := c.handed ++ d.pool.readyCalls }

/-- A buffer that is downstream comes back. -/
def release (id : Int) (c : FrameReceiver) : Option FrameReceiver :=
  if id ∈ c.downstream.map ReadyCall.bufferId then
    some { c with
      decoder := c.decoder.pushEmptyBuffer id
      downstream := c.downstream.eraseP fun call => call.bufferId = id }
  else none

end FrameReceiver

namespace System

variable (env : Fan.Environment) (parse : Parser)

/-- One of the receivers has changed. -/
def withReceiver (w : System) (rank : Nat) (c : FrameReceiver) : System :=
  { w with receivers := Function.update w.receivers rank c }

def step (w : System) : Event → Option System
  | .fan event => (w.fan.step env event).map fun fan => { w with fan := fan }
  | .part rank =>
      ((w.receivers rank).receive parse (w.fan.output rank)).map (w.withReceiver rank)
  | .release rank id => ((w.receivers rank).release id).map (w.withReceiver rank)

/-- The fan with these messages in front of it, and receivers with the same buffers. -/
def initial (fan : Fan.EigerFan) (garbage : Uninitialised) (ids : List Nat) : System :=
  ⟨fan, fun _ => .initial garbage ids⟩

/-- The next message is one of a detector, and no write to the cache throws for it. A block
size is positive. -/
def Allowed (w : System) : Event → Prop
  | .fan .receive => ∀ part1 rest tail, w.fan.rxSocket.queue = frame (part1 :: rest) ++ tail →
      Fan.FanOut.Readable env w.fan.router part1 ∧ w.fan.Caches env part1 rest ∧
      ∀ first, Fan.readFirstPart env part1 = some first →
        Interface.FromDetector env parse w.fan.router first
  | .fan (.change (.blockSize value)) => 1 ≤ value
  | _ => True

/-- A receiver that takes a part has a buffer for it. -/
def Supplied (w : System) : Event → Prop
  | .part rank => (w.receivers rank).decoder.pool.Available
  | _ => True

instance (w : System) (event : Event) : Decidable (w.Supplied event) :=
  match event with
  | .part rank => inferInstanceAs (Decidable (w.receivers rank).decoder.pool.Available)
  | .fan _ => .isTrue trivial
  | .release _ _ => .isTrue trivial

end System

/-- The events of the fan among these. -/
def fanEvents : List Event → List Fan.Event
  | [] => []
  | .fan event :: events => event :: fanEvents events
  | _ :: events => fanEvents events

/-- What becomes of each message in turn: the router it finds and where it goes. -/
def deliveries (env : Fan.Environment) : Fan.Router → List (List Bytes) → List Fan.Event →
    List (Fan.Router × Fan.Delivery)
  | _, _, [] => []
  | r, messages, .change change :: events => deliveries env (r.change change) messages events
  | r, messages, .receive :: events =>
      match messages with
      | (part1 :: rest) :: messages =>
          (r, r.route env part1 rest) :: deliveries env (r.after env part1) messages events
      | _ => []

/-- What a rank gets, each message with its number in the stream. -/
def deliveredTo (rank : Nat) (history : List (Fan.Router × Fan.Delivery)) :
    List (Nat × List Bytes) :=
  history.zipIdx.flatMap fun ((r, delivery), k) => (delivery.to r rank).map fun parts => (k, parts)

/-- A buffer that a message is to be handed on in: the number of the message, its parts and
its entry for the buffer. -/
structure Due where
  index : Nat
  parts : List Bytes
  entry : Entry

/-- The entries of a message for which it has parts. -/
def entriesOf (parse : Parser) (parts : List Bytes) : List Entry :=
  match parts.head?.bind (readFirstPart parse) with
  | none => []
  | some kind => kind.entries.filter fun e => e.sentAt ≤ parts.length

def dueOf (parse : Parser) (messages : List (Nat × List Bytes)) : List Due :=
  messages.flatMap fun (k, parts) => (entriesOf parse parts).map (Due.mk k parts)

/-- A call hands on what is due; for an image, under the number in its first part, and with
all that the message says in its header. -/
structure Due.CarriedBy (parse : Parser) (due : Due) (call : ReadyCall) : Prop where
  carries : Carries parse due.parts due.entry call
  number : ∀ frame series hash acqID, due.parts.head?.bind (readFirstPart parse) =
    some (.image frame series hash acqID) → call.header.frameNumber = frame
  header : ∀ m : ImageMessage, m.SaidBy parse due.parts →
    call.header.messageType = .imageData → call.header = m.header

section Links

variable {Part : Type*} {messages : List (List Part)} {part : Part} {more : Bool}
variable {left : List (Part × Bool)}

/-- The next part on a link is the next one of the first message under way. -/
theorem nextPart_of_stream {messages : List (List Bytes)} {part : Bytes}
    {left : List (Bytes × Bool)} (hParts : ∀ message ∈ messages, message ≠ [])
    (h : stream messages = (part, more) :: left) :
    ∃ later, nextPart messages = some (part, !more, later) ∧ stream later = left := by
  cases messages with
  | nil => cases h
  | cons message rest =>
      cases message with
      | nil => exact absurd rfl (hParts [] List.mem_cons_self)
      | cons first others =>
          rw [stream_cons, frame_cons, List.cons_append] at h
          obtain ⟨hFirst, hLeft⟩ := List.cons.inj h
          cases hFirst
          cases others with
          | nil => exact ⟨rest, rfl, hLeft⟩
          | cons second others => exact ⟨(second :: others) :: rest, rfl, hLeft⟩

end Links

section Tracking

variable {parse : Parser} {ids : List Nat} {lossless : Prop}

/-- Calls for some of what is due, in order, or for all of it if nothing is to be lost. -/
def HandsOn (parse : Parser) (lossless : Prop) (due : List Due) (calls : List ReadyCall) : Prop :=
  ∃ chosen, chosen.Sublist due ∧ (lossless → chosen = due) ∧
    List.Forall₂ (Due.CarriedBy parse) chosen calls

theorem HandsOn.append {due due' : List Due} {calls calls' : List ReadyCall}
    (h : HandsOn parse lossless due calls) (h' : HandsOn parse lossless due' calls') :
    HandsOn parse lossless (due ++ due') (calls ++ calls') := by
  obtain ⟨chosen, hSub, hAll, hCarried⟩ := h
  obtain ⟨chosen', hSub', hAll', hCarried'⟩ := h'
  refine ⟨chosen ++ chosen', hSub.append hSub', fun hLossless => ?_, ?_⟩
  · rw [hAll hLossless, hAll' hLossless]
  · exact List.rel_append hCarried hCarried'

/-- What was delivered to a rank is done with or still under way to its decoder, and the
decoder has handed on what was due for what is done with. -/
structure Tracks (parse : Parser) (ids : List Nat) (lossless : Prop)
    (delivered : List (Nat × List Bytes)) (log : List (Bytes × Bool)) (c : FrameReceiver)
    (done todo : List (Nat × List Bytes)) (r : Receiver) : Prop where
  split : delivered = done ++ todo
  unfinished : todo.map Prod.snd = r.unfinished
  emittable : ∀ message ∈ r.unfinished, Emittable parse message
  pending : r.complete = false → ∃ part more rest, r.stream = (part :: more) :: rest
  decoder : c.decoder = r.decoder
  downstream : c.downstream = r.downstream
  bound : c.taken ≤ log.length
  link : stream r.stream = log.drop c.taken
  emitting : Emitting parse r
  sound : Sound parse ids r
  numbered : ∀ frame series hash acqID, AtImage parse frame series hash acqID r →
    Numbered frame r
  headed : ImageMessage.AllHeaded parse r
  available : lossless → ∀ arrival ∈ r.arrivals, arrival.available = true
  handed : ∃ calls, c.handed = calls ++ (if r.complete then [] else r.calls) ∧
    HandsOn parse lossless (dueOf parse done) calls

theorem dueOf_append (messages messages' : List (Nat × List Bytes)) :
    dueOf parse (messages ++ messages') = dueOf parse messages ++ dueOf parse messages' :=
  List.flatMap_append

theorem dueOf_cons (k : Nat) (parts : List Bytes) (messages : List (Nat × List Bytes)) :
    dueOf parse ((k, parts) :: messages) =
      (entriesOf parse parts).map (Due.mk k parts) ++ dueOf parse messages :=
  List.flatMap_cons

/-- The calls for the parts of a message that arrived so far are for some of what is due
for the whole message; for all of it once it is complete and nothing was lost. -/
theorem handsOn_of_emitted {r : Receiver} {k : Nat} {rest : List Bytes} (h : Emitted parse r)
    (hNumbered : ∀ frame series hash acqID, AtImage parse frame series hash acqID r →
      Numbered frame r)
    (hHeaded : ImageMessage.AllHeaded parse r)
    (hParts : Emittable parse (r.parts ++ rest)) (hStarted : r.parts ≠ [])
    (hAvailable : lossless → rest = [] ∧ ∀ arrival ∈ r.arrivals, arrival.available = true) :
    HandsOn parse lossless (dueOf parse [(k, r.parts ++ rest)]) r.calls := by
  obtain ⟨kind, hKind, _⟩ := hParts
  have hHead : (r.parts ++ rest).head? = r.parts.head? := by
    cases hFirst : r.parts with
    | nil => exact absurd hFirst hStarted
    | cons first others => rfl
  have hLength : r.arrivals.length = r.parts.length := (List.length_map ..).symm
  have hDue : dueOf parse [(k, r.parts ++ rest)] =
      (kind.entries.filter fun e => e.sentAt ≤ (r.parts ++ rest).length).map
        (Due.mk k (r.parts ++ rest)) := by
    rw [dueOf_cons, entriesOf, hKind]
    exact List.append_nil _
  have hCalls := h kind (by rw [← hHead]; exact hKind)
  refine ⟨(kind.entries.filter fun e => e.due r.arrivals).map (Due.mk k (r.parts ++ rest)), ?_,
    fun hLossless => ?_, ?_⟩
  · rw [hDue]
    refine List.Sublist.map _ (List.monotone_filter_right _ fun e hArrived => ?_)
    have hSent := of_decide_eq_true (Bool.and_eq_true_iff.mp hArrived).1
    rw [decide_eq_true_iff, List.length_append]
    omega
  · obtain ⟨rfl, hAll⟩ := hAvailable hLossless
    rw [hDue, List.append_nil]
    congr 1
    refine List.filter_congr fun e hEntry => ?_
    obtain ⟨hLow, hHigh⟩ := (entries_ordered hEntry).allocated
    rw [Entry.due, hLength]
    by_cases hSent : e.sentAt ≤ r.parts.length
    · have hAt : e.allocatedAt - 1 < r.arrivals.length := by omega
      have hAllocated : numbered r.arrivals e.allocatedAt = some r.arrivals[e.allocatedAt - 1] :=
        List.getElem?_eq_getElem hAt
      rw [hAllocated, Option.any_some, hAll _ (List.getElem_mem hAt), Bool.and_true]
    · rw [decide_eq_false hSent, Bool.false_and]
  · rw [List.forall₂_map_left_iff]
    have hEntries : ∀ e ∈ kind.entries.filter fun e => e.due r.arrivals,
        e.Ordered ∧ e.sentAt ≤ r.parts.length := by
      intro e hMem
      obtain ⟨hEntry, hArrived⟩ := List.mem_filter.mp hMem
      have hSent := of_decide_eq_true (Bool.and_eq_true_iff.mp hArrived).1
      exact ⟨entries_ordered hEntry, hLength ▸ hSent⟩
    have hNumbers : ∀ call ∈ r.calls, ∀ frame series hash acqID,
        (r.parts ++ rest).head?.bind (readFirstPart parse) =
          some (.image frame series hash acqID) → call.header.frameNumber = frame := by
      intro call hCall frame series hash acqID hImage
      rw [hHead] at hImage
      exact (hNumbered frame series hash acqID hImage).handed call hCall
    have hSays : ∀ call ∈ r.calls, ∀ m : ImageMessage, m.SaidBy parse (r.parts ++ rest) →
        call.header.messageType = .imageData → call.header = m.header :=
      fun call hCall m hSaid => (hHeaded m rest hSaid).handed call hCall
    have hBoth := (List.forall₂_and_left _ _).mpr ⟨fun call hCall =>
      And.intro (hNumbers call hCall) (hSays call hCall),
      ((List.forall₂_and_left _ _).mpr ⟨hEntries, hCalls⟩).flip⟩
    refine hBoth.flip.imp fun e call h => ⟨?_, h.1.1, h.1.2⟩
    exact h.2.2.mono h.2.1.1 h.2.1.2 rest

/-- A receiver at a link on which nothing was sent. -/
theorem Tracks.start (garbage : Uninitialised) (hIds : ids.Nodup) :
    Tracks parse ids lossless [] [] (.initial garbage ids) [] [] (.initial garbage ids []) where
  split := rfl
  unfinished := rfl
  emittable := nofun
  pending := nofun
  decoder := rfl
  downstream := rfl
  bound := le_refl 0
  link := rfl
  emitting := ⟨fun _ => rfl, nofun, fun kind hKind => by cases hKind⟩
  sound := sound_initial garbage hIds []
  numbered := fun _ _ _ _ hImage => by cases hImage
  headed := fun m _ _ => ⟨nofun, ImageMessage.headsCalls_nil m⟩
  available := fun _ => nofun
  handed := ⟨[], rfl, [], .refl _, fun _ => rfl, .nil⟩

variable {delivered done todo : List (Nat × List Bytes)} {log : List (Bytes × Bool)}
variable {c c' : FrameReceiver} {r : Receiver}

/-- More messages are sent on the link. -/
theorem Tracks.send (h : Tracks parse ids lossless delivered log c done todo r)
    (more : List (Nat × List Bytes)) (hMore : ∀ message ∈ more, Emittable parse message.2) :
    Tracks parse ids lossless (delivered ++ more) (log ++ stream (more.map Prod.snd)) c done
      (todo ++ more) { r with stream := r.stream ++ more.map Prod.snd } := by
  have hUnfinished : ({ r with stream := r.stream ++ more.map Prod.snd } : Receiver).unfinished =
      r.unfinished ++ more.map Prod.snd := by
    by_cases hComplete : r.complete = true
    · rw [Receiver.unfinished, Receiver.unfinished, if_pos hComplete, if_pos hComplete]
    · obtain ⟨part, others, rest, hStream⟩ := h.pending (Bool.eq_false_iff.mpr hComplete)
      rw [Receiver.unfinished, Receiver.unfinished, if_neg hComplete, if_neg hComplete, hStream]
      rfl
  refine ⟨?_, ?_, ?_, fun hOpen => ?_, h.decoder, h.downstream, ?_, ?_,
    ⟨h.emitting.boundary, h.emitting.stage, h.emitting.emitted⟩,
    ⟨h.sound.owned, h.sound.taken, h.sound.compatible, h.sound.position, h.sound.boundary,
      h.sound.within⟩, fun frame series hash acqID hAt => ?_, fun m rest hSaid => ?_,
    h.available, h.handed⟩
  · rw [h.split, List.append_assoc]
  · rw [hUnfinished, List.map_append, h.unfinished]
  · rw [hUnfinished]
    intro message hMessage
    rcases List.mem_append.mp hMessage with hOld | hNew
    · exact h.emittable message hOld
    · obtain ⟨sent, hSent, rfl⟩ := List.mem_map.mp hNew
      exact hMore sent hSent
  · obtain ⟨part, others, rest, hStream⟩ := h.pending hOpen
    exact ⟨part, others, rest ++ more.map Prod.snd, by rw [hStream]; rfl⟩
  · have hBound := h.bound
    rw [List.length_append]
    omega
  · rw [stream_append, h.link, List.drop_append_of_le_length h.bound]
  · obtain ⟨hCurrent, hHanded⟩ := h.numbered frame series hash acqID hAt
    exact ⟨hCurrent, hHanded⟩
  · obtain ⟨hCurrent, hHanded⟩ := h.headed m rest hSaid
    exact ⟨hCurrent, hHanded⟩

/-- A buffer comes back. -/
theorem Tracks.release {id : Int} (h : Tracks parse ids lossless delivered log c done todo r)
    (hRelease : c.release id = some c') :
    Tracks parse ids lossless delivered log c' done todo (r.released id) := by
  rw [FrameReceiver.release] at hRelease
  split at hRelease
  · next hLent =>
      cases hRelease
      rw [h.downstream] at hLent
      have hStep : r.step parse (.release id) = some (r.released id) := if_pos hLent
      refine ⟨h.split, h.unfinished, h.emittable, h.pending, ?_, ?_, h.bound, h.link,
        h.emitting.step h.sound h.emittable hStep,
        h.sound.step (guarded_of_emittable h.emittable _) hStep,
        fun frame series hash acqID hAt =>
          .step (h.numbered frame series hash acqID) h.emitting h.sound hStep hAt,
        h.headed.step h.emitting h.sound hStep, h.available, h.handed⟩
      · rw [Receiver.released, ← h.decoder]
      · rw [Receiver.released, ← h.downstream]
  · cases hRelease

theorem parts_of_emittable {message : List Bytes} (h : Emittable parse message) :
    message ≠ [] := by
  rintro rfl
  obtain ⟨kind, hKind, _⟩ := h
  cases hKind

/-- No message under way to the decoder is empty. -/
theorem Tracks.parts (h : Tracks parse ids lossless delivered log c done todo r) :
    ∀ message ∈ r.stream, message ≠ [] := by
  intro message hMessage
  by_cases hComplete : r.complete = true
  · refine parts_of_emittable (h.emittable message ?_)
    rwa [Receiver.unfinished, if_pos hComplete]
  · obtain ⟨part, others, rest, hStream⟩ := h.pending (Bool.eq_false_iff.mpr hComplete)
    rw [hStream] at hMessage
    rcases List.mem_cons.mp hMessage with rfl | hRest
    · exact List.cons_ne_nil _ _
    · refine parts_of_emittable (h.emittable message ?_)
      rw [Receiver.unfinished, if_neg hComplete, hStream]
      exact List.mem_cons_of_mem _ hRest

theorem received_calls (part : Bytes) (last : Bool) (later : List (List Bytes))
    (d : EigerFrameDecoder) :
    (r.received part last later d).calls =
      (if r.complete then [] else r.calls) ++ d.pool.readyCalls := by
  rw [Receiver.calls, Receiver.received, List.flatMap_append, Receiver.earlier]
  split
  · simp
  · simp [Receiver.calls]

theorem received_available {part : Bytes} {last : Bool} {later : List (List Bytes)}
    {d : EigerFrameDecoder} (hArrivals : ∀ arrival ∈ r.arrivals, arrival.available = true)
    (hNow : r.decoder.pool.Available) :
    ∀ arrival ∈ (r.received part last later d).arrivals, arrival.available = true := by
  intro arrival hArrival
  rcases List.mem_append.mp hArrival with hEarlier | hLast
  · rw [Receiver.earlier] at hEarlier
    split at hEarlier
    · cases hEarlier
    · exact hArrivals arrival hEarlier
  · rw [List.mem_singleton.mp hLast]
    exact decide_eq_true hNow

/-- The receiver takes its next part. -/
theorem Tracks.receive (h : Tracks parse ids lossless delivered log c done todo r)
    (hAvailable : lossless → c.decoder.pool.Available)
    (hReceive : c.receive parse log = some c') :
    ∃ done' todo' r', Tracks parse ids lossless delivered log c' done' todo' r' := by
  obtain ⟨⟨part, more⟩, hPart, hReceive⟩ := Option.bind_eq_some_iff.mp hReceive
  obtain ⟨d, hDecoder, rfl⟩ := Option.map_eq_some_iff.mp hReceive
  obtain ⟨hBound, hLog⟩ := List.getElem?_eq_some_iff.mp hPart
  have hDrop : stream r.stream = (part, more) :: log.drop (c.taken + 1) := by
    rw [h.link, List.drop_eq_getElem_cons hBound, hLog]
  obtain ⟨later, hNext, hLater⟩ := nextPart_of_stream h.parts hDrop
  rw [h.decoder] at hDecoder hAvailable
  have hStep : r.step parse .part = some (r.received part (!more) later d) := by
    rw [Receiver.step, hNext, Option.bind_some]
    simp only [hDecoder]
    rfl
  have hEmitting := h.emitting.step h.sound h.emittable hStep
  have hSound := h.sound.step (guarded_of_emittable h.emittable _) hStep
  have hNumbered : ∀ frame series hash acqID,
      AtImage parse frame series hash acqID (r.received part (!more) later d) →
        Numbered frame (r.received part (!more) later d) :=
    fun frame series hash acqID hAt =>
      .step (h.numbered frame series hash acqID) h.emitting h.sound hStep hAt
  have hHeaded := h.headed.step h.emitting h.sound hStep
  have hArrivals : lossless →
      ∀ arrival ∈ (r.received part (!more) later d).arrivals, arrival.available = true :=
    fun hLossless => received_available (h.available hLossless) (hAvailable hLossless)
  have hDownstream : c.downstream ++ d.pool.readyCalls = r.downstream ++ d.pool.readyCalls := by
    rw [h.downstream]
  obtain ⟨calls, hHanded, hDone⟩ := h.handed
  have hCalls : c.handed ++ d.pool.readyCalls =
      calls ++ (r.received part (!more) later d).calls := by
    rw [hHanded, received_calls, List.append_assoc]
  obtain ⟨others, rest, hUnfinished, hLast⟩ := Receiver.unfinished_next hNext d
  have hTodo := h.unfinished
  rw [hUnfinished] at hTodo
  obtain ⟨⟨k, message⟩, todo', rfl, hMessage, hRest⟩ := List.map_eq_cons_iff.mp hTodo
  rcases hLast with ⟨hEnd, rfl, hAfter⟩ | ⟨hStill, hOthers, hAfter⟩
  · -- the message is complete, and the decoder is done with it
    have hParts : (r.received part (!more) later d).parts ++ [] = message := by
      rw [Receiver.received_parts, List.append_nil]
      exact hMessage.symm
    have hMem : message ∈ r.unfinished := by
      rw [hUnfinished, ← hMessage]
      exact List.mem_cons_self
    have hHandsOn : HandsOn parse lossless
        (dueOf parse [(k, (r.received part (!more) later d).parts ++ [])])
        (r.received part (!more) later d).calls :=
      handsOn_of_emitted hEmitting.emitted hNumbered hHeaded
        (by rw [hParts]; exact h.emittable message hMem)
        (by rw [Receiver.received_parts]; simp) fun hLossless => ⟨rfl, hArrivals hLossless⟩
    rw [hParts] at hHandsOn
    refine ⟨done ++ [(k, message)], todo', _, ?_, ?_, ?_, ?_, rfl, hDownstream, hBound, hLater,
      hEmitting, hSound, hNumbered, hHeaded, hArrivals,
      calls ++ (r.received part (!more) later d).calls, ?_, ?_⟩
    · rw [h.split, List.append_assoc]
      rfl
    · rw [hAfter, hRest]
    · rw [hAfter]
      exact fun other hOther => h.emittable other (hUnfinished ▸ List.mem_cons_of_mem _ hOther)
    · rw [show (r.received part (!more) later d).complete = !more from rfl, hEnd]
      intro hUnfinished'
      cases hUnfinished'
    · rw [show (r.received part (!more) later d).complete = !more from rfl, hEnd, if_pos rfl,
        List.append_nil]
      exact hCalls
    · rw [dueOf_append]
      exact hDone.append hHandsOn
  · refine ⟨done, (k, message) :: todo', _, h.split, ?_, ?_, ?_, rfl, hDownstream, hBound, hLater,
      hEmitting, hSound, hNumbered, hHeaded, hArrivals, calls, ?_, hDone⟩
    · rw [hAfter]
      exact h.unfinished
    · rw [hAfter]
      exact h.emittable
    · intro _
      obtain ⟨other, left, hStream, hCase⟩ := nextPart_some hNext
      rcases hCase with ⟨hEnd, _⟩ | ⟨_, hSome, rfl⟩
      · rw [hStill] at hEnd
        cases hEnd
      · obtain ⟨next, following, rfl⟩ := List.exists_cons_of_ne_nil hSome
        exact ⟨next, following, left, rfl⟩
    · rw [show (r.received part (!more) later d).complete = !more from rfl, hStill,
        if_neg Bool.false_ne_true]
      exact hCalls

end Tracking

section Routing

variable {env : Fan.Environment} {parse : Parser} {r : Fan.Router} {rank : Nat}

theorem deliveredTo_concat (history : List (Fan.Router × Fan.Delivery)) (r : Fan.Router)
    (delivery : Fan.Delivery) :
    deliveredTo rank (history ++ [(r, delivery)]) = deliveredTo rank history ++
      (delivery.to r rank).map fun parts => (history.length, parts) := by
  rw [deliveredTo, deliveredTo, List.zipIdx_append, List.flatMap_append]
  simp

/-- The fan can only take a message that is there. -/
theorem receive_blocked {s : Fan.EigerFan} (hQueue : s.rxSocket.queue = []) :
    s.step env .receive = none := by
  have hAnswer : Fan.answer env .recv s = none := by
    rw [Fan.answer, hQueue]
  have hRecv : Fan.Rx.recv.run (Fan.answer env) s = .blocked s := by
    rw [Fan.Rx.recv, Fan.Rx.perform, Threads.Program.perform, Threads.Program.run, hAnswer]
  have hRun : Fan.receive env s = .blocked s := by
    rw [Fan.receive, Fan.handleRxSocket, Fan.run_members, Threads.Program.run_bind, hRecv]
  rw [Fan.EigerFan.step, hRun]

end Routing

/-- A message of a detector with the router that it found and where it went. -/
def Routed (env : Fan.Environment) (parse : Parser) (message : List Bytes)
    (routed : Fan.Router × Fan.Delivery) : Prop :=
  ∃ part1 rest first, message = part1 :: rest ∧ Fan.readFirstPart env part1 = some first ∧
    Interface.FromDetector env parse routed.1 first ∧ routed.2 = routed.1.route env part1 rest

/-- The fan has routed its messages so far, and each receiver keeps to its link. -/
structure Follows (env : Fan.Environment) (parse : Parser) (ids : List Nat) (lossless : Prop)
    (offered : List (List Bytes)) (history : List (Fan.Router × Fan.Delivery)) (a : Fan.FanOut)
    (w : System) : Prop where
  routed : ∃ consumed, offered = consumed ++ a.messages ∧
    List.Forall₂ (Routed env parse) consumed history
  messages : ∀ message ∈ a.messages, message ≠ []
  refines : Fan.Refines (fun _ => []) a w.fan
  delivered : ∀ rank, a.delivered rank = (deliveredTo rank history).map Prod.snd
  tracks : ∀ rank, ∃ done todo r, Tracks parse ids lossless (deliveredTo rank history)
    (w.fan.output rank) (w.receivers rank) done todo r

section Runs

variable {env : Fan.Environment} {parse : Parser} {ids : List Nat} {lossless : Prop}
variable {offered : List (List Bytes)} {history : List (Fan.Router × Fan.Delivery)}
variable {a : Fan.FanOut} {w w' : System}

/-- A receiver has changed, and keeps to its link. -/
theorem Follows.withReceiver {rank : Nat} {c : FrameReceiver}
    (h : Follows env parse ids lossless offered history a w)
    (hTracks : ∃ done todo r, Tracks parse ids lossless (deliveredTo rank history)
      (w.fan.output rank) c done todo r) :
    Follows env parse ids lossless offered history a (w.withReceiver rank c) := by
  refine ⟨h.routed, h.messages, h.refines, h.delivered, fun other => ?_⟩
  show ∃ done todo r, Tracks parse ids lossless _ (w.fan.output other)
    (Function.update w.receivers rank c other) _ _ _
  by_cases hSame : other = rank
  · subst hSame
    rw [Function.update_self]
    exact hTracks
  · rw [Function.update_of_ne hSame]
    exact h.tracks other

/-- A setting changes. -/
theorem Follows.change {change : Fan.Change}
    (h : Follows env parse ids lossless offered history a w)
    (hAllowed : w.Allowed env parse (.fan (.change change))) :
    Follows env parse ids lossless offered history { a with router := a.router.change change }
      { w with fan := w.fan.change change } := by
  have hAdmissible : a.Admissible env (.change change) := by
    cases change <;> exact hAllowed
  have hRefines := Fan.change_refines change hAdmissible h.refines
  refine ⟨h.routed, h.messages, hRefines, h.delivered, fun rank => ?_⟩
  have hOutput : (w.fan.change change).output rank = w.fan.output rank := by
    rw [hRefines.output rank, h.refines.output rank]
  show ∃ done todo r, Tracks parse ids lossless _ ((w.fan.change change).output rank) _ _ _ _
  rw [hOutput]
  exact h.tracks rank

/-- The fan handles a message. -/
theorem Follows.receive {fan : Fan.EigerFan}
    (h : Follows env parse ids lossless offered history a w)
    (hAllowed : w.Allowed env parse (.fan .receive)) (hStep : w.fan.step env .receive = some fan) :
    ∃ part1 rest messages, a.messages = (part1 :: rest) :: messages ∧
      Follows env parse ids lossless offered
        (history ++ [(a.router, a.router.route env part1 rest)])
        { router := a.router.after env part1
          messages := messages
          delivered := fun rank =>
            a.delivered rank ++ (a.router.route env part1 rest).to a.router rank }
        { w with fan := fan } := by
  cases hMessages : a.messages with
  | nil =>
      have hQueue : w.fan.rxSocket.queue = [] := by
        rw [h.refines.queue, hMessages]
        rfl
      rw [receive_blocked hQueue] at hStep
      cases hStep
  | cons message messages =>
      cases message with
      | nil => exact absurd rfl (h.messages [] (hMessages ▸ List.mem_cons_self))
      | cons part1 rest =>
          have hQueue : w.fan.rxSocket.queue = frame (part1 :: rest) ++ stream messages := by
            rw [h.refines.queue, hMessages, stream_cons]
          obtain ⟨hReadable, hCaches, hDetector⟩ := hAllowed part1 rest _ hQueue
          rw [h.refines.router] at hReadable hDetector
          obtain ⟨t, hReceive, hRefines⟩ :=
            Fan.receive_refines hMessages hReadable hCaches h.refines
          have hSame : fan = t := by
            rw [Fan.EigerFan.step, hReceive] at hStep
            exact (Option.some.inj hStep).symm
          subst hSame
          obtain ⟨first, hFirst, _⟩ := hReadable
          refine ⟨part1, rest, messages, rfl, ?_, fun message hMessage => ?_, hRefines,
            fun rank => ?_, fun rank => ?_⟩
          · obtain ⟨consumed, hOffered, hRouted⟩ := h.routed
            have hNow : Routed env parse (part1 :: rest)
                (a.router, a.router.route env part1 rest) :=
              ⟨part1, rest, first, rfl, hFirst, hDetector first hFirst, rfl⟩
            refine ⟨consumed ++ [part1 :: rest], ?_, List.rel_append hRouted (.cons hNow .nil)⟩
            rw [hOffered, hMessages, List.append_assoc]
            rfl
          · exact h.messages message (hMessages ▸ List.mem_cons_of_mem _ hMessage)
          · rw [deliveredTo_concat, List.map_append, ← h.delivered rank, List.map_map]
            simp [Function.comp_def]
          · obtain ⟨done, todo, r, hTracks⟩ := h.tracks rank
            have hSend := hTracks.send
              (((a.router.route env part1 rest).to a.router rank).map
                fun parts => (history.length, parts)) (by
                  intro message hMessage
                  obtain ⟨parts, hParts, rfl⟩ := List.mem_map.mp hMessage
                  exact (hDetector first hFirst).emittable hFirst hParts)
            rw [deliveredTo_concat]
            have hOutput : fan.output rank = w.fan.output rank ++
                stream ((((a.router.route env part1 rest).to a.router rank).map
                  fun parts => (history.length, parts)).map Prod.snd) := by
              rw [hRefines.output rank, h.refines.output rank, List.map_map]
              simp [Function.comp_def]
            show ∃ done todo r, Tracks parse ids lossless _ (fan.output rank) _ _ _ _
            rw [hOutput]
            exact ⟨_, _, _, hSend⟩

/-- What a run adds to what was routed is what the router makes of the events of the fan. -/
theorem Follows.run {events : List Event} {allowed : System → Event → Prop}
    (h : Follows env parse ids lossless offered history a w)
    (hRun : Run (System.step env parse) allowed w events w')
    (hAllowed : ∀ v event, allowed v event → v.Allowed env parse event)
    (hSupplied : lossless → ∀ v event, allowed v event → v.Supplied event) :
    ∃ b, Follows env parse ids lossless offered
      (history ++ deliveries env a.router a.messages (fanEvents events)) b w' := by
  induction hRun generalizing history a with
  | nil => exact ⟨a, by rw [fanEvents, deliveries, List.append_nil]; exact h⟩
  | @cons w v w' event events guard first rest ih =>
      cases event with
      | fan event =>
          obtain ⟨fan, hFan, rfl⟩ := Option.map_eq_some_iff.mp first
          cases event with
          | change change =>
              cases hFan
              obtain ⟨b, hFollows⟩ := ih (h.change (hAllowed _ _ guard))
              exact ⟨b, by rw [fanEvents, deliveries]; exact hFollows⟩
          | receive =>
              obtain ⟨part1, others, messages, hMessages, hNext⟩ :=
                h.receive (hAllowed _ _ guard) hFan
              obtain ⟨b, hFollows⟩ := ih hNext
              rw [List.append_assoc] at hFollows
              exact ⟨b, by rw [fanEvents, hMessages, deliveries]; exact hFollows⟩
      | part rank =>
          obtain ⟨c, hReceive, rfl⟩ := Option.map_eq_some_iff.mp first
          obtain ⟨done, todo, r, hTracks⟩ := h.tracks rank
          exact ih (h.withReceiver (hTracks.receive
            (fun hLossless => hSupplied hLossless _ _ guard) hReceive))
      | release rank id =>
          obtain ⟨c, hRelease, rfl⟩ := Option.map_eq_some_iff.mp first
          obtain ⟨done, todo, r, hTracks⟩ := h.tracks rank
          exact ih (h.withReceiver ⟨_, _, _, hTracks.release hRelease⟩)

/-- What a receiver has handed on is due to it. -/
theorem Tracks.handsOn {delivered done todo : List (Nat × List Bytes)}
    {log : List (Bytes × Bool)} {c : FrameReceiver} {r : Receiver}
    (h : Tracks parse ids lossless delivered log c done todo r) :
    HandsOn parse False (dueOf parse delivered) c.handed := by
  obtain ⟨calls, hHanded, chosen, hSub, _, hCarried⟩ := h.handed
  have hDone : HandsOn parse False (dueOf parse done) calls :=
    ⟨chosen, hSub, False.elim, hCarried⟩
  have hSome : ∀ due, HandsOn parse False due [] := fun due =>
    ⟨[], List.nil_sublist due, False.elim, .nil⟩
  rw [hHanded, h.split, dueOf_append]
  refine hDone.append ?_
  by_cases hComplete : r.complete = true
  · rw [if_pos hComplete]
    exact hSome _
  · rw [if_neg hComplete]
    have hTodo := h.unfinished
    rw [Receiver.unfinished, if_neg hComplete] at hTodo
    obtain ⟨⟨k, message⟩, todo', rfl, rfl, _⟩ := List.map_eq_cons_iff.mp hTodo
    obtain ⟨kind, hKind, _⟩ := h.emitting.stage (Bool.eq_false_iff.mpr hComplete)
    have hMessage := h.emittable (r.parts ++ r.stream.headD []) (by
      rw [Receiver.unfinished, if_neg hComplete]
      exact List.mem_cons_self)
    have hStarted : r.parts ≠ [] := by
      intro hNone
      rw [hNone] at hKind
      cases hKind
    have hNow : HandsOn parse False (dueOf parse [(k, r.parts ++ r.stream.headD [])]) r.calls :=
      handsOn_of_emitted h.emitting.emitted h.numbered h.headed hMessage hStarted False.elim
    have hBoth := hNow.append (hSome (dueOf parse todo'))
    rwa [List.append_nil, ← dueOf_append] at hBoth

/-- A receiver that has taken everything, and had a buffer for it, has handed on all that
is due to it. -/
theorem Tracks.all {delivered done todo : List (Nat × List Bytes)} {log : List (Bytes × Bool)}
    {c : FrameReceiver} {r : Receiver} (h : Tracks parse ids True delivered log c done todo r)
    (hTaken : c.taken = log.length) :
    List.Forall₂ (Due.CarriedBy parse) (dueOf parse delivered) c.handed := by
  have hLink : stream r.stream = [] := by
    rw [h.link, hTaken, List.drop_length]
  have hStream : r.stream = [] := by
    cases hStream : r.stream with
    | nil => rfl
    | cons message rest =>
        obtain ⟨part, others, rfl⟩ :=
          List.exists_cons_of_ne_nil (h.parts message (hStream ▸ List.mem_cons_self))
        rw [hStream, stream_cons, frame_cons] at hLink
        cases hLink
  have hComplete : r.complete = true := by
    by_contra hOpen
    obtain ⟨part, others, rest, hPending⟩ := h.pending (Bool.eq_false_iff.mpr hOpen)
    rw [hStream] at hPending
    cases hPending
  have hTodo : todo = [] := by
    have hNone := h.unfinished
    rw [Receiver.unfinished, if_pos hComplete, hStream] at hNone
    exact List.map_eq_nil_iff.mp hNone
  obtain ⟨calls, hHanded, chosen, _, hAll, hCarried⟩ := h.handed
  rw [hHanded, if_pos hComplete, List.append_nil, h.split, hTodo, List.append_nil,
    ← hAll trivial]
  exact hCarried

/-- A receiver for which there is a part can take it, if the messages can be read. -/
theorem Tracks.total {delivered done todo : List (Nat × List Bytes)} {log : List (Bytes × Bool)}
    {c : FrameReceiver} {r : Receiver} (h : Tracks parse ids lossless delivered log c done todo r)
    (hReadable : ∀ message ∈ delivered, Readable parse message.2) (hMore : c.taken < log.length) :
    (c.receive parse log).isSome := by
  obtain ⟨⟨part, more⟩, hPart⟩ : ∃ next, log[c.taken] = next := ⟨_, rfl⟩
  have hDrop : stream r.stream = (part, more) :: log.drop (c.taken + 1) := by
    rw [h.link, List.drop_eq_getElem_cons hMore, hPart]
  obtain ⟨later, hNext, _⟩ := nextPart_of_stream h.parts hDrop
  have hUnfinished : ∀ message ∈ r.unfinished, Readable parse message := by
    intro message hMessage
    rw [← h.unfinished] at hMessage
    obtain ⟨sent, hSent, rfl⟩ := List.mem_map.mp hMessage
    refine hReadable sent ?_
    rw [h.split]
    exact List.mem_append_right done hSent
  have hStep := next_total h.emitting h.sound h.emittable hUnfinished (by rw [hNext]; rfl)
  rw [Receiver.step, hNext, Option.bind_some] at hStep
  obtain ⟨r', hReceived⟩ := Option.isSome_iff_exists.mp hStep
  obtain ⟨d, hDecoder, _⟩ := Option.map_eq_some_iff.mp hReceived
  rw [FrameReceiver.receive, List.getElem?_eq_getElem hMore, hPart, Option.bind_some]
  simp only [h.decoder, hDecoder]
  rfl

end Runs

/-- The fan with these messages in front of it, before it has sent anything. -/
structure Starts (messages : List (List Bytes)) (fan : Fan.EigerFan) : Prop where
  ready : fan.Ready
  queue : fan.rxSocket.queue = stream messages
  parts : ∀ message ∈ messages, message ≠ []
  output : ∀ rank, fan.output rank = []

/-- What is due to a rank after these events. -/
def dueTo (env : Fan.Environment) (parse : Parser) (fan : Fan.EigerFan)
    (messages : List (List Bytes)) (events : List Event) (rank : Nat) : List Due :=
  dueOf parse (deliveredTo rank (deliveries env fan.router messages (fanEvents events)))

section Pipeline

variable {env : Fan.Environment} {parse : Parser} {garbage : Uninitialised} {ids : List Nat}
variable {fan : Fan.EigerFan} {messages : List (List Bytes)} {events : List Event} {w : System}

theorem follows_start (hStarts : Starts messages fan) (hIds : ids.Nodup) (lossless : Prop) :
    Follows env parse ids lossless messages [] ⟨fan.router, messages, fun _ => []⟩
      (.initial fan garbage ids) := by
  refine ⟨⟨[], rfl, .nil⟩, hStarts.parts,
    ⟨⟨hStarts.ready, rfl, hStarts.queue⟩, hStarts.output⟩, fun _ => rfl, fun rank => ?_⟩
  show ∃ done todo r, Tracks parse ids lossless [] (fan.output rank) _ _ _ _
  rw [hStarts.output rank]
  exact ⟨[], [], _, .start garbage hIds⟩

/-- A receiver has handed on some of what is due to its rank, in order; all of it, if it has
taken all parts and never lacked a buffer. -/
theorem handed_of_run (hStarts : Starts messages fan) (hIds : ids.Nodup)
    (hRun : Run (System.step env parse) (System.Allowed env parse) (.initial fan garbage ids)
      events w) (rank : Nat) :
    ∃ chosen, chosen.Sublist (dueTo env parse fan messages events rank) ∧
      List.Forall₂ (Due.CarriedBy parse) chosen (w.receivers rank).handed ∧
      (Run (System.step env parse) System.Supplied (.initial fan garbage ids) events w →
        (w.receivers rank).taken = (w.fan.output rank).length →
          chosen = dueTo env parse fan messages events rank) := by
  by_cases hAll : Run (System.step env parse) System.Supplied (.initial fan garbage ids) events w ∧
      (w.receivers rank).taken = (w.fan.output rank).length
  · obtain ⟨_, hFollows⟩ := (follows_start hStarts hIds True).run (hRun.and hAll.1)
      (fun _ _ h => h.1) fun _ _ _ h => h.2
    obtain ⟨_, _, _, hTracks⟩ := hFollows.tracks rank
    exact ⟨_, .refl _, hTracks.all hAll.2, fun _ _ => rfl⟩
  · obtain ⟨_, hFollows⟩ :=
      (follows_start hStarts hIds False).run hRun (fun _ _ h => h) False.elim
    obtain ⟨_, _, _, hTracks⟩ := hFollows.tracks rank
    obtain ⟨chosen, hSub, _, hCarried⟩ := hTracks.handsOn
    exact ⟨chosen, hSub, hCarried, fun hSupplied hTaken => absurd ⟨hSupplied, hTaken⟩ hAll⟩

/-- In every interleaving of the fan and its frame receivers, a receiver has handed on, in
order and each at most once, some of the buffers due for the messages that the router delivers
to its rank, each with what it is to carry; all of them, if it has taken all parts and never
lacked a buffer. It can take every part that is there, if the messages can be read. -/
theorem receivers_hand_on_deliveries (hStarts : Starts messages fan) (hIds : ids.Nodup)
    (hRun : Run (System.step env parse) (System.Allowed env parse) (.initial fan garbage ids)
      events w) (rank : Nat) :
    (∃ chosen, chosen.Sublist (dueTo env parse fan messages events rank) ∧
      List.Forall₂ (Due.CarriedBy parse) chosen (w.receivers rank).handed) ∧
    (Run (System.step env parse) System.Supplied (.initial fan garbage ids) events w →
      (w.receivers rank).taken = (w.fan.output rank).length →
        List.Forall₂ (Due.CarriedBy parse) (dueTo env parse fan messages events rank)
          (w.receivers rank).handed) ∧
    ((∀ message ∈ deliveredTo rank (deliveries env fan.router messages (fanEvents events)),
        Readable parse message.2) →
      (w.receivers rank).taken < (w.fan.output rank).length →
        (w.step env parse (.part rank)).isSome) := by
  obtain ⟨chosen, hSub, hCarried, hAll⟩ := handed_of_run hStarts hIds hRun rank
  refine ⟨⟨chosen, hSub, hCarried⟩, fun hSupplied hTaken => ?_, fun hReadable hMore => ?_⟩
  · rw [← hAll hSupplied hTaken]
    exact hCarried
  · obtain ⟨_, hFollows⟩ :=
      (follows_start hStarts hIds False).run hRun (fun _ _ h => h) False.elim
    obtain ⟨_, _, _, hTracks⟩ := hFollows.tracks rank
    rw [System.step, Option.isSome_map]
    exact hTracks.total hReadable hMore

end Pipeline

/-- Without a cache, what the first message in front of the fan begins with decides about it. -/
theorem allowed_receive {env : Fan.Environment} {parse : Parser} {w : System} {part1 : Bytes}
    {more : Bool} {first : Fan.FirstPart} (hQueue : w.fan.rxSocket.queue.head? = some (part1, more))
    (hFirst : Fan.readFirstPart env part1 = some first) (hOff : w.fan.devShmCache = false)
    (hFrame : ∀ members frame, first = .image members frame → 0 ≤ w.fan.router.frameIndex frame)
    (hDetector : Interface.FromDetector env parse w.fan.router first) :
    w.Allowed env parse (.fan .receive) := by
  intro other rest tail hSplit
  rw [hSplit, frame_cons] at hQueue
  cases hQueue
  refine ⟨⟨first, hFirst, hFrame⟩, Fan.EigerFan.caches_of_off hOff, fun same hSame => ?_⟩
  cases hFirst.symm.trans hSame
  exact hDetector

def headerMembers : List (Bytes × Value) :=
  [(headerTypeKey, .string globalHeaderType), (seriesKey, .int 1),
    (headerDetailKey, .string headerDetailNone)]

def sampleEnvironment : Fan.Environment :=
  .ofTexts [(Fan.objectText (.object headerMembers), .object headerMembers),
    (Fan.objectText (.object (Interface.numberedMembers 5)),
      .object (Interface.numberedMembers 5))]

/-- The members of a first part as the fan sends it on with the ID `a`. -/
def taggedMembers (members : List (Bytes × Value)) : Value :=
  .object (members ++ [(acquisitionIDKey, .string (bytes "a"))])

def sampleParser : Parser :=
  .ofTexts [(Fan.objectText (taggedMembers headerMembers), taggedMembers headerMembers),
    (Fan.objectText (taggedMembers (Interface.numberedMembers 5)),
      taggedMembers (Interface.numberedMembers 5)), sampleImaged, sampleTimes]

/-- A header and an image. -/
def sampleMessages : List (List Bytes) :=
  [[Fan.objectText (.object headerMembers)],
    [Fan.objectText (.object (Interface.numberedMembers 5)), sampleImaged.1, [7, 8],
      sampleTimes.1]]

def sampleFan : Fan.EigerFan :=
  { Fan.initial { Fan.defaultConfig with numConsumers := 2 } with
    consumers := [⟨1, []⟩, ⟨1, []⟩]
    configuredAcquisitionID := bytes "a"
    rxSocket := ⟨stream sampleMessages, false⟩ }

/-- The second receiver takes the header while the fan still has the image. -/
def sampleEvents : List Event :=
  [.fan .receive, .part 1, .fan .receive, .part 1, .part 1, .part 1, .part 1]

theorem sampleStarts : Starts sampleMessages sampleFan where
  ready := ⟨by decide, by decide, by decide, by decide⟩
  queue := rfl
  parts := by decide
  output := by
    intro rank
    rcases rank with _ | _ | rank <;> rfl

theorem sampleHeader_fromDetector :
    Interface.FromDetector sampleEnvironment sampleParser sampleFan.router
      (.header headerMembers 1 headerDetailNone) := by
  refine ⟨nofun, ?_⟩
  rintro _ ⟨⟩
  rfl

theorem sampleImage_fromDetector {r : Fan.Router}
    (hID : r.currentAcquisitionID = bytes "a") :
    Interface.FromDetector sampleEnvironment sampleParser r
      (.image (Interface.numberedMembers 5) 5) := by
  refine ⟨⟨by decide, by decide, nofun, rfl, rfl⟩, ?_⟩
  rintro _ ⟨⟩
  have hTag : Interface.tagOf r (.image (Interface.numberedMembers 5) 5) = bytes "a" := hID
  rw [hTag]
  rfl

/-- All of it arrives at the second receiver, which has a buffer for each part. -/
theorem sampleRun : ∃ w, Run (System.step sampleEnvironment sampleParser)
      (fun w event => w.Allowed sampleEnvironment sampleParser event ∧ w.Supplied event)
      (.initial sampleFan zeroed [0, 1]) sampleEvents w ∧
    (w.receivers 1).taken = (w.fan.output 1).length := by
  refine ⟨_, .cons ⟨allowed_receive rfl rfl rfl nofun sampleHeader_fromDetector, trivial⟩ rfl
    (.cons ⟨trivial, ?_⟩ rfl (.cons ⟨allowed_receive rfl rfl rfl ?_
      (sampleImage_fromDetector rfl), trivial⟩ rfl (.cons ⟨trivial, ?_⟩ rfl
      (.cons ⟨trivial, ?_⟩ rfl (.cons ⟨trivial, ?_⟩ rfl (.cons ⟨trivial, ?_⟩ rfl
        (.nil _))))))), ?_⟩
  · decide +kernel
  · rintro members frame ⟨⟩
    decide
  · decide +kernel
  · decide +kernel
  · decide +kernel
  · decide +kernel
  · rfl

theorem sample_handed_on :
    ∃ w, Run (System.step sampleEnvironment sampleParser)
        (System.Allowed sampleEnvironment sampleParser) (.initial sampleFan zeroed [0, 1])
        sampleEvents w ∧
      List.Forall₂ (Due.CarriedBy sampleParser)
        (dueTo sampleEnvironment sampleParser sampleFan sampleMessages sampleEvents 1)
        (w.receivers 1).handed ∧
      (dueTo sampleEnvironment sampleParser sampleFan sampleMessages sampleEvents 1).map
        (fun due => (due.index, due.entry.type)) = [(0, .globalHeaderNone), (1, .imageData)] := by
  obtain ⟨w, hRun, hTaken⟩ := sampleRun
  have hAllowed := hRun.mono fun _ _ h => h.1
  have hAll := receivers_hand_on_deliveries sampleStarts (by decide) hAllowed 1
  exact ⟨w, hAllowed, hAll.2.1 (hRun.mono fun _ _ h => h.2) hTaken, by decide +kernel⟩

end Eiger.Pipeline
