import EigerDetector.Broker.Worker
import EigerDetector.Library.Multipart
import EigerDetector.Library.Transition
import Mathlib.Algebra.BigOperators.Group.Finset.Piecewise
import Mathlib.Algebra.Order.Group.Multiset

/-! The worker loop statement by statement, and what all workers together bring to
the rx thread. -/
namespace Eiger.Broker

open CharArrays Multipart Transition

/-- The statement of `worker_loop` a thread stands in front of. -/
inductive Point where
  | loopTest
  | poll
  | recv
  | getsockopt
  | send
  | increment
  | finished
  deriving DecidableEq

/-- The variables of `worker_loop`. The source socket remembers whether more parts
follow the part it has returned last. -/
structure WorkerThread where
  point : Point
  message : Bytes
  more : Int
  rcvmore : Bool
  sourceSocket : List (Bytes × Bool)
  sinkSocket : List (Bytes × Bool)

def WorkerThread.initial : WorkerThread := ⟨.loopTest, [], 0, false, [], []⟩

inductive LoopEvent where
  | proceed
  | timeout

/-- The next statement, and by how much it raises the message counter. A poll may
time out at any moment, and succeeds only if a part is there. -/
def WorkerThread.step (shutdownRequested : Bool) (t : WorkerThread) :
    LoopEvent → Option (WorkerThread × Nat)
  | .timeout =>
      -- `break`, whether or not the rest of a message is missing
      if t.point = .poll then some ({ t with point := .loopTest }, 0) else none
  | .proceed =>
      match t.point with
      | .loopTest =>
          if shutdownRequested then some ({ t with point := .finished }, 0)
          else some ({ t with point := .poll, message := [], more := 0 }, 0)
      | .poll => if t.sourceSocket = [] then none else some ({ t with point := .recv }, 0)
      | .recv =>
          match t.sourceSocket with
          | [] => none
          | (message, flag) :: source => some ({ t with
              point := .getsockopt
              message := message
              rcvmore := flag
              sourceSocket := source }, 0)
      | .getsockopt =>
          some ({ t with point := .send, more := if t.rcvmore then 1 else 0 }, 0)
      | .send =>
          if t.more = 1 then
            some ({ t with
              point := .poll
              sinkSocket := t.sinkSocket ++ [(t.message, true)] }, 0)
          else
            some ({ t with
              point := .increment
              sinkSocket := t.sinkSocket ++ [(t.message, false)] }, 0)
      | .increment => some ({ t with point := .loopTest }, 1)
      | .finished => none

/-- The iteration boundaries of both loops, and the exit. -/
def WorkerThread.AtBoundary (t : WorkerThread) : Prop :=
  t.point = .loopTest ∨ t.point = .poll ∨ t.point = .finished

/-- The part a thread has taken from its source and not sent on yet. -/
def WorkerThread.inHand (t : WorkerThread) : List (Bytes × Bool) :=
  match t.point with
  | .getsockopt => [(t.message, t.rcvmore)]
  | .send => [(t.message, decide (t.more = 1))]
  | _ => []

/-- The message it has sent completely and not counted yet. -/
def WorkerThread.uncounted (t : WorkerThread) : Nat := if t.point = .increment then 1 else 0

theorem WorkerThread.AtBoundary.idle {t : WorkerThread} (h : t.AtBoundary) :
    t.inHand = [] ∧ t.uncounted = 0 := by
  unfold inHand uncounted
  rcases h with hPoint | hPoint | hPoint <;> rw [hPoint] <;> exact ⟨rfl, rfl⟩

/-- A statement receives a part, sends the part in hand, counts a message, or moves
no part at all. -/
theorem WorkerThread.step_parts {shutdownRequested : Bool} {t t' : WorkerThread}
    {event : LoopEvent} {counted : Nat} (h : t.step shutdownRequested event = some (t', counted)) :
    ∃ received sent, t.sourceSocket = received ++ t'.sourceSocket ∧
      t'.sinkSocket = t.sinkSocket ++ sent ∧ sent ++ t'.inHand = t.inHand ++ received ∧
      counted + t'.uncounted = t.uncounted + sent.countP fun item => !item.2 := by
  cases event with
  | timeout =>
      rw [step] at h
      split at h
      · next hPoint =>
          cases h
          exact ⟨[], [], rfl, (List.append_nil _).symm, by simp [inHand, hPoint],
            by simp [uncounted, hPoint]⟩
      · cases h
  | proceed =>
      rw [step] at h
      split at h
      case h_1 hPoint =>
          split at h <;> cases h <;>
            exact ⟨[], [], rfl, (List.append_nil _).symm, by simp [inHand, hPoint],
              by simp [uncounted, hPoint]⟩
      case h_2 hPoint =>
          split at h
          · cases h
          · cases h
            exact ⟨[], [], rfl, (List.append_nil _).symm, by simp [inHand, hPoint],
              by simp [uncounted, hPoint]⟩
      case h_3 hPoint =>
          split at h
          · cases h
          · next message flag source hSource =>
              cases h
              exact ⟨[(message, flag)], [], hSource, (List.append_nil _).symm,
                by simp [inHand, hPoint], by simp [uncounted, hPoint]⟩
      case h_4 hPoint =>
          cases h
          refine ⟨[], [], rfl, (List.append_nil _).symm, ?_, by simp [uncounted, hPoint]⟩
          cases hFlag : t.rcvmore <;> simp [inHand, hPoint, hFlag]
      case h_5 hPoint =>
          split at h
          · next hMore =>
              cases h
              exact ⟨[], [(t.message, true)], rfl, rfl, by simp [inHand, hPoint, hMore],
                by simp [uncounted, hPoint]⟩
          · next hMore =>
              cases h
              exact ⟨[], [(t.message, false)], rfl, rfl, by simp [inHand, hPoint, hMore],
                by simp [uncounted, hPoint]⟩
      case h_6 hPoint =>
          cases h
          exact ⟨[], [], rfl, (List.append_nil _).symm, by simp [inHand, hPoint],
            by simp [uncounted, hPoint]⟩
      case h_7 => cases h

/-- A thread as the coarser loop sees it: the part in hand is still at the source. -/
structure WorkerThread.Refines (t : WorkerThread) (w : Worker) : Prop where
  position : w.position = match t.point with
    | .loopTest => .outer
    | .poll | .recv | .getsockopt | .send => .inner
    | .increment => .counting
    | .finished => .finished
  sourceSocket : w.sourceSocket = t.inHand ++ t.sourceSocket
  sinkSocket : w.sinkSocket = t.sinkSocket

/-- Each statement is a step of the coarser loop, or none that it sees. -/
theorem WorkerThread.step_refines {shutdownRequested : Bool} {t t' : WorkerThread} {w : Worker}
    {event : LoopEvent} {counted : Nat} (h : t.step shutdownRequested event = some (t', counted))
    (hRel : t.Refines w) :
    (t'.Refines w ∧ counted = 0) ∨
      ∃ coarse w', w.step shutdownRequested coarse = some (w', counted) ∧ t'.Refines w' := by
  obtain ⟨hPosition, hSource, hSink⟩ := hRel
  cases event with
  | timeout =>
      rw [step] at h
      split at h
      · next hPoint =>
          cases h
          rw [hPoint] at hPosition
          refine .inr ⟨.timeout, _, if_pos hPosition, rfl, ?_, hSink⟩
          rw [hSource]
          simp [inHand, hPoint]
      · cases h
  | proceed =>
      rw [step] at h
      split at h
      case h_1 hPoint =>
          rw [hPoint] at hPosition
          simp only [inHand, hPoint, List.nil_append] at hSource
          split at h
          · next hShutdown =>
              cases h
              refine .inr ⟨.enter, { w with position := .finished }, ?_, rfl, hSource, hSink⟩
              rw [Worker.step, if_pos hPosition, if_pos hShutdown]
          · next hShutdown =>
              cases h
              refine .inr ⟨.enter, { w with position := .inner, more := 0 }, ?_, rfl, hSource,
                hSink⟩
              rw [Worker.step, if_pos hPosition, if_neg hShutdown]
      case h_2 hPoint =>
          rw [hPoint] at hPosition
          simp only [inHand, hPoint, List.nil_append] at hSource
          split at h
          · cases h
          · cases h
            exact .inl ⟨⟨hPosition, hSource, hSink⟩, rfl⟩
      case h_3 hPoint =>
          rw [hPoint] at hPosition
          simp only [inHand, hPoint, List.nil_append] at hSource
          split at h
          · cases h
          · next message flag source hParts =>
              cases h
              exact .inl ⟨⟨hPosition, hSource.trans hParts, hSink⟩, rfl⟩
      case h_4 hPoint =>
          rw [hPoint] at hPosition
          cases h
          refine .inl ⟨⟨hPosition, ?_, hSink⟩, rfl⟩
          rw [hSource]
          cases hFlag : t.rcvmore <;> simp [inHand, hPoint, hFlag]
      case h_5 hPoint =>
          rw [hPoint] at hPosition
          have hNext : w.sourceSocket = (t.message, decide (t.more = 1)) :: t.sourceSocket := by
            rw [hSource]
            simp [inHand, hPoint]
          have hForward := Worker.step_forward shutdownRequested hPosition hNext
          split at h
          · next hMore =>
              cases h
              refine .inr ⟨.forward, _, hForward, ?_, rfl, ?_⟩
              · simp [hMore]
              · simp [hMore, hSink]
          · next hMore =>
              cases h
              refine .inr ⟨.forward, _, hForward, ?_, rfl, ?_⟩
              · simp [hMore]
              · simp [hMore, hSink]
      case h_6 hPoint =>
          rw [hPoint] at hPosition
          cases h
          refine .inr ⟨.count, { w with position := .outer }, if_pos hPosition, rfl, ?_, hSink⟩
          rw [hSource]
          simp [inHand, hPoint]
      case h_7 => cases h

/-- All workers and the counter they share. Recorded beside them is what each has
received and sent, how often it has raised the counter, and what the rx thread has
taken from whom. -/
structure MultiPullBroker where
  threads : Nat → WorkerThread
  shutdownRequested : Bool
  messagesReceived : Nat
  received : Nat → List (Bytes × Bool)
  sent : Nat → List (Bytes × Bool)
  increments : Nat → Nat
  taken : List (Nat × List Bytes)

inductive BrokerEvent where
  | arrive (worker : Nat) (item : Bytes × Bool)
  | thread (worker : Nat) (event : LoopEvent)
  | take (worker : Nat)
  | startMessageCounter
  | shutdown

namespace MultiPullBroker

def initial : MultiPullBroker where
  threads _ := .initial
  shutdownRequested := false
  messagesReceived := 0
  received _ := []
  sent _ := []
  increments _ := 0
  taken := []

/-- Thread `i` has moved on: what has left its source it has received, and what has
come to its sink it has sent. -/
def observe (b : MultiPullBroker) (i : Nat) (t : WorkerThread) (counted : Nat) :
    MultiPullBroker :=
  let source := (b.threads i).sourceSocket
  let sink := (b.threads i).sinkSocket
  let received := source.take (source.length - t.sourceSocket.length)
  let sent := t.sinkSocket.drop sink.length
  { b with
    threads := Function.update b.threads i t
    messagesReceived := b.messagesReceived + counted
    received := Function.update b.received i (b.received i ++ received)
    sent := Function.update b.sent i (b.sent i ++ sent)
    increments := Function.update b.increments i (b.increments i + counted) }

/-- The rx thread receives a multipart message only when all of its parts are there. -/
def step (threadCount : Nat) (b : MultiPullBroker) : BrokerEvent → Option MultiPullBroker
  | .arrive i item =>
      let t := { b.threads i with sourceSocket := (b.threads i).sourceSocket ++ [item] }
      if i < threadCount then some { b with threads := Function.update b.threads i t } else none
  | .thread i event =>
      if i < threadCount then
        ((b.threads i).step b.shutdownRequested event).map fun (t, counted) =>
          b.observe i t counted
      else none
  | .take i =>
      if i < threadCount then
        (takeMessage (b.threads i).sinkSocket).map fun (message, sink) => { b with
          threads := Function.update b.threads i { b.threads i with sinkSocket := sink }
          taken := b.taken ++ [(i, message)] }
      else none
  | .startMessageCounter => some { b with messagesReceived := 1 }
  | .shutdown => some { b with shutdownRequested := true }

/-- What the rx thread has taken from one worker, in the order in which it did. -/
def takenFrom (b : MultiPullBroker) (i : Nat) : List (List Bytes) :=
  (b.taken.filter fun entry => entry.1 = i).map Prod.snd

/-- Every part received is sent on or in hand, every message sent is counted or about
to be, and what is sent is taken or still at the sink. -/
structure Framed (b : MultiPullBroker) (i : Nat) : Prop where
  forwarded : b.received i = b.sent i ++ (b.threads i).inHand
  counted : ((b.sent i).countP fun item => !item.2) =
    b.increments i + (b.threads i).uncounted
  delivered : b.sent i = stream (b.takenFrom i) ++ (b.threads i).sinkSocket
  nonempty : ∀ m ∈ b.takenFrom i, m ≠ []

theorem observe_parts {b : MultiPullBroker} {i : Nat} {t : WorkerThread} (counted : Nat)
    {received sent : List (Bytes × Bool)}
    (hSource : (b.threads i).sourceSocket = received ++ t.sourceSocket)
    (hSink : t.sinkSocket = (b.threads i).sinkSocket ++ sent) :
    (b.observe i t counted).received i = b.received i ++ received ∧
      (b.observe i t counted).sent i = b.sent i ++ sent := by
  unfold observe
  simp only [Function.update_self, hSource, hSink, List.length_append, Nat.add_sub_cancel_right,
    List.take_left, List.drop_left, and_self]

theorem Framed.observe {b : MultiPullBroker} {i : Nat} {t : WorkerThread} {counted : Nat}
    {event : LoopEvent} (h : b.Framed i)
    (hStep : (b.threads i).step b.shutdownRequested event = some (t, counted)) :
    (b.observe i t counted).Framed i := by
  obtain ⟨received, sent, hSource, hSink, hHand, hCounted⟩ := WorkerThread.step_parts hStep
  obtain ⟨hReceived, hSent⟩ := observe_parts counted hSource hSink
  have hThread : (b.observe i t counted).threads i = t := Function.update_self ..
  have hIncrements : (b.observe i t counted).increments i = b.increments i + counted :=
    Function.update_self ..
  refine ⟨?_, ?_, ?_, h.nonempty⟩
  · rw [hReceived, hSent, hThread, h.forwarded, List.append_assoc, ← hHand, List.append_assoc]
  · rw [hSent, hThread, hIncrements, List.countP_append, h.counted]
    omega
  · have hTaken : (b.observe i t counted).takenFrom i = b.takenFrom i := rfl
    rw [hSent, hThread, hTaken, hSink, h.delivered, List.append_assoc]

/-- What happens elsewhere, or is only queued for a thread, leaves it framed. -/
theorem Framed.frame {b b' : MultiPullBroker} {i : Nat} {source : List (Bytes × Bool)}
    (h : b.Framed i) (hThread : b'.threads i = { b.threads i with sourceSocket := source })
    (hReceived : b'.received i = b.received i) (hSent : b'.sent i = b.sent i)
    (hIncrements : b'.increments i = b.increments i)
    (hTaken : b'.takenFrom i = b.takenFrom i) : b'.Framed i := by
  obtain ⟨hForwarded, hCounted, hDelivered, hNonempty⟩ := h
  refine ⟨?_, ?_, ?_, ?_⟩
  · rw [hReceived, hSent, hThread, hForwarded]
    rfl
  · rw [hSent, hIncrements, hThread, hCounted]
    rfl
  · rw [hSent, hTaken, hThread, hDelivered]
  · rw [hTaken]
    exact hNonempty

theorem takenFrom_of_concat {b b' : MultiPullBroker} {i j : Nat} {message : List Bytes}
    (h : b'.taken = b.taken ++ [(j, message)]) :
    b'.takenFrom i = b.takenFrom i ++ if j = i then [message] else [] := by
  unfold takenFrom
  rw [h, List.filter_append, List.map_append]
  by_cases hSame : j = i <;> simp [hSame]

/-- A message taken leaves the sink for the rx thread. -/
theorem Framed.take {b b' : MultiPullBroker} {i : Nat} {message : List Bytes}
    {sink : List (Bytes × Bool)} (h : b.Framed i)
    (hTake : takeMessage (b.threads i).sinkSocket = some (message, sink))
    (hThread : b'.threads i = { b.threads i with sinkSocket := sink })
    (hReceived : b'.received i = b.received i) (hSent : b'.sent i = b.sent i)
    (hIncrements : b'.increments i = b.increments i)
    (hTaken : b'.taken = b.taken ++ [(i, message)]) : b'.Framed i := by
  obtain ⟨hMessage, hSink⟩ := takeMessage_some hTake
  have hFrom : b'.takenFrom i = b.takenFrom i ++ [message] := by
    rw [takenFrom_of_concat hTaken, if_pos rfl]
  refine ⟨?_, ?_, ?_, ?_⟩
  · rw [hReceived, hSent, hThread, h.forwarded]
    rfl
  · rw [hSent, hIncrements, hThread, h.counted]
    rfl
  · rw [hSent, hFrom, hThread, h.delivered, hSink, stream_concat, List.append_assoc]
  · intro m hMember
    rw [hFrom] at hMember
    rcases List.mem_append.mp hMember with hOld | hNew
    · exact h.nonempty m hOld
    · rw [List.mem_singleton.mp hNew]
      exact hMessage

theorem step_framed {threadCount i : Nat} {b b' : MultiPullBroker} {event : BrokerEvent}
    (h : b.Framed i) (hStep : b.step threadCount event = some b') : b'.Framed i := by
  cases event with
  | arrive j item =>
      rw [step] at hStep
      split at hStep
      · cases hStep
        by_cases hSame : i = j
        · subst hSame
          exact h.frame (Function.update_self ..) rfl rfl rfl rfl
        · exact h.frame (Function.update_of_ne hSame ..) rfl rfl rfl rfl
      · cases hStep
  | thread j event =>
      rw [step] at hStep
      split at hStep
      · obtain ⟨⟨t, counted⟩, hThread, rfl⟩ := Option.map_eq_some_iff.mp hStep
        by_cases hSame : i = j
        · subst hSame
          exact h.observe hThread
        · exact h.frame (Function.update_of_ne hSame ..) (Function.update_of_ne hSame ..)
            (Function.update_of_ne hSame ..) (Function.update_of_ne hSame ..) rfl
      · cases hStep
  | take j =>
      rw [step] at hStep
      split at hStep
      · obtain ⟨⟨message, sink⟩, hTake, rfl⟩ := Option.map_eq_some_iff.mp hStep
        by_cases hSame : i = j
        · subst hSame
          exact h.take hTake (Function.update_self ..) rfl rfl rfl rfl
        · refine h.frame (Function.update_of_ne hSame ..) rfl rfl rfl ?_
          rw [takenFrom_of_concat rfl, if_neg (Ne.symm hSame), List.append_nil]
      · cases hStep
  | startMessageCounter =>
      cases hStep
      exact h.frame rfl rfl rfl rfl rfl
  | shutdown =>
      cases hStep
      exact h.frame rfl rfl rfl rfl rfl

theorem initial_framed (i : Nat) : initial.Framed i :=
  ⟨rfl, rfl, rfl, nofun⟩

/-- The rx thread takes messages from the workers only. -/
def FromWorkers (threadCount : Nat) (b : MultiPullBroker) : Prop :=
  ∀ entry ∈ b.taken, entry.1 < threadCount

theorem step_fromWorkers {threadCount : Nat} {b b' : MultiPullBroker} {event : BrokerEvent}
    (h : b.FromWorkers threadCount) (hStep : b.step threadCount event = some b') :
    b'.FromWorkers threadCount := by
  cases event with
  | arrive j item =>
      rw [step] at hStep
      split at hStep
      · cases hStep
        exact h
      · cases hStep
  | thread j event =>
      rw [step] at hStep
      split at hStep
      · obtain ⟨_, _, rfl⟩ := Option.map_eq_some_iff.mp hStep
        exact h
      · cases hStep
  | take j =>
      rw [step] at hStep
      split at hStep
      · next hWorker =>
          obtain ⟨_, _, rfl⟩ := Option.map_eq_some_iff.mp hStep
          intro entry hMember
          rcases List.mem_append.mp hMember with hOld | hNew
          · exact h entry hOld
          · rw [List.mem_singleton.mp hNew]
            exact hWorker
      · cases hStep
  | startMessageCounter =>
      cases hStep
      exact h
  | shutdown =>
      cases hStep
      exact h

/-- What the rx thread has taken is what it has taken from each worker. -/
theorem sum_takenFrom {threadCount : Nat} {taken : List (Nat × List Bytes)}
    (h : ∀ entry ∈ taken, entry.1 < threadCount) :
    ∑ i ∈ Finset.range threadCount,
        (((taken.filter fun entry => entry.1 = i).map Prod.snd : List (List Bytes)) :
          Multiset (List Bytes)) =
      ((taken.map Prod.snd : List (List Bytes)) : Multiset (List Bytes)) := by
  induction taken with
  | nil => simp
  | cons entry taken ih =>
      have hRest := ih fun e hMember => h e (List.mem_cons_of_mem _ hMember)
      have hSplit : ∀ i, ((((entry :: taken).filter fun e => e.1 = i).map Prod.snd :
          List (List Bytes)) : Multiset (List Bytes)) =
          (if entry.1 = i then {entry.2} else 0) +
            ((taken.filter fun e => e.1 = i).map Prod.snd : List (List Bytes)) := by
        intro i
        by_cases hSame : entry.1 = i <;> simp [hSame]
      have hMine : entry.1 ∈ Finset.range threadCount :=
        Finset.mem_range.mpr (h entry List.mem_cons_self)
      rw [Finset.sum_congr rfl fun i _ => hSplit i, Finset.sum_add_distrib, hRest,
        Finset.sum_ite_eq, if_pos hMine]
      rfl

end MultiPullBroker

open MultiPullBroker

/-- Whatever arrives, whenever a poll times out and whenever shutdown is requested:
each worker has sent at the boundaries of its loops the parts it has received, with
their flags, and has counted its messages. The rx thread has taken from each worker
what it sent first, and all that was sent is taken or queued. -/
theorem workers_preserve_framing {threadCount : Nat} {events : List BrokerEvent}
    {b : MultiPullBroker}
    (hRun : Run (MultiPullBroker.step threadCount) always .initial events b) :
    (∀ i < threadCount, (b.threads i).AtBoundary →
      b.sent i = b.received i ∧ b.increments i = (b.sent i).countP fun item => !item.2) ∧
    (∀ i < threadCount,
      completed (b.sent i) = b.takenFrom i ++ completed (b.threads i).sinkSocket) ∧
    (b.taken.map Prod.snd : Multiset (List Bytes)) +
        ∑ i ∈ Finset.range threadCount, (completed (b.threads i).sinkSocket : Multiset _) =
      ∑ i ∈ Finset.range threadCount, (completed (b.sent i) : Multiset _) := by
  have hFramed : ∀ i, b.Framed i := fun i =>
    hRun.invariant (initial_framed i) fun _ _ _ h _ hStep => step_framed h hStep
  have hWorkers : b.FromWorkers threadCount :=
    hRun.invariant nofun fun _ _ _ h _ hStep => step_fromWorkers h hStep
  have hDelivered : ∀ i, completed (b.sent i) =
      b.takenFrom i ++ completed (b.threads i).sinkSocket := by
    intro i
    rw [(hFramed i).delivered, completed_stream_append (hFramed i).nonempty]
  refine ⟨?_, fun i _ => hDelivered i, ?_⟩
  · intro i _ hBoundary
    obtain ⟨hHand, hUncounted⟩ := hBoundary.idle
    have hForwarded := (hFramed i).forwarded
    have hCounted := (hFramed i).counted
    rw [hHand, List.append_nil] at hForwarded
    rw [hUncounted, Nat.add_zero] at hCounted
    exact ⟨hForwarded.symm, hCounted.symm⟩
  · rw [← sum_takenFrom hWorkers, ← Finset.sum_add_distrib]
    refine Finset.sum_congr rfl fun i _ => ?_
    rw [hDelivered i, ← Multiset.coe_add]
    rfl

/-- The second part of a message comes after a timeout, and shutdown after that. -/
def interruptedMessage : List BrokerEvent :=
  .arrive 0 ([1], true) :: List.replicate 5 (.thread 0 .proceed) ++
    [.thread 0 .timeout, .arrive 0 ([2], false)] ++ List.replicate 6 (.thread 0 .proceed) ++
    [.shutdown, .thread 0 .proceed, .take 0]

theorem workers_preserve_framing_interrupted : ∃ b : MultiPullBroker,
    b.sent 0 = [([1], true), ([2], false)] ∧ (b.threads 0).point = .finished ∧
    (b.sent 0 = b.received 0 ∧ b.increments 0 = 1) ∧
    completed (b.sent 0) = b.takenFrom 0 ++ completed (b.threads 0).sinkSocket := by
  have hExec : (exec (MultiPullBroker.step 2) .initial interruptedMessage).map
      (fun b => (b.sent 0, (b.threads 0).point)) =
      some ([([1], true), ([2], false)], .finished) := by
    decide +kernel
  obtain ⟨b, hRun, hEnd⟩ := Option.map_eq_some_iff.mp hExec
  obtain ⟨hSent, hPoint⟩ := Prod.mk.inj hEnd
  obtain ⟨hForwarded, hDelivered, _⟩ := workers_preserve_framing (run_always_iff.mpr hRun)
  obtain ⟨hReceived, hCounted⟩ := hForwarded 0 (by omega) (.inr (.inr hPoint))
  rw [hSent] at hCounted
  exact ⟨b, hSent, hPoint, ⟨hReceived, hCounted⟩, hDelivered 0 (by omega)⟩

end Eiger.Broker
