import EigerDetector.Fan.State

/-! A worker thread of the broker. It moves parts from its link to the detector to
its link to the rx thread. -/
namespace Eiger.Broker

open CharArrays

/-- Where a worker is: at the test of the outer loop, at the poll of the inner
loop, in front of the increment of the counter, or past the loops. -/
inductive Position where
  | outer
  | inner
  | counting
  | finished
  deriving DecidableEq

/-- The sockets hold the parts handed over by the detector and not received yet,
and the parts sent on and not received by the rx thread yet. -/
structure Worker where
  position : Position
  more : Int
  sourceSocket : List (Bytes × Bool)
  sinkSocket : List (Bytes × Bool)

def Worker.initial : Worker := ⟨.outer, 0, [], []⟩

inductive WorkerEvent where
  | enter
  | timeout
  | forward
  | count

/-- One step of `worker_loop`, and by how much it raises the message counter. -/
def Worker.step (shutdownRequested : Bool) (w : Worker) : WorkerEvent → Option (Worker × Nat)
  | .enter =>
      if w.position = .outer then
        if shutdownRequested then some ({ w with position := .finished }, 0)
        else some ({ w with position := .inner, more := 0 }, 0)
      else none
  | .timeout => if w.position = .inner then some ({ w with position := .outer }, 0) else none
  | .forward =>
      match w.position, w.sourceSocket with
      | .inner, (message, flag) :: source =>
          let more := if flag then 1 else 0
          -- the message goes on with `ZMQ_SNDMORE`, or it was the last part
          some ({ w with
            position := if more = 1 then .inner else .counting
            more := more
            sourceSocket := source
            sinkSocket := w.sinkSocket ++ [(message, decide (more = 1))] }, 0)
      | _, _ => none
  | .count => if w.position = .counting then some ({ w with position := .outer }, 1) else none

/-- A worker neither loses nor changes a part, whatever it does. -/
theorem Worker.step_parts {shutdownRequested : Bool} {w w' : Worker} {event : WorkerEvent}
    {counted : Nat} (h : w.step shutdownRequested event = some (w', counted)) :
    w'.sinkSocket ++ w'.sourceSocket = w.sinkSocket ++ w.sourceSocket := by
  cases event with
  | enter =>
      rw [Worker.step] at h
      split at h
      · split at h <;> cases h <;> rfl
      · cases h
  | timeout =>
      rw [Worker.step] at h
      split at h
      · cases h
        rfl
      · cases h
  | forward =>
      rw [Worker.step] at h
      split at h
      · next message flag source _ hSource =>
          cases h
          rw [hSource]
          cases flag <;> simp
      · cases h
  | count =>
      rw [Worker.step] at h
      split at h
      · cases h
        rfl
      · cases h

/-- In the inner loop the next part goes on with the flag it came with. -/
theorem Worker.step_forward (shutdownRequested : Bool) {w : Worker} {message : Bytes} {flag : Bool}
    {source : List (Bytes × Bool)} (hPosition : w.position = .inner)
    (hSource : w.sourceSocket = (message, flag) :: source) :
    w.step shutdownRequested .forward = some (⟨if flag then .inner else .counting,
      if flag then 1 else 0, source, w.sinkSocket ++ [(message, flag)]⟩, 0) := by
  rw [step, hPosition, hSource]
  cases flag <;> rfl

end Eiger.Broker
