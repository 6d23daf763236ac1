import EigerDetector.Control.Acquisition

/-! Requests to the threads of the control server: a call sets an event, and the thread which
waits for it clears it at some time of its own. -/
namespace Eiger.Requests

open Transition

/-- The statement that a thread stands in front of. -/
inductive Point where
  | wait
  | start
  | complete
  | resetFlag
  | clearEvent
  | readConfig
  | finished
  deriving DecidableEq

/-- What `do_initialize` and `do_hv_reset` share with the calls: a flag and an event. `calls`
have set the flag and not yet the event. Recorded is whether there is a request that no work
was started after, and one that only the work in progress was started after. -/
structure Worker where
  flag : Bool
  event : Bool
  executing : Bool
  calls : Nat
  point : Point
  waiting : Bool
  running : Bool
  deriving DecidableEq

inductive WorkerEvent where
  | setFlag
  | setEvent
  | thread
  | raise
  | shutdown
  deriving DecidableEq

namespace Worker

def initial : Worker where
  flag := false
  event := false
  executing := true
  calls := 0
  point := .wait
  waiting := false
  running := false

/-- The next statement of the thread. Waiting ends at once if the event is set, and with a
timeout if it is not. -/
def threadStep (readsConfig : Bool) (w : Worker) : Option Worker :=
  match w.point with
  | .wait =>
      if w.executing then if w.event then some { w with point := .start } else some w
      else some { w with point := .finished }
  | .start => some { w with point := .complete, waiting := false, running := w.waiting }
  | .complete => some { w with point := .resetFlag, running := false }
  | .resetFlag => some { w with point := .clearEvent, flag := false }
  | .clearEvent =>
      some { w with point := if readsConfig then .readConfig else .wait, event := false }
  | .readConfig => some { w with point := .wait }
  | .finished => none

/-- Where the thread talks to the detector, it may end with an exception. -/
def raiseStep (w : Worker) : Option Worker :=
  if w.point = .complete ∨ w.point = .readConfig then some { w with point := .finished } else none

/-- Any number of calls may be in progress. -/
def step (readsConfig : Bool) (w : Worker) : WorkerEvent → Option Worker
  | .setFlag => some { w with flag := true, calls := w.calls + 1 }
  | .setEvent =>
      if w.calls = 0 then none
      else some { w with event := true, calls := w.calls - 1, waiting := true }
  | .thread => w.threadStep readsConfig
  | .raise => w.raiseStep
  | .shutdown => some { w with executing := false }

/-- The promise: a request is in the event until work is started after it, and in the flag
until that work is complete. -/
structure Kept (w : Worker) : Prop where
  event : w.waiting = true → w.event = true
  flag : w.waiting = true ∨ w.running = true → w.flag = true

/-- A call sets the event while the flag it has set is still set. The thread clears flag and
event while no request waits. -/
def Untimely (w : Worker) : WorkerEvent → Prop
  | .setEvent => w.flag = false
  | .thread => w.waiting = true ∧ (w.point = .resetFlag ∨ w.point = .clearEvent)
  | _ => False

instance (w : Worker) (event : WorkerEvent) : Decidable (w.Untimely event) :=
  match event with
  | .setFlag => inferInstanceAs (Decidable False)
  | .setEvent => inferInstanceAs (Decidable (_ = _))
  | .thread => inferInstanceAs (Decidable (_ ∧ _))
  | .raise => inferInstanceAs (Decidable False)
  | .shutdown => inferInstanceAs (Decidable False)

/-- Work is in progress, or has failed, only past its start and before its end. -/
structure Requested (w : Worker) : Prop extends Kept w where
  idle : w.running = true → w.point = .complete ∨ w.point = .finished

variable {readsConfig : Bool} {w w' : Worker} {event : WorkerEvent}

theorem Requested.initial : Requested initial where
  event := by simp [Worker.initial]
  flag := by simp [Worker.initial]
  idle := by simp [Worker.initial]

theorem Requested.thread (h : w.Requested) (hTimely : ¬ w.Untimely .thread)
    (hStep : w.threadStep readsConfig = some w') : w'.Requested := by
  have hEvent := h.event
  have hFlag := h.flag
  have hIdle := h.idle
  cases hPoint : w.point with
  | wait =>
      simp only [threadStep, hPoint] at hStep
      split_ifs at hStep <;> cases hStep <;> constructor <;> simp_all [Kept.mk]
  | start | complete | readConfig =>
      simp only [threadStep, hPoint] at hStep
      cases hStep
      constructor <;> simp_all [Kept.mk]
  | resetFlag | clearEvent =>
      simp only [threadStep, hPoint] at hStep
      cases hStep
      constructor <;> simp_all [Kept.mk, Untimely]
  | finished =>
      simp only [threadStep, hPoint] at hStep
      cases hStep

theorem Requested.step (h : w.Requested) (hTimely : ¬ w.Untimely event)
    (hStep : w.step readsConfig event = some w') : w'.Requested := by
  have hFlag := h.flag
  have hIdle := h.idle
  cases event with
  | setFlag =>
      cases hStep
      exact ⟨⟨h.event, fun _ => rfl⟩, h.idle⟩
  | setEvent =>
      rw [Worker.step] at hStep
      split at hStep
      · cases hStep
      · cases hStep
        exact ⟨⟨fun _ => rfl, fun _ => by simpa [Untimely] using hTimely⟩, h.idle⟩
  | thread => exact h.thread hTimely hStep
  | raise =>
      rw [Worker.step, raiseStep] at hStep
      split at hStep
      · cases hStep
        exact ⟨⟨h.event, h.flag⟩, fun _ => .inr rfl⟩
      · cases hStep
  | shutdown =>
      cases hStep
      exact ⟨⟨h.event, h.flag⟩, h.idle⟩

/-- An untimely step leaves a request without its event or without its flag. -/
theorem not_kept_of_untimely (hUntimely : w.Untimely event)
    (hStep : w.step readsConfig event = some w') : ¬ w'.Kept := by
  intro hKept
  cases event with
  | setFlag | raise | shutdown => exact hUntimely
  | setEvent =>
      rw [Worker.step] at hStep
      split at hStep
      · cases hStep
      · cases hStep
        have hFlag := hKept.flag (.inl rfl)
        rw [Untimely] at hUntimely
        simp [hUntimely] at hFlag
  | thread =>
      obtain ⟨hWaiting, hPoint | hPoint⟩ := hUntimely
      · rw [Worker.step, threadStep, hPoint] at hStep
        cases hStep
        have hFlag := hKept.flag (.inl hWaiting)
        cases hFlag
      · rw [Worker.step, threadStep, hPoint] at hStep
        cases hStep
        have hEvent := hKept.event hWaiting
        cases hEvent

end Worker

/-- `initialize_detector` beside `do_initialize`, which reads the configuration last. -/
def initializeDetector : Worker → WorkerEvent → Option Worker := Worker.step true

/-- `hv_reset_detector` beside `do_hv_reset`. -/
def hvResetDetector : Worker → WorkerEvent → Option Worker := Worker.step false

/-- The requests to all three threads. Recorded is whether a trigger was called for in manual
mode, while the loop had one to send, that none was started after. -/
structure EigerDetector where
  initializing : Worker
  hvResetting : Worker
  acquisition : Acquisition.EigerDetector
  triggerWaiting : Bool
  deriving DecidableEq

inductive Event where
  | initializing (event : WorkerEvent)
  | hvResetting (event : WorkerEvent)
  | acquisition (settings : Acquisition.Settings) (event : Acquisition.Event)

namespace EigerDetector

def initial : EigerDetector := ⟨.initial, .initial, .initial, false⟩

/-- The thread is in its loop, which has triggers to send and was not stopped. -/
def Looping (settings : Acquisition.Settings) (d : Acquisition.EigerDetector) : Prop :=
  d.point ∈ [.test, .awaitTrigger, .trigger, .sleep, .increment, .clearAgain] ∧
    d.acquisitionComplete = false ∧ d.sent < settings.ntrigger

instance (settings : Acquisition.Settings) (d : Acquisition.EigerDetector) :
    Decidable (Looping settings d) :=
  inferInstanceAs (Decidable (_ ∧ _ ∧ _))

/-- Whether a trigger is waited for after a step. -/
def triggerWaitingAfter (s : EigerDetector) (settings : Acquisition.Settings) :
    Acquisition.Event → Bool
  | .sendTrigger =>
      if settings.manualTrigger = true ∧ Looping settings s.acquisition then true
      else s.triggerWaiting
  | .thread => if s.acquisition.point = .trigger then false else s.triggerWaiting
  | _ => s.triggerWaiting

/-- The settings may be others at each step. -/
def step (s : EigerDetector) : Event → Option EigerDetector
  | .initializing event =>
      (initializeDetector s.initializing event).map fun w => { s with initializing := w }
  | .hvResetting event =>
      (hvResetDetector s.hvResetting event).map fun w => { s with hvResetting := w }
  | .acquisition settings event =>
      (s.acquisition.step settings event).map fun d =>
        { s with acquisition := d, triggerWaiting := s.triggerWaitingAfter settings event }

/-- The promise: no request is lost. -/
structure Kept (s : EigerDetector) : Prop where
  initializing : s.initializing.Kept
  hvResetting : s.hvResetting.Kept
  trigger : s.triggerWaiting = true → s.acquisition.triggerEvent = true

/-- The acquisition thread clears the event of the triggers while none is waited for. -/
def Untimely (s : EigerDetector) : Event → Prop
  | .initializing event => s.initializing.Untimely event
  | .hvResetting event => s.hvResetting.Untimely event
  | .acquisition _ event => event = .thread ∧ s.triggerWaiting = true ∧
      (s.acquisition.point = .clearTriggerEvent ∨ s.acquisition.point = .clearAgain)

instance (s : EigerDetector) (event : Event) : Decidable (s.Untimely event) :=
  match event with
  | .initializing _ => inferInstanceAs (Decidable (Worker.Untimely _ _))
  | .hvResetting _ => inferInstanceAs (Decidable (Worker.Untimely _ _))
  | .acquisition _ _ => inferInstanceAs (Decidable (_ ∧ _ ∧ _))

def Timely (s : EigerDetector) (event : Event) : Prop := ¬ s.Untimely event

instance (s : EigerDetector) (event : Event) : Decidable (s.Timely event) :=
  inferInstanceAs (Decidable (¬ _))

structure Requested (s : EigerDetector) : Prop where
  initializing : s.initializing.Requested
  hvResetting : s.hvResetting.Requested
  trigger : s.triggerWaiting = true → s.acquisition.triggerEvent = true

theorem Requested.kept {s : EigerDetector} (h : s.Requested) : s.Kept :=
  ⟨h.initializing.toKept, h.hvResetting.toKept, h.trigger⟩

end EigerDetector

section Trigger

variable {settings : Acquisition.Settings} {d d' : Acquisition.EigerDetector}

/-- The calls leave the event of the triggers alone. -/
theorem callStep_triggerEvent (hStep : d.callStep settings = some d') :
    d'.triggerEvent = d.triggerEvent := by
  unfold Acquisition.EigerDetector.callStep at hStep
  split at hStep
  all_goals try split at hStep
  all_goals cases hStep
  all_goals rfl

/-- The thread clears it in two places. -/
theorem threadStep_triggerEvent (hStep : d.threadStep settings = some d')
    (hPoint : ¬ (d.point = .clearTriggerEvent ∨ d.point = .clearAgain)) :
    d'.triggerEvent = d.triggerEvent := by
  unfold Acquisition.EigerDetector.threadStep at hStep
  split at hStep
  all_goals try split_ifs at hStep
  all_goals cases hStep
  all_goals simp_all

theorem threadStep_clears (hStep : d.threadStep settings = some d')
    (hPoint : d.point = .clearTriggerEvent ∨ d.point = .clearAgain) :
    d'.triggerEvent = false := by
  rcases hPoint with hPoint | hPoint <;>
    · rw [Acquisition.EigerDetector.threadStep, hPoint] at hStep
      cases hStep
      rfl

end Trigger

namespace EigerDetector

variable {s s' : EigerDetector}

theorem Requested.acquisition {settings : Acquisition.Settings} {event : Acquisition.Event}
    (h : s.Requested) (hTimely : s.Timely (.acquisition settings event))
    (hStep : s.step (.acquisition settings event) = some s') : s'.Requested := by
  obtain ⟨d, hNext, rfl⟩ := Option.map_eq_some_iff.mp hStep
  refine ⟨h.initializing, h.hvResetting, fun hWaiting => ?_⟩
  dsimp only at hWaiting ⊢
  cases event with
  | startAcquisition | stopAcquisition =>
      rw [Acquisition.EigerDetector.step] at hNext
      split at hNext
      · cases hNext
        exact h.trigger hWaiting
      · cases hNext
  | sendTrigger =>
      cases hNext
      rfl
  | call =>
      rw [callStep_triggerEvent hNext]
      exact h.trigger hWaiting
  | thread =>
      rw [triggerWaitingAfter] at hWaiting
      split at hWaiting
      · cases hWaiting
      · have hPoint : ¬ (s.acquisition.point = .clearTriggerEvent ∨
            s.acquisition.point = .clearAgain) := fun hPoint => hTimely ⟨rfl, hWaiting, hPoint⟩
        rw [threadStep_triggerEvent hNext hPoint]
        exact h.trigger hWaiting

theorem Requested.step {event : Event} (h : s.Requested) (hTimely : s.Timely event)
    (hStep : s.step event = some s') : s'.Requested := by
  cases event with
  | initializing event =>
      obtain ⟨w, hNext, rfl⟩ := Option.map_eq_some_iff.mp hStep
      exact ⟨h.initializing.step hTimely hNext, h.hvResetting, h.trigger⟩
  | hvResetting event =>
      obtain ⟨w, hNext, rfl⟩ := Option.map_eq_some_iff.mp hStep
      exact ⟨h.initializing, h.hvResetting.step hTimely hNext, h.trigger⟩
  | acquisition settings event => exact h.acquisition hTimely hStep

theorem not_kept_of_untimely {event : Event} (hUntimely : s.Untimely event)
    (hStep : s.step event = some s') : ¬ s'.Kept := by
  intro hKept
  cases event with
  | initializing event =>
      obtain ⟨w, hNext, rfl⟩ := Option.map_eq_some_iff.mp hStep
      exact Worker.not_kept_of_untimely hUntimely hNext hKept.initializing
  | hvResetting event =>
      obtain ⟨w, hNext, rfl⟩ := Option.map_eq_some_iff.mp hStep
      exact Worker.not_kept_of_untimely hUntimely hNext hKept.hvResetting
  | acquisition settings event =>
      obtain ⟨d, hNext, rfl⟩ := Option.map_eq_some_iff.mp hStep
      obtain ⟨rfl, hWaiting, hPoint⟩ := hUntimely
      have hStays : s.triggerWaitingAfter settings .thread = true := by
        rw [triggerWaitingAfter, if_neg (by rcases hPoint with h | h <;> simp [h])]
        exact hWaiting
      have hSet := hKept.trigger hStays
      rw [threadStep_clears hNext hPoint] at hSet
      cases hSet

end EigerDetector

/-- No request is lost all along a run exactly if each flag and event is set and cleared in
time. -/
theorem requests_kept_iff {events : List Event} {s : EigerDetector}
    (hExec : exec EigerDetector.step .initial events = some s) :
    Along EigerDetector.step EigerDetector.Kept .initial events ↔
      Run EigerDetector.step EigerDetector.Timely .initial events s :=
  along_iff_run EigerDetector.Requested ⟨.initial, .initial, by simp [EigerDetector.initial]⟩
    (fun _ h => h.kept) (fun _ _ _ h hTimely hStep => h.step hTimely hStep)
    (fun _ _ _ _ hLate hStep =>
      EigerDetector.not_kept_of_untimely (Classical.not_not.mp hLate) hStep) hExec

def manualSettings : Acquisition.Settings := ⟨.ints, 2, true, 0⟩

/-- Two requests of each kind, with the first served before the second comes. -/
def servedRequests : List Event :=
  let worker := [.setFlag, .setEvent] ++ List.replicate 6 WorkerEvent.thread
  let trigger := .sendTrigger :: List.replicate 5 Acquisition.Event.thread
  (worker ++ worker).map .initializing ++ (worker ++ worker).map .hvResetting ++
    (Acquisition.startCall ++ List.replicate 5 Acquisition.Event.thread ++ trigger ++ trigger).map
      (.acquisition manualSettings)

theorem servedRequests_kept :
    Along EigerDetector.step EigerDetector.Kept .initial servedRequests := by
  have hExec : (exec (guarded EigerDetector.step EigerDetector.Timely) .initial
      servedRequests).map (fun s => s.acquisition.commands) =
        some [.arm, .trigger none, .trigger none] := by
    decide +kernel
  obtain ⟨s, hRun, _⟩ := Option.map_eq_some_iff.mp hExec
  have hTimely := run_iff_exec_guarded.mpr hRun
  exact (requests_kept_iff hTimely.executes).mpr hTimely

/-- A second call comes while the first initialization is in progress. -/
def callDuringInitialize : List Event :=
  ([.setFlag, .setEvent, .thread, .thread, .setFlag, .setEvent, .thread, .thread, .thread]).map
    .initializing

theorem callDuringInitialize_lost : (exec EigerDetector.step .initial callDuringInitialize).map
    (fun s => (s.initializing.waiting, s.initializing.event, s.initializing.flag)) =
      some (true, false, false) := by
  decide +kernel

theorem requests_not_always_kept : ¬ ∀ (events : List Event) (s : EigerDetector),
    exec EigerDetector.step .initial events = some s → s.Kept := by
  intro hClaim
  obtain ⟨s, hExec, hEnd⟩ := Option.map_eq_some_iff.mp callDuringInitialize_lost
  simp only [Prod.mk.injEq] at hEnd
  obtain ⟨hWaiting, hEvent, _⟩ := hEnd
  have hSet := (hClaim callDuringInitialize s hExec).initializing.event hWaiting
  rw [hEvent] at hSet
  cases hSet

end Eiger.Requests
