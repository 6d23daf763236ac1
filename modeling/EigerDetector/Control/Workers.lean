import EigerDetector.Control.Actions
import EigerDetector.Control.Loops
import EigerDetector.Library.Transition

/-! The four worker threads beside everything else that goes on in the server. -/
namespace Eiger.Server

open Threads Transition

inductive Thread where
  | acquisition
  | initialization
  | hvReset
  | liveView
  deriving DecidableEq

/-- The loop of a thread. -/
def Thread.code : Thread → Point → Code Point
  | acquisition => doAcquisition
  | initialization => doInitialize
  | hvReset => doHvReset
  | liveView => lvLoop

/-- The thread whose work a flag is about. -/
def Flag.owner : Flag → Option Thread
  | acquisitionComplete | armed => some .acquisition
  | initializing => some .initialization
  | hvResetting => some .hvReset
  | _ => none

/-- The thread that an event wakes. -/
def Event.owner : Event → Option Thread
  | acquisition => some .acquisition
  | initialization => some .initialization
  | hvResetting => some .hvReset
  | trigger => none

/-- A thread begins an iteration, or is inside one. It is in front of a failure when an
exception has ended it. -/
inductive Stage where
  | start (point : Point)
  | inside (rest : Code Point)

/-- Code that has returned has come to where the next iteration begins. -/
def Stage.of : Code Point → Stage
  | .done point => .start point
  | rest => .inside rest

/-- What a thread has still to do. -/
def Stage.code (t : Thread) : Stage → Code Point
  | start point => t.code point
  | inside rest => rest

structure System where
  detector : EigerDetector
  stage : Thread → Stage

inductive SystemEvent where
  | thread (t : Thread) (env : Environment)
  | request (t : Thread)
  | stop
  | outside (other : EigerDetector) (shutdown : Bool)

/-- What a call sets to have a thread do its work. -/
def Thread.request (d : EigerDetector) : Thread → EigerDetector
  | acquisition => { d with
      flags := Function.update (Function.update d.flags .acquisitionComplete false) .armed true
      events := Function.update d.events .acquisition true }
  | initialization => { d with
      flags := Function.update d.flags .initializing true
      events := Function.update d.events .initialization true }
  | hvReset => { d with
      flags := Function.update d.flags .hvResetting true
      events := Function.update d.events .hvResetting true }
  | liveView => { d with flags := Function.update d.flags .liveViewEnabled true }

namespace System

/-- After construction all threads are at the top of their loops. -/
def initial (attributes : String → Option Json) (missingParameters : List String) : System where
  detector := Server.initial attributes missingParameters
  stage _ := .start .top

/-- The next action of a thread, in an environment of the moment. -/
def threadStep (s : System) (t : Thread) (env : Environment) : Option System :=
  match (s.stage t).code t with
  | .act action next =>
      (answer env action s.detector).map fun (d, reply) =>
        ⟨d, Function.update s.stage t (.of (next reply))⟩
  | _ => none

/-- Work is requested of a thread between two iterations. -/
def requestStep (s : System) (t : Thread) : Option System :=
  match s.stage t with
  | .start .top => some { s with detector := t.request s.detector }
  | _ => none

/-- `stop_acquisition`, as far as flags go. -/
def stopped (d : EigerDetector) : EigerDetector :=
  { d with
    flags := Function.update (Function.update d.flags .acquisitionComplete true) .armed false }

/-- The rest of the server sets anything but the flags and events of the threads. -/
def surrounded (d other : EigerDetector) (shutdown : Bool) : EigerDetector :=
  { other with
    flags := fun flag =>
      if flag.owner.isSome then d.flags flag
      else if flag = .executing then d.flags .executing && !shutdown
      else other.flags flag
    events := fun event => if event.owner.isSome then d.events event else other.events event }

def step (s : System) : SystemEvent → Option System
  | .thread t env => s.threadStep t env
  | .request t => s.requestStep t
  | .stop => some { s with detector := stopped s.detector }
  | .outside other shutdown => some { s with detector := surrounded s.detector other shutdown }

end System

section Promise

/-- The flags say that no work of the thread is going on. -/
def Thread.Idle (d : EigerDetector) : Thread → Prop
  | acquisition => d.flags .acquisitionComplete = true ∧ d.flags .armed = false
  | initialization => d.flags .initializing = false
  | hvReset => d.flags .hvResetting = false
  | liveView => True

/-- No work of the thread is requested. -/
def Thread.Clear (d : EigerDetector) (t : Thread) : Prop :=
  ∀ event : Event, event.owner = some t → d.events event = false

/-- The next action of the code gets a reply that it survives. -/
def benignNext (env : Environment) (d : EigerDetector) : Code Point → Bool
  | .act action _ => (answer env action d).all fun (_, reply) => benign action reply
  | _ => true

/-- A thread that takes a step gets a reply that its loop survives. -/
def Healthy (s : System) : SystemEvent → Prop
  | .thread t env => benignNext env s.detector ((s.stage t).code t) = true
  | _ => True

instance Healthy.decidable (s : System) : (event : SystemEvent) → Decidable (Healthy s event)
  | .thread t env =>
      inferInstanceAs (Decidable (benignNext env s.detector ((s.stage t).code t) = true))
  | .request _ | .stop | .outside _ _ => inferInstanceAs (Decidable True)

end Promise

section Phases

/-- What a thread knows of its flags: nothing has been touched since the top of the loop, work
is going on, the acquisition is complete, all flags are idle, or the thread is to end. -/
inductive Phase where
  | untouched
  | working
  | completed
  | idle
  | stopping
  deriving DecidableEq

/-- What holds of the detector in a phase of a thread. -/
def Phase.Holds (t : Thread) (d : EigerDetector) : Phase → Prop
  | untouched => t.Clear d → t.Idle d
  | working => True
  | completed => t = .acquisition ∧ d.flags .acquisitionComplete = true
  | idle => t.Idle d
  | stopping => d.flags .executing = false

/-- A thread touches its own flags and events: it makes the flags idle, and clears an event. -/
def Phase.permits (t : Thread) (g : Phase) : Action → Prop
  | .setFlag flag value =>
      flag.owner = some t ∧ value = decide (flag = .acquisitionComplete) ∧
        (flag = .armed → g = completed)
  | .assignEvent event value =>
      event.owner = none ∨ event.owner = some t ∧ value = false ∧ (t = .acquisition ∨ g = idle)
  | _ => True

/-- The phase after a reply. -/
def Phase.after (g : Phase) : (action : Action) → action.Reply → Phase
  | .getFlag .executing, executing => if executing then g else stopping
  | .setFlag .acquisitionComplete _, _ => completed
  | .setFlag _ _, _ => idle
  | .assignEvent .acquisition _, _ => working
  | _, _ => g

def tracker (t : Thread) : Tracker Action Action.Reply Phase where
  permits g action := g.permits t action
  follows g action reply g' := g' = g.after action reply

/-- The phases in which an iteration may begin. -/
def Phase.Ends (g : Phase) : Point → Prop
  | .top => g = untouched ∨ g = idle
  | .triggers _ => True
  | .ended => g = stopping

/-- The code goes through the phases, whatever replies come. -/
def Phased {A : Type} (t : Thread) (post : Phase → A → Prop) (g : Phase) (code : Code A) : Prop :=
  code.Tracked (tracker t) post (fun _ _ => True) g

/-- The code stays in its phase. -/
def Keeps {A : Type} (t : Thread) (g : Phase) (code : Code A) : Prop :=
  Phased t (fun g' _ => g' = g) g code

variable {A B : Type} {t : Thread} {g : Phase}

theorem Keeps.bind {p : Code A} {f : A → Code B} {post : Phase → B → Prop} (h : Keeps t g p)
    (hf : ∀ a, Phased t post g (f a)) : Phased t post g (p >>= f) := by
  apply Program.Tracked.bind h
  rintro _ a rfl
  exact hf a

/-- Quiet code touches no flags and no events. -/
theorem keeps_of_uses {p : Code A} (h : p.Uses Action.Quiet fun _ => True) : Keeps t g p := by
  have hTracked : p.Tracked (tracker t) (fun g' _ => g = g' ∧ True) (fun g' _ => g = g') g := by
    apply h.tracked rfl
    · rintro _ action hQuiet -
      cases action with
      | setFlag | assignEvent => cases hQuiet
      | _ => trivial
    · rintro _ action reply g' hQuiet rfl hFollows
      cases action with
      | getFlag | setFlag | assignEvent => cases hQuiet
      | _ => exact hFollows.symm
  exact hTracked.mono (fun _ _ h => h.1.symm) fun _ _ _ => trivial

/-- One action, with the phase after it. -/
theorem phased_act {action : Action} {g' : Phase} {f : action.Reply → Code B}
    {post : Phase → B → Prop} (hPermits : g.permits t action)
    (hAfter : ∀ reply, g.after action reply = g') (hf : ∀ reply, Phased t post g' (f reply)) :
    Phased t post g (perform action >>= f) := by
  refine ⟨hPermits, fun reply next hFollows => ?_⟩
  rw [hFollows, hAfter reply]
  exact hf reply

/-- The last action, with the phase after it. -/
theorem phased_end {action : Action} {g' : Phase} {post : Phase → action.Reply → Prop}
    (hPermits : g.permits t action) (hAfter : ∀ reply, g.after action reply = g')
    (hPost : ∀ reply, post g' reply) : Phased t post g (perform action) :=
  Program.tracked_perform hPermits fun reply _ hFollows => by
    rw [hFollows, hAfter reply]
    exact hPost reply

theorem uses_pause (duration : Json) : (pause duration).Uses Action.Quiet fun _ => True :=
  ⟨rfl, fun _ => uses_liftExcept _⟩

theorem uses_readAll (cfgs : List String) : (readAll cfgs).Uses Action.Quiet fun _ => True := by
  induction cfgs with
  | nil => trivial
  | cons cfg cfgs ih =>
      apply ((uses_readConfig .detectorConfig cfg).mono fun _ h => h.quiet).seq
      intro param
      exact ((uses_setattr cfg param).mono fun _ h => h.quiet).seq fun _ => ih

theorem uses_getHvState : getHvState.Uses Action.Quiet fun _ => True :=
  ((uses_getattr _).mono fun _ h => h.quiet).seq fun _ => uses_liftExcept _

theorem uses_waitReady (pauses : Nat) : (waitReady pauses).Uses Action.Quiet fun _ => True := by
  induction pauses with
  | zero => exact uses_getHvState.seq fun _ => trivial
  | succ pauses ih =>
      apply uses_getHvState.seq
      intro state
      split_ifs
      · trivial
      · exact (uses_pause _).seq fun _ => ih

theorem uses_resetIterations (iterations : Nat) :
    (resetIterations iterations).Uses Action.Quiet fun _ => True := by
  induction iterations with
  | zero => trivial
  | succ iterations ih =>
      apply (uses_waitReady 60).seq
      intro ready
      cases ready with
      | true =>
          apply (uses_writeDetectorCommand _ _).seq
          intro _
          exact (uses_pause _).seq fun _ => ih
      | false => trivial

theorem uses_hvReset : hvReset.Uses Action.Quiet fun _ => True := by
  apply ((uses_getattr _).mono fun _ h => h.quiet).seq
  intro material
  apply (uses_liftExcept _).seq
  intro name
  split_ifs
  · exact uses_resetIterations 10
  · trivial

theorem uses_readDetectorLiveImage :
    readDetectorLiveImage.Uses Action.Quiet fun _ => True := by
  have hRequest : (Eiger.Server.request (.get .detectorMonitor "images/next")).Uses Action.Quiet
      fun _ => True := uses_request rfl
  apply hRequest.seq
  intro r
  apply (uses_liftExcept _).seq
  intro image
  cases image with
  | none => trivial
  | some image => exact ⟨rfl, fun _ => trivial⟩

theorem uses_writeTrigger : writeTrigger.Uses Action.Quiet fun _ => True := by
  apply (uses_getTriggerMode.mono fun _ h => h.quiet).seq
  intro triggerMode
  split_ifs
  · refine ⟨rfl, fun value => ?_⟩
    apply (uses_writeDetectorCommand _ _).seq
    intro _
    exact ⟨rfl, fun duration => uses_pause duration⟩
  · exact (uses_writeDetectorCommand _ _).seq fun _ => trivial

/-- At the top of a loop a thread goes on while the server does, and else is to end. -/
theorem phased_while {f : Bool → Code Point} (hEnd : f false = pure .ended)
    (hGo : Phased t Phase.Ends g (f true)) :
    Phased t Phase.Ends g (perform (.getFlag .executing) >>= f) := by
  refine ⟨trivial, fun executing g' hFollows => ?_⟩
  rw [hFollows]
  cases executing with
  | false =>
      change Phased t Phase.Ends Phase.stopping (f false)
      rw [hEnd]
      exact (rfl : Phase.stopping = Phase.stopping)
  | true => exact hGo

/-- The part that the loops share comes to the iteration in the phase it begins in. -/
theorem phased_onEvent {event : Event} {iteration : Code Point}
    (h : Phased t Phase.Ends .untouched iteration) :
    Phased t Phase.Ends .untouched (onEvent event iteration) := by
  apply phased_while rfl
  refine phased_act trivial (fun _ => rfl) fun woken => ?_
  cases woken with
  | false => exact Or.inl rfl
  | true => exact h

theorem phased_sendTrigger (count : Nat) : Phased t Phase.Ends g (sendTrigger count) := by
  have hAwait : Keeps t g awaitTrigger := by
    refine phased_act trivial (fun _ => rfl) fun manualTrigger => ?_
    cases manualTrigger with
    | true => exact phased_end trivial (fun _ => rfl) fun _ => rfl
    | false => exact (rfl : g = g)
  apply hAwait.bind
  intro doTrigger
  cases doTrigger with
  | false => trivial
  | true =>
      apply (keeps_of_uses uses_writeTrigger).bind
      intro _
      exact phased_act (.inl rfl) (fun _ => rfl) fun _ => trivial

theorem phased_finishAcquisition : Phased .acquisition Phase.Ends g finishAcquisition := by
  refine phased_act ⟨rfl, rfl, by simp⟩ (fun _ => rfl) fun _ => ?_
  apply (keeps_of_uses (uses_writeDetectorCommand _ _)).bind
  intro _
  exact phased_act ⟨rfl, rfl, fun _ => rfl⟩ (fun _ => rfl) fun _ => Or.inr rfl

/-- The phase in which an iteration begins. -/
def Point.phase : Point → Phase
  | top => .untouched
  | triggers _ => .working
  | ended => .stopping

/-- Each iteration of each thread goes through the phases. -/
theorem phased_code (t : Thread) (point : Point) :
    Phased t Phase.Ends point.phase (t.code point) := by
  cases point with
  | ended => cases t <;> exact (rfl : Phase.stopping = Phase.stopping)
  | top =>
      cases t with
      | acquisition =>
          apply phased_onEvent
          refine phased_act (.inr ⟨rfl, rfl, .inl rfl⟩) (fun _ => rfl) fun _ => ?_
          exact phased_act (.inl rfl) (fun _ => rfl) fun _ => trivial
      | initialization =>
          apply phased_onEvent
          apply (keeps_of_uses (uses_writeDetectorCommand _ _)).bind
          intro _
          refine phased_act ⟨rfl, rfl, by simp⟩ (fun _ => rfl) fun _ => ?_
          refine phased_act (.inr ⟨rfl, rfl, .inr rfl⟩) (fun _ => rfl) fun _ => ?_
          apply (keeps_of_uses (uses_readAll _)).bind
          exact fun _ => Or.inr rfl
      | hvReset =>
          apply phased_onEvent
          apply (keeps_of_uses uses_hvReset).bind
          intro _
          refine phased_act ⟨rfl, rfl, by simp⟩ (fun _ => rfl) fun _ => ?_
          exact phased_act (.inr ⟨rfl, rfl, .inr rfl⟩) (fun _ => rfl) fun _ => Or.inr rfl
      | liveView =>
          apply phased_while rfl
          refine phased_act trivial (fun _ => rfl) fun liveViewEnabled => ?_
          have hView : (viewWhen liveViewEnabled).Uses Action.Quiet fun _ => True := by
            cases liveViewEnabled with
            | true => exact uses_readDetectorLiveImage
            | false => trivial
          apply (keeps_of_uses hView).bind
          intro _
          apply (keeps_of_uses (uses_pause _)).bind
          exact fun _ => Or.inl rfl
  | triggers count =>
      cases t with
      | acquisition =>
          have hMore : Keeps .acquisition .working (moreTriggers count) := by
            refine phased_act trivial (fun _ => rfl) fun acquisitionComplete => ?_
            cases acquisitionComplete with
            | true => exact (rfl : Phase.working = Phase.working)
            | false =>
                apply (keeps_of_uses ((uses_getattr _).mono fun _ h => h.quiet)).bind
                exact fun _ => keeps_of_uses (uses_liftExcept _)
          apply hMore.bind
          intro more
          cases more with
          | true => exact phased_sendTrigger count
          | false => exact phased_finishAcquisition
      | _ => trivial

theorem sound_code (t : Thread) (point : Point) : Sound (t.code point) := by
  cases t with
  | acquisition => exact sound_doAcquisition point
  | initialization => exact sound_doInitialize point
  | hvReset => exact sound_doHvReset point
  | liveView => exact sound_lvLoop point

end Phases

section Holding

variable {env : Environment} {t u : Thread} {g : Phase} {d d' : EigerDetector}

/-- The flags and events of a thread are the same. -/
structure Unheeded (t : Thread) (d d' : EigerDetector) : Prop where
  flags : ∀ flag : Flag, flag.owner = some t → d'.flags flag = d.flags flag
  events : ∀ event : Event, event.owner = some t → d'.events event = d.events event
  executing : d.flags .executing = false → d'.flags .executing = false

theorem Unheeded.idle (h : Unheeded t d d') : t.Idle d' ↔ t.Idle d := by
  have hFlags := h.flags
  cases t with
  | acquisition =>
      rw [Thread.Idle, Thread.Idle, hFlags .acquisitionComplete rfl, hFlags .armed rfl]
  | initialization => rw [Thread.Idle, Thread.Idle, hFlags .initializing rfl]
  | hvReset => rw [Thread.Idle, Thread.Idle, hFlags .hvResetting rfl]
  | liveView => rfl

/-- What holds for a thread still holds when its flags and events are the same. -/
theorem Phase.Holds.unheeded (h : g.Holds t d) (hSame : Unheeded t d d') : g.Holds t d' := by
  cases g with
  | untouched =>
      intro hClear
      rw [hSame.idle]
      exact h fun event hOwner => (hSame.events event hOwner).symm.trans (hClear event hOwner)
  | working => trivial
  | completed =>
      obtain ⟨rfl, hComplete⟩ := h
      exact ⟨rfl, (hSame.flags .acquisitionComplete rfl).trans hComplete⟩
  | idle => exact hSame.idle.mpr h
  | stopping => exact hSame.executing h

/-- A thread that performs an action which it is permitted is in the phase after it. -/
theorem Phase.Holds.own {action : Action} {reply : action.Reply} (h : g.Holds t d)
    (hPermits : g.permits t action) (hAnswer : answer env action d = some (d', reply)) :
    (g.after action reply).Holds t d' := by
  cases action with
  | setFlag flag value =>
      cases hAnswer
      obtain ⟨hOwner, rfl, hPhase⟩ := hPermits
      cases flag with
      | acquisitionComplete =>
          cases hOwner
          exact ⟨rfl, by simp⟩
      | armed =>
          cases hOwner
          rw [hPhase rfl] at h
          exact ⟨by simpa using h.2, by simp⟩
      | initializing | hvResetting =>
          cases hOwner
          simp [Phase.after, Phase.Holds, Thread.Idle]
      | _ => cases hOwner
  | assignEvent event value =>
      cases hAnswer
      cases event with
      | trigger =>
          apply h.unheeded
          refine ⟨fun _ _ => rfl, fun event hOwner => ?_, fun h => h⟩
          cases event with
          | trigger => cases hOwner
          | _ => rfl
      | acquisition => trivial
      | initialization | hvResetting =>
          rcases hPermits with hOwner | ⟨hOwner, _, hPhase⟩
          · cases hOwner
          · cases hOwner
            rw [hPhase.resolve_left (by simp)] at h ⊢
            exact h
  | getFlag flag =>
      cases hAnswer
      cases flag with
      | executing =>
          rw [Phase.after]
          split_ifs with hExecuting
          · exact h
          · exact Bool.eq_false_iff.mpr hExecuting
      | _ => exact h
  | _ =>
      cases hAnswer
      exact h.unheeded ⟨fun _ _ => rfl, fun _ _ => rfl, fun h => h⟩

/-- Another thread leaves the flags and events alone. -/
theorem unheeded_of_other {action : Action} {reply : action.Reply} (hOther : u ≠ t)
    (hPermits : g.permits u action) (hAnswer : answer env action d = some (d', reply)) :
    Unheeded t d d' := by
  cases action with
  | setFlag flag value =>
      cases hAnswer
      refine ⟨fun flag' hOwner => ?_, fun _ _ => rfl, fun hExecuting => ?_⟩
      · apply Function.update_of_ne
        rintro rfl
        exact hOther (Option.some.inj (hPermits.1.symm.trans hOwner))
      · refine (Function.update_of_ne ?_ _ _).trans hExecuting
        rintro rfl
        cases hPermits.1
  | assignEvent event value =>
      cases hAnswer
      refine ⟨fun _ _ => rfl, fun event' hOwner => ?_, fun h => h⟩
      apply Function.update_of_ne
      rintro rfl
      rcases hPermits with hNone | ⟨hOwn, _⟩
      · rw [hNone] at hOwner
        cases hOwner
      · exact hOther (Option.some.inj (hOwn.symm.trans hOwner))
  | _ =>
      cases hAnswer
      exact ⟨fun _ _ => rfl, fun _ _ => rfl, fun h => h⟩

/-- A request is for one thread. -/
theorem unheeded_request (d : EigerDetector) (hOther : u ≠ t) :
    Unheeded t d (u.request d) := by
  constructor
  · intro flag hOwner
    cases flag <;> cases hOwner <;> cases u <;> first | rfl | exact absurd rfl hOther
  · intro event hOwner
    cases event <;> cases hOwner <;> cases u <;> first | rfl | exact absurd rfl hOther
  · intro hExecuting
    cases u <;> exact hExecuting

/-- The thread that a request is for finds its event set. -/
theorem untouched_request (t : Thread) (d : EigerDetector) :
    Phase.untouched.Holds t (t.request d) := by
  intro hClear
  cases t with
  | acquisition => exact absurd (hClear .acquisition rfl) (by simp [Thread.request])
  | initialization => exact absurd (hClear .initialization rfl) (by simp [Thread.request])
  | hvReset => exact absurd (hClear .hvResetting rfl) (by simp [Thread.request])
  | liveView => trivial

/-- A stop makes the flags of an acquisition idle, whatever its thread is doing. -/
theorem Phase.Holds.stopped (h : g.Holds t d) : g.Holds t (System.stopped d) := by
  cases t with
  | acquisition =>
      have hIdle : Thread.acquisition.Idle (System.stopped d) := by
        simp [Thread.Idle, System.stopped]
      cases g with
      | untouched => exact fun _ => hIdle
      | working => trivial
      | completed => exact ⟨rfl, hIdle.1⟩
      | idle => exact hIdle
      | stopping => exact h
  | _ =>
      apply h.unheeded
      refine ⟨fun flag hOwner => ?_, fun _ _ => rfl, fun hExecuting => hExecuting⟩
      cases flag <;> first | rfl | cases hOwner

/-- The rest of the server leaves the threads alone, but may shut them down. -/
theorem unheeded_surrounded (t : Thread) (d other : EigerDetector) (shutdown : Bool) :
    Unheeded t d (System.surrounded d other shutdown) := by
  constructor
  · intro flag hOwner
    simp [System.surrounded, hOwner]
  · intro event hOwner
    simp [System.surrounded, hOwner]
  · intro hExecuting
    simp [System.surrounded, Flag.owner, hExecuting]

end Holding

end Eiger.Server
