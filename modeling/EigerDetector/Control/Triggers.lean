import EigerDetector.Control.HvReset
import EigerDetector.Control.Served

/-! The triggers of an acquisition, while any number of requests, the other loops and the status
polls go on at the same time. -/
namespace Eiger.Server

open Threads Transition

section Watching

def modeOf (value : Json) : Option String := (triggerModeOf value).toOption

/-- The data of a command with this value. -/
def commandData : Json → Option Json
  | .null => none
  | value => some value

def Request.isTrigger : Request → Bool
  | .put .detectorCommand item _ => item == "trigger"
  | _ => false

def Action.isTrigger : Action → Bool
  | .request r => r.isTrigger
  | _ => false

/-- What the loop has found at its condition since its last trigger: the acquisition complete or
not, and then whether more triggers are wanted. -/
inductive Found where
  | nothing
  | complete
  | incomplete
  | enough
  | wanted
  deriving DecidableEq

/-- Whether more triggers are wanted than were sent. -/
def Found.ofTriggers (sent : Nat) (value : Json) : Found :=
  match value.getValue >>= Json.lessThan sent with
  | .ok more => if more then wanted else enough
  | .error _ => nothing

/-- What is owed for a trigger: the exposure is to be read, and to be slept. -/
inductive Owed where
  | nothing
  | exposure
  | sleep (duration : Json)

/-- What was seen of the loop since it was woken for an acquisition: how many triggers it has
sent, what is owed for the last of them, and whether it has declared the acquisition complete.
What it has found since it last came to its condition: there, that it has not to wait for a
manual trigger, in which mode the triggers are sent, and the exposure. -/
structure TriggerWatch where
  sent : Nat
  owed : Owed
  declared : Bool
  found : Found
  released : Bool
  mode : Option String
  exposure : Option Json

namespace TriggerWatch

def woken : TriggerWatch := ⟨0, .nothing, false, .nothing, false, none, none⟩

/-- The loop comes to its condition. -/
def look (complete : Bool) (g : TriggerWatch) : TriggerWatch :=
  { g with
    found := if complete then .complete else .incomplete
    released := false
    mode := none
    exposure := none }

/-- In one of the modes the exposure is to be slept. -/
def trigger (g : TriggerWatch) : TriggerWatch :=
  { g with
    sent := g.sent + 1
    owed := if g.mode = some "inte" then .exposure else .nothing
    found := .nothing
    released := false }

def after (g : TriggerWatch) : (action : Action) → action.Reply → TriggerWatch
  | .assignEvent .acquisition _, _ => woken
  | .getFlag .acquisitionComplete, complete => g.look complete
  | .getFlag .manualTrigger, manual => { g with released := !manual }
  | .wait .trigger, set => { g with released := set }
  | .getattr name, value =>
      if name = "ntrigger" then
        { g with
          found := if g.found = .incomplete then value.elim .nothing (Found.ofTriggers g.sent)
            else .nothing }
      else if name = "trigger_mode" then { g with mode := value.bind modeOf }
      else g
  | .getTriggerExposure, value =>
      match g.owed with
      | .exposure => { g with owed := .sleep value }
      | _ => { g with exposure := some value }
  | .request r, _ => if r.isTrigger then g.trigger else g
  | .setFlag .acquisitionComplete value, _ => { g with declared := value }
  | .sleep _, _ => { g with owed := .nothing }
  | _, _ => g

/-- In one of the modes the exposure is sent along. -/
def data (g : TriggerWatch) : Option Json :=
  if g.mode = some "inte" then g.exposure.bind commandData else none

/-- All was found that a trigger takes. -/
structure Due (g : TriggerWatch) : Prop where
  found : g.found = .wanted
  released : g.released = true
  mode : g.mode ≠ none
  exposure : g.mode = some "inte" → g.exposure ≠ none

/-- The rules of an acquisition. A trigger is sent if all was found that it takes, and the
acquisition is disarmed once it was declared complete. It is declared complete if it was found
to be, or if enough triggers were found to be sent. What is owed for a trigger comes right after
it, and nothing else is slept. -/
def Rule (g : TriggerWatch) : Action → Prop
  | .request r => g.owed = .nothing ∧
      (r = .put .detectorCommand "trigger" g.data ∧ g.Due ∨
        r = .put .detectorCommand "disarm" none ∧ g.declared = true)
  | .setFlag flag value => g.owed = .nothing ∧
      (flag = .acquisitionComplete ∧ value = true ∧
          (g.found = .complete ∨ g.found = .enough) ∨
        flag = .armed ∧ value = false ∧ g.declared = true)
  | .sleep duration => g.owed = .sleep duration
  | .getTriggerExposure =>
      g.owed = .exposure ∨ g.owed = .nothing ∧ g.mode = some "inte"
  | .assignEvent event value => g.owed = .nothing ∧ value = false ∧
      (event = .acquisition ∨ event = .trigger)
  | .getattr _ | .getFlag _ | .wait _ => g.owed = .nothing
  | _ => False

/-- An iteration begins with nothing owed, and one for a trigger with as many sent as the loop
has counted. -/
def Starts (g : TriggerWatch) : Point → Prop
  | .triggers count => g.owed = .nothing ∧ g.sent = count
  | _ => g.owed = .nothing

end TriggerWatch

def triggerTracker : Tracker Action Action.Reply TriggerWatch where
  permits g action := g.Rule action
  follows g action reply g' := g' = g.after action reply

/-- The code keeps to the rules of an acquisition. -/
def Triggers {A : Type} (post : TriggerWatch → A → Prop) (g : TriggerWatch) (code : Code A) :
    Prop :=
  code.Tracked triggerTracker post (fun _ _ => True) g

end Watching

section Rules

variable {A B : Type} {g : TriggerWatch} {post : TriggerWatch → A → Prop}

theorem Triggers.bind {p : Code A} {f : A → Code B} {post' : TriggerWatch → B → Prop}
    (h : Triggers post g p) (hf : ∀ g a, post g a → Triggers post' g (f a)) :
    Triggers post' g (p >>= f) :=
  Program.Tracked.bind h hf

/-- One action, with what is seen of it. -/
theorem triggers_act {action : Action} {f : action.Reply → Code A} (hRule : g.Rule action)
    (hf : ∀ reply, Triggers post (g.after action reply) (f reply)) :
    Triggers post g (perform action >>= f) := by
  refine ⟨hRule, fun reply g' hFollows => ?_⟩
  rw [hFollows]
  exact hf reply

theorem triggers_getattr {name : String} {f : Json → Code A} (hOwed : g.owed = .nothing)
    (hf : ∀ value, Triggers post (g.after (.getattr name) (some value)) (f value)) :
    Triggers post g (getattr name >>= f) := by
  refine ⟨hOwed, fun value g' hFollows => ?_⟩
  rw [hFollows]
  cases value with
  | none => trivial
  | some value => exact hf value

theorem triggers_writeDetectorCommand {command : String} {value : Json} {f : Json → Code A}
    (hRule : g.Rule (.request (.put .detectorCommand command (commandData value))))
    (hf : ∀ reply, Triggers post
      (if command == "trigger" then g.trigger else g) (f reply)) :
    Triggers post g (writeDetectorCommand command value >>= f) := by
  obtain ⟨read, hWrite⟩ : ∃ read : Response → Json, writeDetectorCommand command value =
      (request (.put .detectorCommand command (commandData value)) >>= fun r => pure (read r)) := by
    cases value <;> exact ⟨_, rfl⟩
  rw [hWrite]
  refine ⟨hRule, fun response g' hFollows => ?_⟩
  rw [hFollows]
  cases response with
  | none => trivial
  | some response => exact hf _

/-- The condition of the loop is what was found. -/
theorem triggers_moreTriggers {count : Nat} (hOwed : g.owed = .nothing) (hSent : g.sent = count) :
    Triggers (fun g' more => g'.owed = .nothing ∧ g'.sent = count ∧
      if more then g'.found = .wanted else g'.found = .complete ∨ g'.found = .enough) g
        (moreTriggers count) := by
  apply triggers_act
  · exact hOwed
  intro complete
  cases complete with
  | true => exact ⟨hOwed, hSent, .inl rfl⟩
  | false =>
      have hLooked : (g.look false).owed = .nothing := hOwed
      apply triggers_getattr hLooked
      intro value
      have hSeen : (g.look false).after (.getattr "ntrigger") (some value) =
          { g.look false with found := Found.ofTriggers count value } := by
        rw [← hSent]
        simp [TriggerWatch.after, TriggerWatch.look]
      show Triggers _ ((g.look false).after (.getattr "ntrigger") (some value)) _
      rw [hSeen, Found.ofTriggers]
      cases value.getValue >>= Json.lessThan count with
      | error e => trivial
      | ok more =>
          cases more with
          | true => exact ⟨hOwed, hSent, rfl⟩
          | false => exact ⟨hOwed, hSent, .inr rfl⟩

theorem triggers_awaitTrigger (hOwed : g.owed = .nothing) (hFound : g.found = .wanted) :
    Triggers (fun g' released => g'.owed = .nothing ∧ g'.sent = g.sent ∧ g'.found = .wanted ∧
      g'.released = released) g awaitTrigger := by
  apply triggers_act
  · exact hOwed
  intro manual
  cases manual with
  | true =>
      refine ⟨hOwed, fun set g' hFollows => ?_⟩
      rw [hFollows]
      exact ⟨hOwed, rfl, hFound, rfl⟩
  | false => exact ⟨hOwed, rfl, hFound, rfl⟩

/-- A trigger is sent in the mode that was found, with what that mode takes, and what is owed
for it is paid. -/
theorem triggers_writeTrigger (hOwed : g.owed = .nothing) (hFound : g.found = .wanted)
    (hReleased : g.released = true) :
    Triggers (fun g' _ => g'.owed = .nothing ∧ g'.sent = g.sent + 1) g writeTrigger := by
  have hMode : Triggers (fun g' mode => g' = { g with mode := some mode }) g getTriggerMode := by
    apply triggers_getattr hOwed
    intro value
    have hSeen : g.after (.getattr "trigger_mode") (some value) =
        { g with mode := modeOf value } := by
      simp [TriggerWatch.after]
    rw [hSeen, modeOf]
    cases triggerModeOf value with
    | error e => trivial
    | ok mode => exact (rfl : ({ g with mode := some mode } : TriggerWatch) = _)
  apply hMode.bind
  rintro _ mode rfl
  split_ifs with hInte
  · subst hInte
    apply triggers_act
    · exact .inr ⟨hOwed, rfl⟩
    intro exposure
    have hRead : TriggerWatch.after { g with mode := some "inte" } .getTriggerExposure exposure =
        { g with mode := some "inte", exposure := some exposure } := by
      simp [TriggerWatch.after, hOwed]
    rw [hRead]
    apply triggers_writeDetectorCommand
    · exact ⟨hOwed, .inl ⟨rfl, hFound, hReleased, Option.some_ne_none _,
        fun _ => Option.some_ne_none exposure⟩⟩
    · intro _
      apply triggers_act
      · exact .inl rfl
      intro duration
      refine ⟨rfl, fun slept g' hFollows => ?_⟩
      rw [hFollows]
      cases slept with
      | ok u => exact ⟨rfl, rfl⟩
      | error e => trivial
  · have hOther : some mode ≠ some "inte" := fun hSome => hInte (Option.some_inj.mp hSome)
    apply triggers_writeDetectorCommand
    · refine ⟨hOwed, .inl ⟨?_, hFound, hReleased, Option.some_ne_none mode,
        fun hSome => absurd hSome hOther⟩⟩
      show _ = Request.put .detectorCommand "trigger" (if some mode = some "inte" then _ else _)
      rw [if_neg hOther]
      rfl
    · exact fun _ => ⟨if_neg hOther, rfl⟩

/-- Each iteration of the loop keeps to the rules. -/
theorem triggers_doAcquisition {point : Point} (hStarts : g.Starts point) :
    Triggers TriggerWatch.Starts g (doAcquisition point) := by
  cases point with
  | top =>
      have hOwed : g.owed = .nothing := hStarts
      apply triggers_act
      · exact hOwed
      intro executing
      cases executing with
      | false => exact hOwed
      | true =>
          apply triggers_act
          · exact hOwed
          intro woken
          cases woken with
          | false => exact hOwed
          | true =>
              apply triggers_act
              · exact ⟨hOwed, rfl, .inl rfl⟩
              intro _
              apply triggers_act
              · exact ⟨rfl, rfl, .inr rfl⟩
              exact fun _ => ⟨rfl, rfl⟩
  | triggers count =>
      apply (triggers_moreTriggers hStarts.1 hStarts.2).bind
      rintro g₁ more ⟨hOwed, hSent, hFound⟩
      cases more with
      | false =>
          apply triggers_act
          · exact ⟨hOwed, .inl ⟨rfl, rfl, hFound⟩⟩
          intro _
          apply triggers_writeDetectorCommand
          · exact ⟨hOwed, .inr ⟨rfl, rfl⟩⟩
          intro _
          apply triggers_act
          · exact ⟨hOwed, .inr ⟨rfl, rfl, rfl⟩⟩
          exact fun _ => hOwed
      | true =>
          apply (triggers_awaitTrigger hOwed hFound).bind
          rintro g₂ released ⟨hOwed', hSame, hFound', hReleased⟩
          cases released with
          | false => exact ⟨hOwed', hSame.trans hSent⟩
          | true =>
              apply (triggers_writeTrigger hOwed' hFound' hReleased).bind
              rintro g₃ _ ⟨hPaid, hMore⟩
              apply triggers_act
              · exact ⟨hPaid, rfl, .inr rfl⟩
              intro _
              refine ⟨hPaid, ?_⟩
              show g₃.sent = count + 1
              rw [hMore, hSame, hSent]
  | ended => exact hStarts

end Rules

section Acquiring

/-- The loop for acquisitions among all that goes on in the server, and the number of triggers it
has sent since the acquisition was complete. -/
structure Acquiring extends Watched TriggerWatch where
  late : Nat

namespace Acquiring

def start (s : Hearing) : Acquiring := ⟨.start s .woken, 0⟩

/-- The number of triggers after a step to this state, with so many sent in it. -/
def count (late more : Nat) (s : Hearing) : Nat :=
  if s.detector.flags .acquisitionComplete then late + more else 0

/-- The number of triggers that are sent in a step. -/
def sends (w : Acquiring) : WatchedEvent → Nat
  | .loop _ =>
      match w.loop.code .acquisition with
      | .act action _ => if action.isTrigger then 1 else 0
      | _ => 0
  | _ => 0

def step (w : Acquiring) (event : WatchedEvent) : Option Acquiring :=
  (w.toWatched.step TriggerWatch.after .acquisition event).map fun watched =>
    ⟨watched, count w.late (w.sends event) watched.pool.state⟩

/-- The loop has found the acquisition incomplete, and sent no trigger since. -/
def Looked (g : TriggerWatch) : Prop := g.found = .incomplete ∨ g.found = .wanted

instance (g : TriggerWatch) : Decidable (Looked g) := inferInstanceAs (Decidable (_ ∨ _))

/-- The loop keeps to its rules. It has sent one trigger at most since the acquisition was
complete, and none if it is still to send one. -/
structure Timely (w : Acquiring) : Prop where
  rules : w.Obeys .acquisition triggerTracker TriggerWatch.Starts fun _ _ => True
  late : w.late + (if Looked w.watch then 1 else 0) ≤ 1

variable {w w' : Acquiring} {s s' : Hearing} {m : Moment} {late more : Nat}

theorem count_le (late more : Nat) (s : Hearing) : count late more s ≤ late + more := by
  rw [count]
  split_ifs
  · exact le_refl _
  · exact Nat.zero_le _

theorem count_of_incomplete (h : s.detector.flags .acquisitionComplete = false) :
    count late more s = 0 := by
  simp [count, h]

/-- Only a look at the flag can find the acquisition incomplete. -/
theorem looked_after {g : TriggerWatch} {action : Action} {reply : action.Reply}
    (hHear : hear m action s = some (s', reply)) (hLooked : Looked (g.after action reply)) :
    s'.detector.flags .acquisitionComplete = false ∨ Looked g ∧ action.isTrigger = false := by
  cases action with
  | request r =>
      cases hTrigger : r.isTrigger with
      | true => simp [Looked, TriggerWatch.after, TriggerWatch.trigger, hTrigger] at hLooked
      | false =>
          simp only [TriggerWatch.after, hTrigger] at hLooked
          exact .inr ⟨hLooked, hTrigger⟩
  | getFlag flag =>
      cases flag with
      | acquisitionComplete =>
          cases hHear
          cases hComplete : s.detector.flags .acquisitionComplete with
          | false => exact .inl rfl
          | true => simp [Looked, TriggerWatch.after, TriggerWatch.look, hComplete] at hLooked
      | _ => exact .inr ⟨hLooked, rfl⟩
  | setFlag flag value => cases flag <;> exact .inr ⟨hLooked, rfl⟩
  | wait event => cases event <;> exact .inr ⟨hLooked, rfl⟩
  | assignEvent event value =>
      cases event with
      | acquisition => simp [Looked, TriggerWatch.after, TriggerWatch.woken] at hLooked
      | _ => exact .inr ⟨hLooked, rfl⟩
  | getattr name =>
      simp only [TriggerWatch.after] at hLooked
      split_ifs at hLooked with hTriggers hFound
      · exact .inr ⟨.inl hFound, rfl⟩
      · simp [Looked] at hLooked
      · exact .inr ⟨hLooked, rfl⟩
      · exact .inr ⟨hLooked, rfl⟩
  | getTriggerExposure =>
      simp only [TriggerWatch.after] at hLooked
      split at hLooked
      · exact .inr ⟨hLooked, rfl⟩
      · exact .inr ⟨hLooked, rfl⟩
  | _ => exact .inr ⟨hLooked, rfl⟩

/-- A trigger is sent after a look. -/
theorem looked_of_trigger {g : TriggerWatch} {action : Action} (hRule : g.Rule action)
    (hTrigger : action.isTrigger = true) : Looked g := by
  cases action with
  | request r =>
      rcases hRule.2 with ⟨_, hDue⟩ | ⟨rfl, _⟩
      · exact .inr hDue.found
      · cases hTrigger
  | _ => cases hTrigger

theorem Timely.step {event : WatchedEvent} (h : w.Timely) (hStep : w.step event = some w') :
    w'.Timely := by
  obtain ⟨v, hWatched, rfl⟩ := Option.map_eq_some_iff.mp hStep
  refine ⟨h.rules.step (fun _ _ _ => rfl) (fun _ _ => triggers_doAcquisition) hWatched, ?_⟩
  have hLate := h.late
  have hCount := count_le w.late (w.sends event) v.pool.state
  cases event with
  | loop m =>
      obtain ⟨action, next, s', reply, hCode, hHear, rfl⟩ := Watched.loop_cases hWatched
      have hRules := h.rules
      rw [Watched.Obeys, hCode] at hRules
      have hSends : w.sends (.loop m) = if action.isTrigger then 1 else 0 := by
        rw [sends, hCode]
      rw [hSends] at hCount ⊢
      show count w.late _ s' + (if Looked (w.watch.after action reply) then 1 else 0) ≤ 1
      by_cases hLooked : Looked (w.watch.after action reply)
      · rw [if_pos hLooked]
        rcases looked_after hHear hLooked with hIncomplete | ⟨hBefore, hOther⟩
        · rw [count_of_incomplete hIncomplete]
        · rw [hOther] at hCount ⊢
          rw [if_pos hBefore] at hLate
          exact (Nat.add_le_add_right hCount 1).trans hLate
      · rw [if_neg hLooked]
        cases hTrigger : action.isTrigger with
        | true =>
            rw [if_pos (looked_of_trigger hRules.1 hTrigger)] at hLate
            rw [hTrigger] at hCount
            exact hCount.trans hLate
        | false =>
            rw [hTrigger] at hCount
            exact hCount.trans ((Nat.le_add_right _ _).trans hLate)
  | other event =>
      obtain ⟨p, _, rfl⟩ := Option.map_eq_some_iff.mp hWatched
      exact (Nat.add_le_add_right hCount _).trans hLate
  | shutdown =>
      cases hWatched
      exact (Nat.add_le_add_right hCount _).trans hLate

/-- Whatever else goes on in the server, and whatever the detector answers: the loop sends a
trigger only after it has found the acquisition incomplete, more triggers wanted than it has
sent, and nothing to wait for, in the mode that it has read, and pays what that mode owes right
after it; it declares the acquisition complete only after it has found it to be, or enough
triggers sent; and once the acquisition is complete, be it by a stop, one more trigger at most
is sent before the next start. -/
theorem triggers_obey {s : Hearing} {events : List WatchedEvent}
    (hRun : Run step always (start s) events w) :
    w.late ≤ 1 ∧ ∀ action next, w.loop.code .acquisition = .act action next →
      w.watch.Rule action := by
  have hTop : TriggerWatch.woken.Starts .top := rfl
  have hStart : (start s).Timely := ⟨triggers_doAcquisition hTop, Nat.zero_le 1⟩
  have hTimely : w.Timely := hRun.invariant hStart fun _ _ _ hTimely _ hStep => hTimely.step hStep
  refine ⟨(Nat.le_add_right _ _).trans hTimely.late, fun action next hCode => ?_⟩
  have hRules := hTimely.rules
  rw [Watched.Obeys, hCode] at hRules
  exact hRules.1

/-- A detector that takes one trigger, in the mode with an exposure. -/
def oneTrigger (name : String) : Option Json :=
  some (.dict [("value", .int (if name = "ntrigger" then 1
    else (option_config_options.lookup name).elim 0 fun o => o.options.idxOf "inte"))])

/-- An acquisition with one trigger has been started. -/
def sampleStarted : Hearing where
  detector := { initial oneTrigger [] with
    flags := fun flag => flag = .executing
    events := fun event => event = .acquisition }
  heard := []

/-- The loop is about to send its trigger when the acquisition is stopped. Then it sends it, and
reads the exposure. -/
def lateTrigger : List WatchedEvent :=
  List.replicate 9 (.loop sampleMoment) ++
    .other (.spawn (.set sampleTree 1 "command/stop_acquisition" .null)) ::
      List.replicate 2 (.other (.act 0 sampleMoment)) ++ List.replicate 2 (.loop sampleMoment)

theorem late_trigger_sent : ∃ w, Run step always (start sampleStarted) lateTrigger w ∧
    w.pool.state.detector.flags .acquisitionComplete = true ∧ w.late = 1 ∧
    w.watch.mode = some "inte" ∧
    ∀ action next, w.loop.code .acquisition = .act action next → w.watch.Rule action := by
  have hSeen : (exec step (start sampleStarted) lateTrigger).any (fun w =>
      w.pool.state.detector.flags .acquisitionComplete && w.late == 1 &&
        w.watch.mode == some "inte") = true := by
    decide +kernel
  obtain ⟨w, hExec, hLate⟩ := (Option.any_eq_true _ _).mp hSeen
  rw [Bool.and_eq_true, Bool.and_eq_true] at hLate
  have hRun := run_always_iff.mpr hExec
  exact ⟨w, hRun, hLate.1.1, eq_of_beq hLate.1.2, eq_of_beq hLate.2, (triggers_obey hRun).2⟩

end Acquiring

end Acquiring

end Eiger.Server
