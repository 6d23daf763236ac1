import EigerDetector.Library.Transition
import Mathlib.Data.List.Induction

/-! Starting and stopping acquisitions beside the thread which sends the triggers. -/
namespace Eiger.Acquisition

open Transition

inductive TriggerMode where
  | ints
  | inte
  | exts
  | exte
  deriving DecidableEq

/-- The attributes which the calls read and nothing here changes. The exposure is
only passed on and slept for. -/
structure Settings where
  triggerMode : TriggerMode
  ntrigger : Nat
  manualTrigger : Bool
  triggerExposure : UInt64

inductive Caller where
  | acquisition
  | stop
  deriving DecidableEq

/-- What is written to the hardware. -/
inductive Command where
  | nimages (value : Nat)
  | arm
  | trigger (value : Option UInt64)
  | disarm (caller : Caller)
  deriving DecidableEq

/-- The statement `do_acquisition` stands in front of. -/
inductive Point where
  | wait
  | clearEvent
  | zeroTriggers
  | clearTriggerEvent
  | test
  | awaitTrigger
  | trigger
  | sleep
  | increment
  | clearAgain
  | complete
  | disarm
  | disarmed
  | finished
  deriving DecidableEq

/-- The statement that the call in progress stands in front of. -/
inductive CallPoint where
  | idle
  | fetchStale
  | notComplete
  | setNimages
  | arm
  | setEvent
  | armed
  | disarm
  | complete
  | notArmed
  deriving DecidableEq

structure EigerDetector where
  call : CallPoint
  point : Point
  triggers : Nat
  executing : Bool
  acquisitionComplete : Bool
  armed : Bool
  acquisitionEvent : Bool
  triggerEvent : Bool
  commands : List Command
  deriving DecidableEq

inductive Event where
  | startAcquisition
  | stopAcquisition
  | sendTrigger
  | call
  | thread
  deriving DecidableEq

namespace EigerDetector

def initial : EigerDetector where
  call := .idle
  point := .wait
  triggers := 0
  executing := true
  acquisitionComplete := true
  armed := false
  acquisitionEvent := false
  triggerEvent := false
  commands := []

/-- The next statement of `start_acquisition` or `stop_acquisition`. -/
def callStep (settings : Settings) (d : EigerDetector) : Option EigerDetector :=
  match d.call with
  | .idle => none
  | .fetchStale => some { d with call := .notComplete }
  | .notComplete => some { d with call := .setNimages, acquisitionComplete := false }
  | .setNimages =>
      if settings.triggerMode = .inte ∨ settings.triggerMode = .exte then
        some { d with call := .arm, commands := d.commands ++ [.nimages 1] }
      else some { d with call := .arm }
  | .arm => some { d with call := .setEvent, commands := d.commands ++ [.arm] }
  | .setEvent =>
      if settings.triggerMode = .ints ∨ settings.triggerMode = .inte then
        some { d with call := .armed, acquisitionEvent := true }
      else some { d with call := .armed }
  | .armed => some { d with call := .idle, armed := true }
  | .disarm => some { d with call := .complete, commands := d.commands ++ [.disarm .stop] }
  | .complete => some { d with call := .notArmed, acquisitionComplete := true }
  | .notArmed => some { d with call := .idle, armed := false }

/-- The next statement of `do_acquisition`. Waiting for an event ends at once if it is
set, and with a timeout if it is not. -/
def threadStep (settings : Settings) (d : EigerDetector) : Option EigerDetector :=
  match d.point with
  | .wait =>
      if d.executing then
        if d.acquisitionEvent then some { d with point := .clearEvent } else some d
      else some { d with point := .finished }
  | .clearEvent => some { d with point := .zeroTriggers, acquisitionEvent := false }
  | .zeroTriggers => some { d with point := .clearTriggerEvent, triggers := 0 }
  | .clearTriggerEvent => some { d with point := .test, triggerEvent := false }
  | .test =>
      if d.acquisitionComplete = false ∧ d.triggers < settings.ntrigger then
        some { d with point := .awaitTrigger }
      else some { d with point := .complete }
  | .awaitTrigger =>
      let doTrigger := if settings.manualTrigger then d.triggerEvent else true
      some { d with point := if doTrigger then .trigger else .test }
  | .trigger =>
      if settings.triggerMode = .inte then
        some { d with
          point := .sleep
          commands := d.commands ++ [.trigger (some settings.triggerExposure)] }
      else some { d with point := .increment, commands := d.commands ++ [.trigger none] }
  | .sleep => some { d with point := .increment }
  | .increment => some { d with point := .clearAgain, triggers := d.triggers + 1 }
  | .clearAgain => some { d with point := .test, triggerEvent := false }
  | .complete => some { d with point := .disarm, acquisitionComplete := true }
  | .disarm =>
      some { d with point := .disarmed, commands := d.commands ++ [.disarm .acquisition] }
  | .disarmed => some { d with point := .wait, armed := false }
  | .finished => none

/-- Calls do not overlap. -/
def step (settings : Settings) (d : EigerDetector) : Event → Option EigerDetector
  | .startAcquisition => if d.call = .idle then some { d with call := .fetchStale } else none
  | .stopAcquisition => if d.call = .idle then some { d with call := .disarm } else none
  | .sendTrigger => some { d with triggerEvent := true }
  | .call => d.callStep settings
  | .thread => d.threadStep settings

/-- How many triggers the thread has written since it has last woken up. -/
def sent (d : EigerDetector) : Nat :=
  match d.point with
  | .wait | .clearEvent | .zeroTriggers | .disarmed | .finished => 0
  | .sleep | .increment => d.triggers + 1
  | _ => d.triggers

/-- The thread leaves its loop, and its disarm is still to come. -/
def Leaving (d : EigerDetector) : Prop := d.point = .complete ∨ d.point = .disarm

instance (d : EigerDetector) : Decidable d.Leaving := inferInstanceAs (Decidable (_ ∨ _))

/-- The arm command is written while the thread has no trigger sent and is not about to
disarm, and while nothing has completed the acquisition that is being started. -/
def Undisturbed (d : EigerDetector) (event : Event) : Prop :=
  event = .call → d.call = .arm →
    d.acquisitionComplete = false ∧ d.sent = 0 ∧ ¬ d.Leaving

instance (d : EigerDetector) (event : Event) : Decidable (d.Undisturbed event) :=
  inferInstanceAs (Decidable (_ → _))

end EigerDetector

def Command.isDisarm : Command → Bool
  | .disarm _ => true
  | _ => false

def Command.isTrigger : Command → Bool
  | .trigger _ => true
  | _ => false

/-- Between an arm and the next disarm there are all the triggers, unless that disarm
is the one of a stop. -/
def FullTriggers (ntrigger : Nat) (commands : List Command) : Prop :=
  ∀ before between after,
    commands = before ++ .arm :: (between ++ .disarm .acquisition :: after) →
    (∀ c ∈ between, c.isDisarm = false) → between.countP Command.isTrigger = ntrigger

/-- An arm has no disarm after it. -/
def Open (commands : List Command) : Prop :=
  ∃ before between, commands = before ++ .arm :: between ∧ ∀ c ∈ between, c.isDisarm = false

/-- Left alone, the thread writes its disarm, with no other disarm before. -/
def Finishes (settings : Settings) (d : EigerDetector) : Prop :=
  ∃ n d' between, exec (EigerDetector.step settings) d (List.replicate n .thread) = some d' ∧
    d'.commands = d.commands ++ between ++ [.disarm .acquisition] ∧
    ∀ c ∈ between, c.isDisarm = false

/-- The promise: triggers are complete where there was a disarm, and where there was
none since an arm, the thread comes to one. -/
structure Served (settings : Settings) (d : EigerDetector) : Prop where
  full : FullTriggers settings.ntrigger d.commands
  finishes : d.call = .idle → Open d.commands → Finishes settings d

/-- For each arm without a disarm after it, how many triggers came after it. -/
def sinceArm (commands : List Command) : List Nat :=
  commands.foldl (fun counts command =>
    match command with
    | .nimages _ => counts
    | .arm => counts ++ [0]
    | .trigger _ => counts.map (· + 1)
    | .disarm _ => []) []

@[simp] theorem sinceArm_nimages (commands : List Command) (value : Nat) :
    sinceArm (commands ++ [.nimages value]) = sinceArm commands := by
  simp [sinceArm]

@[simp] theorem sinceArm_arm (commands : List Command) :
    sinceArm (commands ++ [.arm]) = sinceArm commands ++ [0] := by
  simp [sinceArm]

@[simp] theorem sinceArm_trigger (commands : List Command) (value : Option UInt64) :
    sinceArm (commands ++ [.trigger value]) = (sinceArm commands).map (· + 1) := by
  simp [sinceArm]

@[simp] theorem sinceArm_disarm (commands : List Command) (caller : Caller) :
    sinceArm (commands ++ [.disarm caller]) = [] := by
  simp [sinceArm]

theorem mem_sinceArm (before : List Command) {between : List Command}
    (h : ∀ c ∈ between, c.isDisarm = false) :
    between.countP Command.isTrigger ∈ sinceArm (before ++ .arm :: between) := by
  induction between using List.reverseRecOn with
  | nil => simp
  | append_singleton between c ih =>
      have hEarlier := ih fun c' hMember => h c' (List.mem_append_left _ hMember)
      have hLast := h c (List.mem_append_right _ List.mem_cons_self)
      rw [← List.cons_append, ← List.append_assoc, List.countP_append]
      cases c with
      | nimages value =>
          rw [sinceArm_nimages]
          exact hEarlier
      | arm =>
          rw [sinceArm_arm]
          exact List.mem_append_left _ hEarlier
      | trigger value =>
          rw [sinceArm_trigger]
          exact List.mem_map.mpr ⟨_, hEarlier, rfl⟩
      | disarm caller => cases hLast

theorem Open.sinceArm_ne_nil {commands : List Command} (h : Open commands) :
    sinceArm commands ≠ [] := by
  obtain ⟨before, between, rfl, hBetween⟩ := h
  exact List.ne_nil_of_mem (mem_sinceArm before hBetween)

/-- A command concerns the earlier ones only if it is the disarm of the thread. -/
theorem FullTriggers.concat {ntrigger : Nat} {commands : List Command} {c : Command}
    (h : FullTriggers ntrigger commands)
    (hDisarm : c = .disarm .acquisition → ∀ k ∈ sinceArm commands, k = ntrigger) :
    FullTriggers ntrigger (commands ++ [c]) := by
  intro before between after hSplit hBetween
  rcases List.eq_nil_or_concat after with rfl | ⟨after, last, rfl⟩
  · have hEnd : commands ++ [c] = (before ++ .arm :: between) ++ [.disarm .acquisition] := by
      rw [hSplit]
      simp
    obtain ⟨rfl, hLast⟩ := List.append_inj' hEnd rfl
    exact hDisarm (List.cons.inj hLast).1 _ (mem_sinceArm before hBetween)
  · have hEnd : commands ++ [c] =
        (before ++ .arm :: (between ++ .disarm .acquisition :: after)) ++ [last] := by
      rw [hSplit]
      simp
    exact h before between after (List.append_inj' hEnd rfl).1 hBetween

/-- While an arm is open, its triggers are those the thread has sent; the thread leaves
its loop only with all of them sent, and nothing else can make it leave. -/
structure Ordered (settings : Settings) (d : EigerDetector) : Prop where
  full : FullTriggers settings.ntrigger d.commands
  sent : ∀ k ∈ sinceArm d.commands, k = d.sent
  leaving : sinceArm d.commands ≠ [] → d.Leaving → d.triggers = settings.ntrigger
  running : sinceArm d.commands ≠ [] → ¬ d.Leaving → d.acquisitionComplete = false
  bound : d.sent ≤ settings.ntrigger
  next : d.point = .awaitTrigger ∨ d.point = .trigger → d.triggers < settings.ntrigger
  stopping : d.call = .complete → sinceArm d.commands = []
  waking : sinceArm d.commands ≠ [] → d.point = .wait ∨ d.point = .disarmed →
    d.acquisitionEvent = true ∨ d.call = .setEvent
  alive : d.executing = true ∧ d.point ≠ .finished

variable {settings : Settings} {d d' : EigerDetector}

theorem Ordered.initial (settings : Settings) : Ordered settings .initial where
  full := by
    intro before between after hSplit
    cases before <;> cases hSplit
  sent := nofun
  leaving := by nofun
  running hOpen := absurd rfl hOpen
  bound := Nat.zero_le _
  next := by nofun
  stopping _ := rfl
  waking hOpen := absurd rfl hOpen
  alive := ⟨rfl, nofun⟩

/-- A statement which writes no command. -/
theorem Ordered.move (h : Ordered settings d) (hCommands : d'.commands = d.commands)
    (hAlive : d'.executing = true ∧ d'.point ≠ .finished)
    (hSent : sinceArm d.commands ≠ [] → d'.sent = d.sent)
    (hLeaving : sinceArm d.commands ≠ [] → d'.Leaving → d'.triggers = settings.ntrigger)
    (hRunning : sinceArm d.commands ≠ [] → ¬ d'.Leaving → d'.acquisitionComplete = false)
    (hBound : d'.sent ≤ settings.ntrigger)
    (hNext : d'.point = .awaitTrigger ∨ d'.point = .trigger → d'.triggers < settings.ntrigger)
    (hStopping : d'.call = .complete → sinceArm d.commands = [])
    (hWaking : sinceArm d.commands ≠ [] → d'.point = .wait ∨ d'.point = .disarmed →
      d'.acquisitionEvent = true ∨ d'.call = .setEvent) : Ordered settings d' where
  full := by
    rw [hCommands]
    exact h.full
  sent := by
    rw [hCommands]
    intro k hMember
    rw [hSent (List.ne_nil_of_mem hMember)]
    exact h.sent k hMember
  leaving := by
    rw [hCommands]
    exact hLeaving
  running := by
    rw [hCommands]
    exact hRunning
  bound := hBound
  next := hNext
  stopping := by
    rw [hCommands]
    exact hStopping
  waking := by
    rw [hCommands]
    exact hWaking
  alive := hAlive

theorem Ordered.trigger (h : Ordered settings d) {value : Option UInt64} {point : Point}
    (hPoint : d.point = .trigger) (hNext : point = .sleep ∨ point = .increment) :
    Ordered settings { d with
      point := point, commands := d.commands ++ [.trigger value] } := by
  have hOpen : (sinceArm d.commands).map (· + 1) ≠ [] → sinceArm d.commands ≠ [] := fun hMap hNil =>
    hMap (by rw [hNil]; rfl)
  have hBefore : d.sent = d.triggers := by simp [EigerDetector.sent, hPoint]
  have hAfter : ∀ d' : EigerDetector, d'.point = point → d'.sent = d'.triggers + 1 := by
    rintro d' rfl
    rcases hNext with hPoint | hPoint <;> simp [EigerDetector.sent, hPoint]
  have hStays : ¬ d.Leaving := by simp [EigerDetector.Leaving, hPoint]
  have hLess := h.next (.inr hPoint)
  refine ⟨h.full.concat nofun, ?_, ?_, ?_, ?_, ?_, ?_, ?_, h.alive.1, ?_⟩
  · intro k hMember
    rw [sinceArm_trigger] at hMember
    obtain ⟨k, hOld, rfl⟩ := List.mem_map.mp hMember
    rw [hAfter _ rfl, h.sent k hOld, hBefore]
  · rintro _ (hBad | hBad) <;> rcases hNext with rfl | rfl <;> cases hBad
  · rw [sinceArm_trigger]
    exact fun hMap _ => h.running (hOpen hMap) hStays
  · rw [hAfter _ rfl]
    exact hLess
  · rintro (hBad | hBad) <;> rcases hNext with rfl | rfl <;> cases hBad
  · intro hCall
    rw [sinceArm_trigger, h.stopping hCall]
    rfl
  · rintro _ (hBad | hBad) <;> rcases hNext with rfl | rfl <;> cases hBad
  · rcases hNext with rfl | rfl <;> nofun

/-- The disarm of the thread finds all triggers sent. -/
theorem Ordered.disarm (h : Ordered settings d) (hPoint : d.point = .disarm) :
    Ordered settings { d with
      point := .disarmed, commands := d.commands ++ [.disarm .acquisition] } := by
  have hSent : d.sent = d.triggers := by simp [EigerDetector.sent, hPoint]
  have hAll : ∀ k ∈ sinceArm d.commands, k = settings.ntrigger := by
    intro k hMember
    rw [h.sent k hMember, hSent, h.leaving (List.ne_nil_of_mem hMember) (.inr hPoint)]
  refine ⟨h.full.concat fun _ => hAll, ?_, ?_, ?_, Nat.zero_le _, ?_, ?_, ?_, h.alive.1, nofun⟩
  · simp
  · simp
  · simp
  · rintro (hBad | hBad) <;> cases hBad
  · simp
  · simp

theorem Ordered.thread (h : Ordered settings d) (hManual : settings.manualTrigger = false)
    (hStep : d.threadStep settings = some d') : Ordered settings d' := by
  have hLeaving := h.leaving
  have hRunning := h.running
  have hBound := h.bound
  have hNext := h.next
  have hStopping := h.stopping
  have hWaking := h.waking
  have hExecuting := h.alive.1
  unfold EigerDetector.sent at hBound
  unfold EigerDetector.Leaving at hLeaving hRunning
  cases hPoint : d.point with
  | wait =>
      simp only [EigerDetector.threadStep, hPoint] at hStep
      rw [if_pos hExecuting] at hStep
      split at hStep
      · cases hStep
        refine h.move rfl ⟨hExecuting, nofun⟩ ?_ ?_ ?_ ?_ ?_ ?_ ?_ <;>
          grind [EigerDetector.sent, EigerDetector.Leaving]
      · cases hStep
        exact h
  | clearEvent | zeroTriggers | clearTriggerEvent | sleep | increment | clearAgain | complete
    | disarmed =>
      simp only [EigerDetector.threadStep, hPoint] at hStep
      cases hStep
      refine h.move rfl ⟨hExecuting, nofun⟩ ?_ ?_ ?_ ?_ ?_ ?_ ?_ <;>
        grind [EigerDetector.sent, EigerDetector.Leaving]
  | test =>
      simp only [EigerDetector.threadStep, hPoint] at hStep
      -- with an arm open only the number of triggers ends the loop
      split at hStep <;> cases hStep <;>
        refine h.move rfl ⟨hExecuting, nofun⟩ ?_ ?_ ?_ ?_ ?_ ?_ ?_ <;>
        grind [EigerDetector.sent, EigerDetector.Leaving]
  | awaitTrigger =>
      simp only [EigerDetector.threadStep, hPoint, hManual] at hStep
      cases hStep
      refine h.move rfl ⟨hExecuting, nofun⟩ ?_ ?_ ?_ ?_ ?_ ?_ ?_ <;>
        grind [EigerDetector.sent, EigerDetector.Leaving]
  | trigger =>
      simp only [EigerDetector.threadStep, hPoint] at hStep
      split at hStep
      · cases hStep
        exact h.trigger hPoint (.inl rfl)
      · cases hStep
        exact h.trigger hPoint (.inr rfl)
  | disarm =>
      simp only [EigerDetector.threadStep, hPoint] at hStep
      cases hStep
      exact h.disarm hPoint
  | finished =>
      simp only [EigerDetector.threadStep, hPoint] at hStep
      cases hStep

/-- An arm that is not disturbed opens with no trigger sent. -/
theorem Ordered.arm (h : Ordered settings d) (hComplete : d.acquisitionComplete = false)
    (hSent : d.sent = 0) (hStays : ¬ d.Leaving) :
    Ordered settings { d with call := .setEvent, commands := d.commands ++ [.arm] } := by
  refine ⟨h.full.concat nofun, ?_, ?_, ?_, h.bound, h.next, nofun, fun _ _ => .inr rfl,
    h.alive⟩
  · intro k hMember
    rw [sinceArm_arm] at hMember
    rcases List.mem_append.mp hMember with hOld | hNew
    · exact h.sent k hOld
    · rw [List.mem_singleton.mp hNew]
      exact hSent.symm
  · exact fun _ hLeaving => absurd hLeaving hStays
  · exact fun _ _ => hComplete

theorem Ordered.call (h : Ordered settings d)
    (hMode : settings.triggerMode = .ints ∨ settings.triggerMode = .inte)
    (hUndisturbed : d.Undisturbed .call) (hStep : d.callStep settings = some d') :
    Ordered settings d' := by
  have hRunning := h.running
  have hStopping := h.stopping
  have hWaking := h.waking
  cases hCall : d.call with
  | idle =>
      simp only [EigerDetector.callStep, hCall] at hStep
      cases hStep
  | fetchStale | notComplete | armed | complete | notArmed =>
      simp only [EigerDetector.callStep, hCall] at hStep
      cases hStep
      refine h.move rfl h.alive (fun _ => rfl) h.leaving ?_ h.bound h.next ?_ ?_ <;>
        grind [EigerDetector.Leaving]
  | setNimages =>
      simp only [EigerDetector.callStep, hCall] at hStep
      split at hStep
      · cases hStep
        refine ⟨h.full.concat nofun, ?_, ?_, ?_, h.bound, h.next, nofun, ?_, h.alive⟩ <;>
          rw [sinceArm_nimages]
        · exact h.sent
        · exact h.leaving
        · exact h.running
        · intro hOpen hPoint
          exact .inl ((hWaking hOpen hPoint).resolve_right (by rw [hCall]; nofun))
      · cases hStep
        refine h.move rfl h.alive (fun _ => rfl) h.leaving h.running h.bound h.next nofun ?_
        exact fun hOpen hPoint => .inl ((hWaking hOpen hPoint).resolve_right (by rw [hCall]; nofun))
  | arm =>
      simp only [EigerDetector.callStep, hCall] at hStep
      cases hStep
      obtain ⟨hComplete, hSent, hStays⟩ := hUndisturbed rfl hCall
      exact h.arm hComplete hSent hStays
  | setEvent =>
      simp only [EigerDetector.callStep, hCall] at hStep
      rw [if_pos hMode] at hStep
      cases hStep
      exact h.move rfl h.alive (fun _ => rfl) h.leaving h.running h.bound h.next nofun
        fun _ _ => .inl rfl
  | disarm =>
      simp only [EigerDetector.callStep, hCall] at hStep
      cases hStep
      refine ⟨h.full.concat nofun, ?_, ?_, ?_, h.bound, h.next, ?_, ?_, h.alive⟩ <;> simp

theorem Ordered.step {event : Event} (h : Ordered settings d)
    (hMode : settings.triggerMode = .ints ∨ settings.triggerMode = .inte)
    (hManual : settings.manualTrigger = false) (hUndisturbed : d.Undisturbed event)
    (hStep : d.step settings event = some d') : Ordered settings d' := by
  have hWaking := h.waking
  cases event with
  | startAcquisition | stopAcquisition =>
      rw [EigerDetector.step] at hStep
      split at hStep
      · next hIdle =>
          cases hStep
          refine h.move rfl h.alive (fun _ => rfl) h.leaving h.running h.bound h.next nofun ?_
          exact fun hOpen hPoint => .inl ((hWaking hOpen hPoint).resolve_right
            (by rw [hIdle]; nofun))
      · cases hStep
  | sendTrigger =>
      cases hStep
      exact h.move rfl h.alive (fun _ => rfl) h.leaving h.running h.bound h.next h.stopping h.waking
  | call => exact h.call hMode hUndisturbed hStep
  | thread => exact h.thread hManual hStep

theorem Finishes.of_step (h : Finishes settings d') {added : List Command}
    (hStep : d.threadStep settings = some d') (hCommands : d'.commands = d.commands ++ added)
    (hAdded : ∀ c ∈ added, c.isDisarm = false) : Finishes settings d := by
  obtain ⟨n, last, between, hExec, hLast, hBetween⟩ := h
  refine ⟨n + 1, last, added ++ between, ?_, ?_, ?_⟩
  · rw [List.replicate_succ, exec, EigerDetector.step, hStep, Option.bind_some, hExec]
  · rw [hLast, hCommands, List.append_assoc d.commands]
  · intro c hMember
    rcases List.mem_append.mp hMember with hNow | hLater
    · exact hAdded c hNow
    · exact hBetween c hLater

/-- A statement without a command. -/
theorem Finishes.of_quiet (h : Finishes settings d') (hStep : d.threadStep settings = some d')
    (hCommands : d'.commands = d.commands) : Finishes settings d :=
  h.of_step hStep (hCommands.trans (List.append_nil _).symm) nofun

theorem finishes_of_complete (hPoint : d.point = .complete ∨ d.point = .disarm) :
    Finishes settings d := by
  have hDisarm : ∀ d : EigerDetector, d.point = .disarm → Finishes settings d := by
    intro d hPoint
    refine ⟨1, { d with point := .disarmed, commands := d.commands ++ [.disarm .acquisition] }, [],
      ?_, by rw [List.append_nil], nofun⟩
    simp only [List.replicate_one, exec, EigerDetector.step, EigerDetector.threadStep, hPoint]
    rfl
  rcases hPoint with hPoint | hPoint
  · refine (hDisarm { d with point := .disarm, acquisitionComplete := true } rfl).of_quiet ?_ rfl
    simp only [EigerDetector.threadStep, hPoint]
  · exact hDisarm d hPoint

/-- The rest of an iteration leads back to the test of the loop. -/
theorem finishes_of_increment (hPoint : d.point = .increment)
    (h : Finishes settings
      { d with point := .test, triggers := d.triggers + 1, triggerEvent := false }) :
    Finishes settings d := by
  have hClear : Finishes settings
      { d with point := .clearAgain, triggers := d.triggers + 1 } := h.of_quiet rfl rfl
  refine hClear.of_quiet ?_ rfl
  simp only [EigerDetector.threadStep, hPoint]

/-- A trigger is written, and the thread comes back to the test. -/
theorem finishes_of_trigger (hPoint : d.point = .trigger)
    (h : ∀ d' : EigerDetector, d'.point = .test → d'.triggers = d.triggers + 1 →
      Finishes settings d') : Finishes settings d := by
  by_cases hMode : settings.triggerMode = .inte
  · have hSleep : Finishes settings { d with
        point := .sleep
        commands := d.commands ++ [.trigger (some settings.triggerExposure)] } := by
      have hIncrement : Finishes settings { d with
          point := .increment
          commands := d.commands ++ [.trigger (some settings.triggerExposure)] } :=
        finishes_of_increment rfl (h _ rfl rfl)
      exact hIncrement.of_quiet rfl rfl
    refine hSleep.of_step ?_ rfl (by simp [Command.isDisarm])
    simp only [EigerDetector.threadStep, hPoint]
    exact if_pos hMode
  · have hIncrement : Finishes settings
        { d with point := .increment, commands := d.commands ++ [.trigger none] } :=
      finishes_of_increment rfl (h _ rfl rfl)
    refine hIncrement.of_step ?_ rfl (by simp [Command.isDisarm])
    simp only [EigerDetector.threadStep, hPoint]
    exact if_neg hMode

theorem finishes_of_await (hManual : settings.manualTrigger = false)
    (hPoint : d.point = .awaitTrigger)
    (h : ∀ d' : EigerDetector, d'.point = .test → d'.triggers = d.triggers + 1 →
      Finishes settings d') : Finishes settings d := by
  have hTrigger : Finishes settings { d with point := .trigger } := finishes_of_trigger rfl h
  refine hTrigger.of_quiet ?_ rfl
  simp only [EigerDetector.threadStep, hPoint, hManual]
  rfl

/-- The loop ends: each iteration leaves one trigger less to send. -/
theorem finishes_of_test (hManual : settings.manualTrigger = false) (hPoint : d.point = .test) :
    Finishes settings d := by
  induction hLeft : settings.ntrigger - d.triggers generalizing d with
  | zero =>
      have hComplete : Finishes settings { d with point := .complete } :=
        finishes_of_complete (.inl rfl)
      refine hComplete.of_quiet ?_ rfl
      simp only [EigerDetector.threadStep, hPoint]
      exact if_neg fun hMore => by omega
  | succ k ih =>
      by_cases hMore : d.acquisitionComplete = false ∧ d.triggers < settings.ntrigger
      · have hAwait : Finishes settings { d with point := .awaitTrigger } :=
          finishes_of_await hManual rfl fun d' hTest hTriggers =>
            ih hTest (by rw [hTriggers]; dsimp only; omega)
        refine hAwait.of_quiet ?_ rfl
        simp only [EigerDetector.threadStep, hPoint]
        exact if_pos hMore
      · have hComplete : Finishes settings { d with point := .complete } :=
          finishes_of_complete (.inl rfl)
        refine hComplete.of_quiet ?_ rfl
        simp only [EigerDetector.threadStep, hPoint]
        exact if_neg hMore

theorem finishes_of_woken (hManual : settings.manualTrigger = false)
    (hPoint : d.point = .clearEvent ∨ d.point = .zeroTriggers ∨ d.point = .clearTriggerEvent) :
    Finishes settings d := by
  have hThird : ∀ d : EigerDetector, d.point = .clearTriggerEvent → Finishes settings d := by
    intro d hPoint
    have hTest : Finishes settings { d with point := .test, triggerEvent := false } :=
      finishes_of_test hManual rfl
    refine hTest.of_quiet ?_ rfl
    simp only [EigerDetector.threadStep, hPoint]
  have hSecond : ∀ d : EigerDetector, d.point = .zeroTriggers → Finishes settings d := by
    intro d hPoint
    refine (hThird { d with point := .clearTriggerEvent, triggers := 0 } rfl).of_quiet ?_ rfl
    simp only [EigerDetector.threadStep, hPoint]
  rcases hPoint with hPoint | hPoint | hPoint
  · have hZero := hSecond { d with point := .zeroTriggers, acquisitionEvent := false } rfl
    refine hZero.of_quiet ?_ rfl
    simp only [EigerDetector.threadStep, hPoint]
  · exact hSecond d hPoint
  · exact hThird d hPoint

/-- A thread that is awake, or whose event is set, comes to its disarm. -/
theorem finishes_of_awake (hManual : settings.manualTrigger = false)
    (hAlive : d.executing = true ∧ d.point ≠ .finished)
    (hEvent : d.point = .wait ∨ d.point = .disarmed → d.acquisitionEvent = true) :
    Finishes settings d := by
  have hWait : ∀ d : EigerDetector, d.point = .wait → d.executing = true →
      d.acquisitionEvent = true → Finishes settings d := by
    intro d hPoint hExecuting hSet
    have hWoken : Finishes settings { d with point := .clearEvent } :=
      finishes_of_woken hManual (.inl rfl)
    refine hWoken.of_quiet ?_ rfl
    simp only [EigerDetector.threadStep, hPoint]
    rw [if_pos hExecuting, if_pos hSet]
  cases hPoint : d.point with
  | wait => exact hWait d hPoint hAlive.1 (hEvent (.inl hPoint))
  | clearEvent => exact finishes_of_woken hManual (.inl hPoint)
  | zeroTriggers => exact finishes_of_woken hManual (.inr (.inl hPoint))
  | clearTriggerEvent => exact finishes_of_woken hManual (.inr (.inr hPoint))
  | test => exact finishes_of_test hManual hPoint
  | awaitTrigger =>
      exact finishes_of_await hManual hPoint fun _ hTest _ => finishes_of_test hManual hTest
  | trigger => exact finishes_of_trigger hPoint fun _ hTest _ => finishes_of_test hManual hTest
  | sleep =>
      have hIncrement : Finishes settings { d with point := .increment } :=
        finishes_of_increment rfl (finishes_of_test hManual rfl)
      refine hIncrement.of_quiet ?_ rfl
      simp only [EigerDetector.threadStep, hPoint]
  | increment => exact finishes_of_increment hPoint (finishes_of_test hManual rfl)
  | clearAgain =>
      have hTest : Finishes settings { d with point := .test, triggerEvent := false } :=
        finishes_of_test hManual rfl
      refine hTest.of_quiet ?_ rfl
      simp only [EigerDetector.threadStep, hPoint]
  | complete => exact finishes_of_complete (.inl hPoint)
  | disarm => exact finishes_of_complete (.inr hPoint)
  | disarmed =>
      have hNext : Finishes settings { d with point := .wait, armed := false } :=
        hWait _ rfl hAlive.1 (hEvent (.inr hPoint))
      refine hNext.of_quiet ?_ rfl
      simp only [EigerDetector.threadStep, hPoint]
  | finished => exact absurd hPoint hAlive.2

/-- In a run whose arms find the thread idle, or in a pass in which it has sent nothing
yet, each acquisition gets its triggers: all of them before the disarm of the thread,
which is sure to come when no stop forestalls it. -/
theorem full_triggers_of_undisturbed {events : List Event}
    (hMode : settings.triggerMode = .ints ∨ settings.triggerMode = .inte)
    (hManual : settings.manualTrigger = false)
    (hRun : Run (EigerDetector.step settings) EigerDetector.Undisturbed .initial events d) :
    Served settings d := by
  have hOrdered : Ordered settings d :=
    hRun.invariant (.initial settings) fun _ _ _ h hUndisturbed hStep =>
      h.step hMode hManual hUndisturbed hStep
  refine ⟨hOrdered.full, fun hIdle hOpen => finishes_of_awake hManual hOrdered.alive ?_⟩
  intro hPoint
  refine (hOrdered.waking hOpen.sinceArm_ne_nil hPoint).resolve_right ?_
  rw [hIdle]
  nofun

def sampleSettings : Settings := ⟨.ints, 2, false, 0⟩

/-- All statements of a start. -/
def startCall : List Event := .startAcquisition :: List.replicate 6 .call

/-- All statements of a stop. -/
def stopCall : List Event := .stopAcquisition :: List.replicate 3 .call

theorem full_triggers_sample : ∃ d, d.commands = [.arm, .trigger none, .trigger none] ∧
    Served sampleSettings d := by
  have hExec : (exec (guarded (EigerDetector.step sampleSettings) EigerDetector.Undisturbed)
      .initial (startCall ++ List.replicate 13 .thread)).map (fun d => d.commands) =
      some [.arm, .trigger none, .trigger none] := by
    decide +kernel
  obtain ⟨d, hRun, hCommands⟩ := Option.map_eq_some_iff.mp hExec
  exact ⟨d, hCommands, full_triggers_of_undisturbed (.inl rfl) rfl (run_iff_exec_guarded.mpr hRun)⟩

/-- A stop and a start while the thread clears its event after the first trigger: it
goes on with the loop of the acquisition that was stopped. -/
def leakedLoop : List Event :=
  startCall ++ List.replicate 8 .thread ++ stopCall ++ startCall ++ List.replicate 9 .thread

theorem leakedLoop_commands : (exec (EigerDetector.step sampleSettings) .initial leakedLoop).map
    (fun d => d.commands) = some [.arm, .trigger none, .disarm .stop, .arm, .trigger none,
      .disarm .acquisition] := by
  decide +kernel

theorem triggers_not_always_full : ¬ ∀ (settings : Settings) (events : List Event)
    (d : EigerDetector), settings.triggerMode = .ints ∨ settings.triggerMode = .inte →
    1 ≤ settings.ntrigger → settings.manualTrigger = false →
    exec (EigerDetector.step settings) .initial events = some d → Served settings d := by
  intro hClaim
  obtain ⟨d, hExec, hCommands⟩ := Option.map_eq_some_iff.mp leakedLoop_commands
  have hServed := hClaim sampleSettings leakedLoop d (.inl rfl) (by decide) rfl hExec
  have hFull := hServed.full [.arm, .trigger none, .disarm .stop] [.trigger none] [] hCommands
    (by decide)
  revert hFull
  decide

end Eiger.Acquisition
