import EigerDetector.Control.Served

/-! A reset of the high voltage, as the detector sees it: which commands come, and when,
whatever else goes on in the server. -/
namespace Eiger.Server

open Threads Transition

section Watching

/-- The loop of a thread among all that goes on in the server at the same time, with what was
seen of it: any number of requests, iterations of loops and status polls. -/
structure Watched (Watch : Type) where
  pool : Pool Hearing Action Action.Reply PyException
  loop : Stage
  watch : Watch

inductive WatchedEvent where
  | other (event : PoolEvent Moment Work)
  | loop (m : Moment)
  | shutdown

/-- `shutdown`. -/
def Hearing.shutdown (s : Hearing) : Hearing :=
  { s with detector := { s.detector with
      flags := Function.update s.detector.flags .executing false } }

namespace Watched

variable {Watch : Type} (after : Watch → (action : Action) → action.Reply → Watch) (t : Thread)

def start (s : Hearing) (watch : Watch) : Watched Watch := ⟨⟨s, []⟩, .start .top, watch⟩

def step (w : Watched Watch) : WatchedEvent → Option (Watched Watch)
  | .other event => (w.pool.step hear Work.code event).map fun p => { w with pool := p }
  | .loop m =>
      match w.loop.code t with
      | .act action next => (hear m action w.pool.state).map fun answered =>
          { pool := { w.pool with state := answered.1 }
            loop := .of (next answered.2)
            watch := after w.watch action answered.2 }
      | _ => none
  | .shutdown => some { w with pool := { w.pool with state := w.pool.state.shutdown } }

variable {after t} {tracker : Tracker Action Action.Reply Watch} {starts : Watch → Point → Prop}
variable {failed : Watch → PyException → Prop} {w w' : Watched Watch}

/-- The thread has still to do what its tracker permits. -/
def Obeys (t : Thread) (tracker : Tracker Action Action.Reply Watch)
    (starts : Watch → Point → Prop) (failed : Watch → PyException → Prop) (w : Watched Watch) :
    Prop :=
  (w.loop.code t).Tracked tracker starts failed w.watch

/-- What a step of the loop does. -/
theorem loop_cases {m : Moment} (hStep : w.step after t (.loop m) = some w') :
    ∃ action next s' reply, w.loop.code t = .act action next ∧
      hear m action w.pool.state = some (s', reply) ∧
      w' = ⟨{ w.pool with state := s' }, .of (next reply), after w.watch action reply⟩ := by
  rw [step] at hStep
  cases hCode : w.loop.code t with
  | done point => simp [hCode] at hStep
  | fail e => simp [hCode] at hStep
  | act action next =>
      simp only [hCode] at hStep
      obtain ⟨⟨s', reply⟩, hHear, rfl⟩ := Option.map_eq_some_iff.mp hStep
      exact ⟨action, next, s', reply, rfl, hHear, rfl⟩

/-- Code that has returned goes on with the loop. -/
theorem tracked_of {g : Watch} {rest : Code Point} (h : rest.Tracked tracker starts failed g)
    (hLoop : ∀ point g, starts g point → (t.code point).Tracked tracker starts failed g) :
    ((Stage.of rest).code t).Tracked tracker starts failed g := by
  cases rest with
  | done point => exact hLoop point g h
  | fail e => exact h
  | act action next => exact h

/-- What other parts of the server do is of no account. -/
theorem Obeys.step {event : WatchedEvent} (h : w.Obeys t tracker starts failed)
    (hAfter : ∀ g action reply, tracker.follows g action reply (after g action reply))
    (hLoop : ∀ point g, starts g point → (t.code point).Tracked tracker starts failed g)
    (hStep : w.step after t event = some w') : w'.Obeys t tracker starts failed := by
  cases event with
  | other event =>
      obtain ⟨p, _, rfl⟩ := Option.map_eq_some_iff.mp hStep
      exact h
  | loop m =>
      obtain ⟨action, next, s', reply, hCode, _, rfl⟩ := loop_cases hStep
      rw [Obeys, hCode] at h
      exact tracked_of (h.2 reply _ (hAfter w.watch action reply)) hLoop
  | shutdown =>
      cases hStep
      exact h

/-- In every run of the server the thread does what its tracker permits, if each iteration of
its loop does. -/
theorem obeys_of_run {events : List WatchedEvent} (h : w.Obeys t tracker starts failed)
    (hAfter : ∀ g action reply, tracker.follows g action reply (after g action reply))
    (hLoop : ∀ point g, starts g point → (t.code point).Tracked tracker starts failed g)
    (hRun : Run (step after t) always w events w') : w'.Obeys t tracker starts failed :=
  hRun.invariant h fun _ _ _ hObeys _ hStep => hObeys.step hAfter hLoop hStep

end Watched

end Watching

/-- The state of the high voltage is the one a reset waits for. -/
def isReady (value : Json) : Bool :=
  match value.subscript "value" with
  | .ok state => state.isStr "READY"
  | .error _ => false

def isCdte (value : Json) : Bool :=
  match value.subscript "value" >>= lower with
  | .ok name => name = "cdte"
  | .error _ => false

def secondsOf : Json → Nat
  | .int n => n.toNat
  | _ => 0

/-- What the last action was, as far as a reset goes by it. -/
inductive HvSeen where
  | nothing
  | ready
  | notReady
  | command
  deriving DecidableEq

/-- What was seen since the thread was woken for a reset: whether the sensor is of CdTe, how
many commands were sent, how many pauses were made for the voltage since the last of them, what
the last action was, and how many seconds were slept. -/
structure HvWatch where
  cdte : Bool
  commands : Nat
  pauses : Nat
  last : HvSeen
  slept : Nat
  deriving DecidableEq

namespace HvWatch

def woken : HvWatch := ⟨false, 0, 0, .nothing, 0⟩

/-- A look at the state of the high voltage. -/
def look (found : Bool) (g : HvWatch) : HvWatch :=
  { g with last := if found then .ready else .notReady }

def command (g : HvWatch) : HvWatch :=
  { g with commands := g.commands + 1, pauses := 0, last := .command }

/-- A pause after a look is one for the voltage. -/
def pause (seconds : Nat) (g : HvWatch) : HvWatch :=
  { g with
    pauses := if g.last = .notReady then g.pauses + 1 else g.pauses
    last := .nothing
    slept := g.slept + seconds }

def after (g : HvWatch) : (action : Action) → action.Reply → HvWatch
  | .wait .hvResetting, set => if set then woken else { g with last := .nothing }
  | .getattr name, value =>
      if name = "high_voltage/state" then g.look (value.any isReady)
      else if name = "sensor_material" then
        { g with last := .nothing, cdte := value.any isCdte }
      else { g with last := .nothing }
  | .request _, _ => g.command
  | .sleep duration, slept =>
      if succeeds slept then g.pause (secondsOf duration) else { g with last := .nothing }
  | _, _ => { g with last := .nothing }

/-- A reset is over: it was none for this sensor, all ten commands were sent, or the voltage
is still not ready after sixty pauses of ten seconds since the last command. -/
def Over (g : HvWatch) : Prop :=
  g.cdte = false ∧ g.commands = 0 ∨ g.commands = 10 ∧ g.last = .nothing ∨
    g.last = .notReady ∧ g.pauses = 60

/-- Within its bounds a reset sends ten commands and sleeps for less than two hours. -/
def Bounded (g : HvWatch) : Prop := g.commands ≤ 10 ∧ g.slept ≤ 6600

/-- The rules of a reset. The command comes right after the voltage was found ready, and no
other command comes. Right after a command there is a pause of sixty seconds, and right after
the voltage was found not ready one of ten seconds, or the end of the reset; there is no other
pause, and nothing else comes at that point. A reset is declared done when it is over. -/
def Rule (g : HvWatch) : Action → Prop
  | .request r => r = .put .detectorCommand "hv_reset" (some (.int 45)) ∧ g.cdte = true ∧
      g.last = .ready ∧ g.commands < 10
  | .sleep duration => g.last = .command ∧ duration = .int 60 ∨
      g.last = .notReady ∧ duration = .int 10 ∧ g.pauses < 60
  | .setFlag flag value => flag = .hvResetting ∧ value = false ∧ g.Over
  | .assignEvent event value => event = .hvResetting ∧ value = false ∧ g.last = .nothing
  | .getattr _ | .getFlag _ | .wait _ => g.last = .nothing
  | _ => False

end HvWatch

def hvTracker : Tracker Action Action.Reply HvWatch where
  permits g action := g.Rule action ∧ g.Bounded
  follows g action reply g' := g' = g.after action reply

/-- The code keeps to the rules of a reset. -/
def Resets {A : Type} (post : HvWatch → A → Prop) (g : HvWatch) (code : Code A) : Prop :=
  code.Tracked hvTracker post (fun g _ => g.Bounded) g

section Rules

variable {A B : Type} {g : HvWatch} {post : HvWatch → A → Prop}

theorem Resets.bind {p : Code A} {f : A → Code B} {post' : HvWatch → B → Prop}
    (h : Resets post g p) (hf : ∀ g a, post g a → Resets post' g (f a)) :
    Resets post' g (p >>= f) :=
  Program.Tracked.bind h hf

/-- One action, with what is seen of it. -/
theorem resets_act {action : Action} {f : action.Reply → Code A} (hRule : g.Rule action)
    (hBounded : g.Bounded) (hf : ∀ reply, Resets post (g.after action reply) (f reply)) :
    Resets post g (perform action >>= f) := by
  refine ⟨⟨hRule, hBounded⟩, fun reply g' hFollows => ?_⟩
  rw [hFollows]
  exact hf reply

theorem resets_getHvState (hBounded : g.Bounded) (hLast : g.last = .nothing) :
    Resets (fun g' state => g' = g.look (state.isStr "READY")) g getHvState := by
  have hRead : getHvState = (perform (.getattr "high_voltage/state") >>= fun value : Option Json =>
      (value.elim (.fail .attributeError) fun state =>
        liftExcept (state.subscript "value") : Code Json)) := by
    rw [getHvState, getattr, Program.bind_assoc]
    apply congrArg
    funext value
    cases value <;> rfl
  rw [hRead]
  refine resets_act hLast hBounded fun value => ?_
  have hLook : g.after (.getattr "high_voltage/state") value = g.look (value.any isReady) := by
    simp [HvWatch.after]
  rw [hLook]
  cases value with
  | none => exact hBounded
  | some value =>
      rw [Option.any_some, isReady, Option.elim_some]
      cases value.subscript "value" with
      | ok state => exact (rfl : g.look _ = g.look _)
      | error e => exact hBounded

theorem resets_pause {seconds : Nat} (hRule : g.Rule (.sleep (.int seconds)))
    (hBounded : g.Bounded) :
    Resets (fun g' _ => g' = g.pause seconds) g (pause (.int seconds)) := by
  apply resets_act hRule hBounded
  intro slept
  cases slept with
  | ok u => exact (rfl : g.pause _ = g.pause _)
  | error e => exact hBounded

/-- So many commands were sent, and the rest of the time the voltage was waited for. -/
structure Waits (sent : Nat) (g : HvWatch) : Prop where
  cdte : g.cdte = true
  commands : g.commands = sent
  slept : g.slept ≤ 660 * sent + 10 * g.pauses

theorem Waits.bounded {sent : Nat} (h : Waits sent g) (hSent : sent < 10)
    (hPauses : g.pauses ≤ 60) : g.Bounded := by
  have hSlept := h.slept
  refine ⟨?_, ?_⟩
  · rw [h.commands]
    omega
  · omega

theorem resets_waitReady {sent : Nat} (hFew : sent < 10) (pauses : Nat) (hWaits : Waits sent g)
    (hLast : g.last = .nothing) (hPauses : g.pauses + pauses = 60) :
    Resets (fun g' ready => Waits sent g' ∧ g'.pauses ≤ 60 ∧
      if ready then g'.last = .ready else g'.last = .notReady ∧ g'.pauses = 60) g
        (waitReady pauses) := by
  have hBounded := hWaits.bounded hFew (by omega)
  induction pauses generalizing g with
  | zero =>
      apply (resets_getHvState hBounded hLast).bind
      rintro _ state rfl
      cases hReady : state.isStr "READY" with
      | true => exact ⟨⟨hWaits.cdte, hWaits.commands, hWaits.slept⟩, hPauses.le, rfl⟩
      | false => exact ⟨⟨hWaits.cdte, hWaits.commands, hWaits.slept⟩, hPauses.le, rfl, hPauses⟩
  | succ pauses ih =>
      apply (resets_getHvState hBounded hLast).bind
      rintro _ state rfl
      cases hReady : state.isStr "READY" with
      | true =>
          refine ⟨⟨hWaits.cdte, hWaits.commands, hWaits.slept⟩, ?_, rfl⟩
          show g.pauses ≤ 60
          omega
      | false =>
          have hRule : (g.look false).Rule (.sleep (.int (10 : Nat))) :=
            .inr ⟨rfl, rfl, show g.pauses < 60 by omega⟩
          apply (resets_pause hRule hBounded).bind
          rintro _ _ rfl
          have hMore : ((g.look false).pause 10).pauses + pauses = 60 := by
            show g.pauses + 1 + pauses = 60
            omega
          have hWaits' : Waits sent ((g.look false).pause 10) := by
            refine ⟨hWaits.cdte, hWaits.commands, ?_⟩
            have hSlept := hWaits.slept
            show g.slept + 10 ≤ 660 * sent + 10 * (g.pauses + 1)
            omega
          exact ih hWaits' rfl hMore (hWaits'.bounded hFew (by omega))

theorem resets_writeDetectorCommand {post : HvWatch → Unit → Prop} {f : Json → Code Unit}
    (hRule : g.Rule (.request (.put .detectorCommand "hv_reset" (some (.int 45)))))
    (hBounded : g.Bounded) (hAfter : g.command.Bounded)
    (hf : ∀ reply, Resets post g.command (f reply)) :
    Resets post g (writeDetectorCommand "hv_reset" (.int 45) >>= f) := by
  refine ⟨⟨hRule, hBounded⟩, fun response g' hFollows => ?_⟩
  rw [hFollows]
  cases response with
  | none => exact hAfter
  | some response => exact hf _

theorem resets_resetIterations (iterations : Nat) (hFew : iterations ≤ 10)
    (hWaits : Waits (10 - iterations) g) (hLast : g.last = .nothing) (hPauses : g.pauses = 0) :
    Resets (fun g' _ => g'.Over ∧ g'.Bounded) g (resetIterations iterations) := by
  induction iterations generalizing g with
  | zero =>
      have hSlept := hWaits.slept
      refine ⟨.inr (.inl ⟨hWaits.commands, hLast⟩), ?_, ?_⟩
      · rw [hWaits.commands]
      · omega
  | succ iterations ih =>
      have hCommands : 10 - (iterations + 1) < 10 := by omega
      apply (resets_waitReady hCommands 60 hWaits hLast (by omega)).bind
      rintro g' ready ⟨hWaits', hSoon, hFound⟩
      have hBounded := hWaits'.bounded hCommands hSoon
      cases ready with
      | false => exact ⟨.inr (.inr hFound), hBounded⟩
      | true =>
          have hSlept := hWaits'.slept
          have hRule : g'.Rule (.request (.put .detectorCommand "hv_reset" (some (.int 45)))) :=
            ⟨rfl, hWaits'.cdte, hFound, by rw [hWaits'.commands]; exact hCommands⟩
          have hSent : g'.command.Bounded := by
            refine ⟨?_, hBounded.2⟩
            show g'.commands + 1 ≤ 10
            rw [hWaits'.commands]
            omega
          apply resets_writeDetectorCommand hRule hBounded hSent
          intro _
          have hRest : g'.command.Rule (.sleep (.int (60 : Nat))) := .inl ⟨rfl, rfl⟩
          apply (resets_pause hRest hSent).bind
          rintro _ _ rfl
          apply ih (by omega)
          · refine ⟨hWaits'.cdte, ?_, ?_⟩
            · show g'.commands + 1 = 10 - iterations
              rw [hWaits'.commands]
              omega
            · show g'.slept + 60 ≤ 660 * (10 - iterations) + 10 * 0
              omega
          · rfl
          · rfl

theorem resets_hvReset : Resets (fun g' _ => g'.Over ∧ g'.Bounded) .woken hvReset := by
  have hRead : hvReset = (perform (.getattr "sensor_material") >>= fun value : Option Json =>
      (value.elim (.fail .attributeError) fun material => do
        let name ← liftExcept (material.subscript "value" >>= lower)
        if name = "cdte" then resetIterations 10 else pure () : Code Unit)) := by
    rw [hvReset, getattr, Program.bind_assoc]
    apply congrArg
    funext value
    cases value <;> rfl
  have hBounded : ∀ cdte, HvWatch.Bounded { HvWatch.woken with cdte := cdte } :=
    fun _ => ⟨Nat.zero_le 10, Nat.zero_le 6600⟩
  have hWoken : HvWatch.woken.Rule (.getattr "sensor_material") := rfl
  rw [hRead]
  refine resets_act hWoken (hBounded false) fun value => ?_
  have hSeen : HvWatch.woken.after (.getattr "sensor_material") value =
      { HvWatch.woken with cdte := value.any isCdte } := by
    simp [HvWatch.after, HvWatch.woken]
  rw [hSeen]
  cases value with
  | none => exact hBounded _
  | some material =>
      rw [Option.any_some, isCdte, Option.elim_some]
      cases material.subscript "value" >>= lower with
      | error e => exact hBounded _
      | ok name =>
          show Resets _ { HvWatch.woken with cdte := decide (name = "cdte") }
            (if name = "cdte" then resetIterations 10 else pure ())
          by_cases hName : name = "cdte"
          · rw [if_pos hName, decide_eq_true hName]
            exact resets_resetIterations 10 (le_refl 10) ⟨rfl, rfl, by decide⟩ rfl rfl
          · rw [if_neg hName, decide_eq_false hName]
            exact ⟨.inl ⟨rfl, rfl⟩, hBounded _⟩

/-- An iteration begins within the bounds, with nothing owed. -/
def HvWatch.Starts (g : HvWatch) (_ : Point) : Prop := g.Bounded ∧ g.last = .nothing

/-- Each iteration of the loop keeps to the rules. -/
theorem resets_doHvReset {point : Point} (h : g.Starts point) :
    Resets HvWatch.Starts g (doHvReset point) := by
  obtain ⟨hBounded, hLast⟩ := h
  cases point with
  | top =>
      refine resets_act hLast hBounded fun executing => ?_
      cases executing with
      | false => exact ⟨hBounded, rfl⟩
      | true =>
          refine resets_act rfl hBounded fun set => ?_
          cases set with
          | false => exact ⟨hBounded, rfl⟩
          | true =>
              apply resets_hvReset.bind
              rintro g' _ ⟨hOver, hBounded'⟩
              refine resets_act ⟨rfl, rfl, hOver⟩ hBounded' fun _ => ?_
              exact resets_act ⟨rfl, rfl, rfl⟩ hBounded' fun _ => ⟨hBounded', rfl⟩
  | triggers count => exact ⟨hBounded, hLast⟩
  | ended => exact ⟨hBounded, hLast⟩

end Rules

/-- Whatever else goes on in the server, and whatever the detector answers: a reset sends its
command right after the voltage was found ready, at most ten times and only to a detector with
a CdTe sensor, a minute is slept right after each command, and the voltage is waited for ten
minutes at most; the flag is cleared when this is over, and less than two hours are slept in
all. -/
theorem hv_reset_obeys {s : Hearing} {events : List WatchedEvent} {w : Watched HvWatch}
    (hRun : Run (Watched.step HvWatch.after .hvReset) always (.start s .woken) events w) :
    w.watch.Bounded ∧ ∀ action next, w.loop.code .hvReset = .act action next →
      w.watch.Rule action := by
  have hStarts : HvWatch.woken.Starts .top := ⟨⟨Nat.zero_le 10, Nat.zero_le 6600⟩, rfl⟩
  have hStart : (Watched.start s .woken).Obeys .hvReset hvTracker HvWatch.Starts
      fun g _ => g.Bounded := resets_doHvReset hStarts
  have hObeys : w.Obeys .hvReset hvTracker HvWatch.Starts fun g _ => g.Bounded :=
    Watched.obeys_of_run hStart (fun _ _ _ => rfl) (fun _ _ => resets_doHvReset) hRun
  rw [Watched.Obeys] at hObeys
  cases hCode : w.loop.code .hvReset with
  | done point =>
      rw [hCode] at hObeys
      exact ⟨hObeys.1, fun _ _ hAct => by cases hAct⟩
  | fail e =>
      rw [hCode] at hObeys
      exact ⟨hObeys, fun _ _ hAct => by cases hAct⟩
  | act action next =>
      rw [hCode] at hObeys
      refine ⟨hObeys.1.2, fun _ _ hAct => ?_⟩
      cases hAct
      exact hObeys.1.1

/-- A server at the top of its loops, of a detector with a CdTe sensor and its high voltage
ready. -/
def readyHearing : Hearing where
  detector := initial (fun name =>
    if name = "sensor_material" then some (.dict [("value", .str "CdTe")])
    else some (.dict [("value", .str "READY")])) []
  heard := []

/-- A reset is requested, and once more after its first command. -/
def resetEvents : List WatchedEvent :=
  .other (.spawn (.set sampleTree 1 "command/hv_reset" .null)) ::
    List.replicate 2 (.other (.act 0 sampleMoment)) ++ List.replicate 5 (.loop sampleMoment) ++
    .other (.spawn (.set sampleTree 1 "command/hv_reset" .null)) ::
      List.replicate 2 (.other (.act 1 sampleMoment)) ++ List.replicate 2 (.loop sampleMoment)

/-- The code is about to send a request. -/
def sendsNext : Code Point → Bool
  | .act (.request _) _ => true
  | _ => false

theorem sendsNext_iff {code : Code Point} :
    sendsNext code ↔ ∃ r next, code = .act (.request r) next := by
  refine ⟨fun hSends => ?_, fun ⟨r, next, hCode⟩ => by rw [hCode, sendsNext]⟩
  cases code with
  | done point => cases hSends
  | fail e => cases hSends
  | act action next =>
      cases action with
      | request r => exact ⟨r, next, rfl⟩
      | _ => cases hSends

/-- The second command, after a minute. -/
theorem hv_reset_ready : ∃ w : Watched HvWatch,
    Run (Watched.step HvWatch.after .hvReset) always (.start readyHearing .woken) resetEvents w ∧
    (∃ next, w.loop.code .hvReset =
      .act (.request (.put .detectorCommand "hv_reset" (some (.int 45)))) next) ∧
    w.watch.commands = 1 ∧ w.watch.slept = 60 ∧ w.watch.cdte = true ∧ w.watch.last = .ready := by
  have hSends : (exec (Watched.step HvWatch.after .hvReset) (.start readyHearing .woken)
      resetEvents).any (fun w => sendsNext (w.loop.code .hvReset) && w.watch.commands == 1 &&
        w.watch.slept == 60) = true := by
    decide +kernel
  obtain ⟨w, hExec, hNext⟩ := (Option.any_eq_true _ _).mp hSends
  rw [Bool.and_eq_true, Bool.and_eq_true] at hNext
  obtain ⟨⟨hNext, hCommands⟩, hSlept⟩ := hNext
  obtain ⟨r, next, hCode⟩ := sendsNext_iff.mp hNext
  have hRun := run_always_iff.mpr hExec
  obtain ⟨hRequest, hCdte, hReady, _⟩ := (hv_reset_obeys hRun).2 _ _ hCode
  exact ⟨w, hRun, ⟨next, hRequest ▸ hCode⟩, eq_of_beq hCommands, eq_of_beq hSlept, hCdte, hReady⟩

end Eiger.Server
