import EigerDetector.Fan.Closing

/-! The start-up of the fan. The main thread starts the rx thread and serves its sockets again
once it finds the fan waiting for the stream, which the rx thread may have left by then. -/
namespace Eiger.Fan

open CharArrays FixedWidth Multipart Transition EigerFan

/-- The message is a complete header or image whose cache writes and sends do not throw. -/
def FirstPart.Marks (env : Environment) (s : EigerFan) (rest : List Bytes) : FirstPart → Prop
  | header members series detail =>
      ¬ TooShort detail rest ∧ (header members series detail).GoesThrough env s rest
  | image members frame => 3 ≤ rest.length ∧ (image members frame).GoesThrough env s rest
  | _ => False

instance (env : Environment) (s : EigerFan) (rest : List Bytes) :
    DecidablePred (FirstPart.Marks env s rest)
  | .header _ _ _ => inferInstanceAs (Decidable (¬ (_ ∨ _) ∧ (_ ∧ _)))
  | .image _ _ => inferInstanceAs (Decidable (_ ∧ (_ ∧ _)))
  | .endOfSeries _ => .isFalse id
  | .unreadable => .isFalse id
  | .unknown => .isFalse id

/-- Exactly such a message takes the fan away from waiting for the stream. -/
theorem Idle.message_marks {env : Environment} {config : EigerFanConfig} {s t : EigerFan}
    {part1 : Bytes} {rest : List Bytes} {first : FirstPart} (h : Idle config s)
    (hWaiting : s.state = .waitingStream) (hFirst : readFirstPart env part1 = some first)
    (hStep : session env s (.message (part1 :: rest)) = some t) :
    t.state = .waitingStream ↔ ¬ first.Marks env s rest := by
  obtain ⟨_, s₁, ⟨_, _, _, rfl⟩, ⟨hThrough, rfl⟩ | ⟨hLost, _, rfl⟩⟩ :=
    h.message_of_first hFirst hStep
  · cases first with
    | header members series detail =>
        rw [FirstPart.plan, FirstPart.Marks]
        rcases headerPlan_cases (taggedPart env members s.configuredAcquisitionID) detail rest with
          ⟨hShort, hPlan⟩ | ⟨hUnknown, hPlan⟩ | ⟨hShort, _, count, hPlan⟩
        · rw [hPlan]
          exact ⟨fun _ hMarks => hMarks.1 hShort, fun _ => hWaiting⟩
        · have hShort : ¬ TooShort detail rest := by
            rintro (⟨hBasic, _⟩ | ⟨hAll, _⟩)
            · exact hUnknown.2.1 hBasic
            · exact hUnknown.2.2 hAll
          rw [hPlan]
          exact ⟨(fun hState => by cases hState), fun hUnmarked => absurd ⟨hShort, hThrough⟩ hUnmarked⟩
        · rw [hPlan]
          exact ⟨(fun hState => by cases hState), fun hUnmarked => absurd ⟨hShort, hThrough⟩ hUnmarked⟩
    | image members frame =>
        rw [FirstPart.plan, FirstPart.Marks, imagePlan]
        split
        · next hLength =>
            exact ⟨(fun hState => by cases hState), fun hUnmarked => absurd ⟨hLength, hThrough⟩ hUnmarked⟩
        · next hLength => exact ⟨fun _ hMarks => hLength hMarks.1, fun _ => hWaiting⟩
    | endOfSeries members => exact ⟨fun _ => id, fun _ => rfl⟩
    | unreadable => exact ⟨fun _ => id, fun _ => hWaiting⟩
    | unknown => exact ⟨fun _ => id, fun _ => hWaiting⟩
  · have hUnmarked : ¬ first.Marks env s rest := by
      cases first with
      | header members series detail => exact fun hMarks => hLost hMarks.2
      | image members frame => exact fun hMarks => hLost hMarks.2
      | _ => exact id
    refine ⟨fun _ => hUnmarked, fun _ => ?_⟩
    cases first <;> exact hWaiting

/-- Where the main thread is in `run`: waiting for the consumers, waiting for the rx thread,
or serving the control and monitor sockets. -/
inductive MainPhase where
  | joining
  | barrier
  | serving
  deriving DecidableEq

/-- The fan with the place of the main thread, and whether the rx thread is set up. -/
structure Startup where
  fan : EigerFan
  phase : MainPhase
  ready : Bool

inductive StartupEvent where
  | main (event : MainEvent)
  | spawn
  | setUp
  | message (parts : List Bytes)
  | test

namespace Startup

def initial (config : EigerFanConfig) : Startup := ⟨Fan.initial config, .joining, false⟩

def step (env : Environment) (w : Startup) : StartupEvent → Option Startup
  | .main event =>
      if w.phase = .barrier then none
      else (session env w.fan (.main event)).map fun fan => { w with fan := fan }
  | .spawn =>
      if w.phase = .joining ∧ w.fan.expectedConsumersConnected ∧ w.fan.killRequested = false then
        some { w with phase := .barrier }
      else none
  | .setUp =>
      if w.phase = .joining ∨ w.ready then none
      else some { w with fan := { w.fan with state := .waitingStream }, ready := true }
  | .message parts =>
      if w.ready then (session env w.fan (.message parts)).map fun fan => { w with fan := fan }
      else none
  | .test =>
      -- `while (state != WAITING_STREAM) sleep(1)`
      if w.phase = .barrier then
        some (if w.fan.state = .waitingStream then { w with phase := .serving } else w)
      else none

/-- Once the rx thread is set up and no kill was requested, the next test of the main thread
lets it through. -/
def LetThrough (env : Environment) (w : Startup) : Prop :=
  w.ready = true → w.fan.killRequested = false →
    ∀ t, w.step env .test = some t → t.phase = .serving

/-- No complete header or image goes through while the main thread waits. -/
def Unmarked (env : Environment) (w : Startup) : StartupEvent → Prop
  | .message (part1 :: rest) =>
      w.phase = .barrier → ∀ first ∈ readFirstPart env part1, ¬ first.Marks env w.fan rest
  | _ => True

instance (env : Environment) (w : Startup) (event : StartupEvent) :
    Decidable (w.Unmarked env event) :=
  match event with
  | .message (part1 :: _) => inferInstanceAs (Decidable (w.phase = .barrier →
      ∀ first ∈ readFirstPart env part1, _))
  | .message [] => .isTrue trivial
  | .main _ => .isTrue trivial
  | .spawn => .isTrue trivial
  | .setUp => .isTrue trivial
  | .test => .isTrue trivial

/-- What is true of the main thread when it waits for the rx thread. -/
structure Starting (config : EigerFanConfig) (w : Startup) : Prop where
  idle : Idle config w.fan
  joining : w.phase = .joining → w.ready = false
  running : w.phase = .barrier → w.fan.killRequested = false
  waiting : w.phase = .barrier → w.ready = true → w.fan.state = .waitingStream

variable {env : Environment} {config : EigerFanConfig} {w w' : Startup} {event : StartupEvent}

theorem Starting.letThrough (h : Starting config w) : w.LetThrough env := by
  intro hReady _ t hTest
  rw [step] at hTest
  split at hTest
  · next hBarrier =>
      rw [if_pos (h.waiting hBarrier hReady)] at hTest
      cases hTest
      rfl
  · cases hTest

/-- A message keeps this exactly if it does not mark the fan while the main thread waits. -/
theorem Starting.message {parts : List Bytes} (h : Starting config w)
    (hStep : w.step env (.message parts) = some w') :
    w'.ready = true ∧ w'.phase = w.phase ∧ w'.fan.killRequested = w.fan.killRequested ∧
      Idle config w'.fan ∧
      (w.phase = .barrier → (w'.fan.state = .waitingStream ↔ w.Unmarked env (.message parts))) := by
  rw [step] at hStep
  split at hStep
  · next hReady =>
      obtain ⟨fan, hFan, rfl⟩ := Option.map_eq_some_iff.mp hStep
      obtain ⟨_, part1, rest, first, _, rfl, hFirst, _⟩ := h.idle.message hFan
      refine ⟨hReady, rfl, session_message_killRequested hFan, h.idle.step hFan,
        fun hBarrier => ?_⟩
      rw [h.idle.message_marks (h.waiting hBarrier hReady) hFirst hFan]
      refine ⟨fun hUnmarked _ read hRead => ?_, fun hUnmarked => hUnmarked hBarrier first hFirst⟩
      cases hFirst.symm.trans hRead
      exact hUnmarked
  · cases hStep

theorem starting_initial (hBlock : IsInt32 config.blockSize) : Starting config (initial config) :=
  ⟨.initial hBlock, fun _ => rfl, nofun, nofun⟩

theorem Starting.step (h : Starting config w) (hUnmarked : w.Unmarked env event)
    (hStep : w.step env event = some w') : Starting config w' := by
  cases event with
  | main event =>
      rw [Startup.step] at hStep
      split at hStep
      · cases hStep
      · next hPhase =>
          obtain ⟨fan, hFan, rfl⟩ := Option.map_eq_some_iff.mp hStep
          exact ⟨h.idle.step hFan, h.joining, fun hBarrier => absurd hBarrier hPhase,
            fun hBarrier => absurd hBarrier hPhase⟩
  | spawn =>
      rw [Startup.step] at hStep
      split at hStep
      · next hSpawned =>
          cases hStep
          have hNotReady := h.joining hSpawned.1
          refine ⟨h.idle, nofun, fun _ => hSpawned.2.2, fun _ hReady => ?_⟩
          rw [hNotReady] at hReady
          cases hReady
      · cases hStep
  | setUp =>
      rw [Startup.step] at hStep
      split at hStep
      · cases hStep
      · next hSpawned =>
          cases hStep
          exact ⟨⟨h.idle.queue, { h.idle.installed with }⟩,
            fun hJoining => absurd (.inl hJoining) hSpawned, h.running, fun _ _ => rfl⟩
  | message parts =>
      obtain ⟨hReady, hPhase, hKill, hIdle, hWaiting⟩ := h.message hStep
      refine ⟨hIdle, fun hJoining => ?_, fun hBarrier => ?_, fun hBarrier _ => ?_⟩
      · rw [hPhase] at hJoining
        rw [Startup.step, h.joining hJoining] at hStep
        cases hStep
      · rw [hKill]
        exact h.running (hPhase ▸ hBarrier)
      · exact (hWaiting (hPhase ▸ hBarrier)).mpr hUnmarked
  | test =>
      rw [Startup.step] at hStep
      split at hStep
      · cases hStep
        split
        · exact ⟨h.idle, nofun, nofun, nofun⟩
        · exact h
      · cases hStep

/-- A header or image that goes through meanwhile keeps the main thread waiting. -/
theorem Starting.step_marked (h : Starting config w) (hMarked : ¬ w.Unmarked env event)
    (hStep : w.step env event = some w') : ¬ w'.LetThrough env := by
  cases event with
  | message parts =>
      obtain ⟨hReady, hPhase, hKill, _, hWaiting⟩ := h.message hStep
      have hBarrier : w.phase = .barrier := by
        by_contra hPassed
        refine hMarked ?_
        cases parts with
        | nil => trivial
        | cons part1 rest => exact fun hBarrier => absurd hBarrier hPassed
      have hState := fun hState => hMarked ((hWaiting hBarrier).mp hState)
      have hTest : w'.step env .test = some w' := by
        rw [Startup.step, if_pos (hPhase.trans hBarrier), if_neg hState]
      intro hThrough
      have hServing := hThrough hReady (hKill.trans (h.running hBarrier)) w' hTest
      rw [hPhase, hBarrier] at hServing
      cases hServing
  | _ => exact absurd trivial hMarked

/-- The main thread is let through in every state of a run exactly if no complete header or
image goes through while it waits. -/
theorem letThrough_iff_unmarked {vm : Options} {events : List StartupEvent}
    (hExec : exec (Startup.step env) (initial (parseArguments vm)) events = some w) :
    Along (Startup.step env) (LetThrough env) (initial (parseArguments vm)) events ↔
      Run (Startup.step env) (Unmarked env) (initial (parseArguments vm)) events w :=
  along_iff_run (Starting (parseArguments vm)) (starting_initial (parseArguments_int32 vm).2)
    (fun _ => Starting.letThrough) (fun _ _ _ => Starting.step)
    (fun _ _ _ => Starting.step_marked) hExec

/-- The consumer connects and the rx thread is started. -/
def started : List StartupEvent := [.main (.monitor zmqEventAccepted 0), .spawn, .setUp]

/-- A header that arrives after the test is no obstacle. -/
theorem tested_before_header :
    ∃ w, exec (Startup.step sampleEnvironment) (initial (parseArguments defaultOptions))
        (started ++ [.test, .message [objectText sampleHeader]]) = some w ∧
      (w.phase, w.fan.state) = (.serving, .dstrHeader) ∧
      Along (Startup.step sampleEnvironment) (LetThrough sampleEnvironment)
        (initial (parseArguments defaultOptions))
        (started ++ [.test, .message [objectText sampleHeader]]) := by
  have hExec : (exec (guarded (Startup.step sampleEnvironment) (Unmarked sampleEnvironment))
      (initial (parseArguments defaultOptions))
      (started ++ [.test, .message [objectText sampleHeader]])).map
      (fun w => (w.phase, w.fan.state)) = some (.serving, .dstrHeader) := by decide +kernel
  obtain ⟨w, hGuarded, hEnd⟩ := Option.map_eq_some_iff.mp hExec
  have hRun := run_iff_exec_guarded.mpr hGuarded
  have hTaken := hRun.executes
  exact ⟨w, hTaken, hEnd, (letThrough_iff_unmarked hTaken).mpr hRun⟩

/-- A header that arrives at once: the main thread tests in vain, and no event of its
sockets is handled. -/
theorem header_keeps_waiting :
    ∃ w, Run (Startup.step sampleEnvironment) always (initial (parseArguments defaultOptions))
        (started ++ [.message [objectText sampleHeader], .test]) w ∧
      (w.phase, w.ready, w.fan.killRequested, w.fan.state) =
        (.barrier, true, false, .dstrHeader) ∧
      ¬ w.LetThrough sampleEnvironment ∧
      ∀ event, w.step sampleEnvironment (.main event) = none := by
  have hExec : (exec (Startup.step sampleEnvironment) (initial (parseArguments defaultOptions))
      (started ++ [.message [objectText sampleHeader], .test])).map
      (fun w => (w.phase, w.ready, w.fan.killRequested, w.fan.state)) =
      some (.barrier, true, false, .dstrHeader) := by decide +kernel
  obtain ⟨w, hTaken, hEnd⟩ := Option.map_eq_some_iff.mp hExec
  obtain ⟨hBarrier, hRest⟩ := Prod.mk.inj hEnd
  obtain ⟨hReady, hRest⟩ := Prod.mk.inj hRest
  obtain ⟨hRunning, hState⟩ := Prod.mk.inj hRest
  refine ⟨w, run_always_iff.mpr hTaken, hEnd, fun hThrough => ?_, fun event => ?_⟩
  · have hTest : w.step sampleEnvironment .test = some w := by
      rw [Startup.step, if_pos hBarrier, if_neg (by rw [hState]; decide)]
    have hServing := hThrough hReady hRunning w hTest
    rw [hBarrier] at hServing
    cases hServing
  · rw [Startup.step, if_pos hBarrier]

end Startup

end Eiger.Fan
