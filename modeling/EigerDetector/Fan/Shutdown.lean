import EigerDetector.Fan.Closing
import EigerDetector.Fan.Phases

/-! Shutting down while messages are handled. Nothing follows the fabricated end and nothing
happens after `Stop` as long as the rx thread is done with its message by then and receives no
other that has a handler. -/
namespace Eiger.Fan

open CharArrays Rapidjson Threads Rx Multipart Transition EigerFan
open ThreadPair (consumerConnects)
open Watched (closeCommand sampleHeaderOpened sampleEnd)

/-- The kill flag, the state and everything sent are the same. -/
structure EigerFan.Still (s t : EigerFan) : Prop where
  killRequested : t.killRequested = s.killRequested
  state : t.state = s.state
  log : t.log = s.log

/-- The action offers nothing to a socket, and keeps kill flag and state. -/
def Calm : RxAction → Prop
  | .assign update => ∀ s : EigerFan, s.Still (update s)
  | action => hidden action = true

/-- Nothing that the rx thread has left to do in its handler sends or moves the state. -/
def RxThread.Calm : RxThread → Prop
  | .handling rest => rest.Uses Fan.Calm anything
  | _ => True

/-- The type of the message is none that has a handler. -/
def Unhandled (env : Environment) (message : Bytes) : Prop :=
  ∀ doc ∈ env.parse (cString message), ∀ htype ∈ (doc.member headerTypeKey).bind Value.getString,
    htype ≠ globalHeaderType ∧ htype ≠ imageHeaderType ∧ htype ≠ endHeaderType

section Rx

variable {env : Environment} {s t : EigerFan}

theorem EigerFan.Still.refl (s : EigerFan) : s.Still s := ⟨rfl, rfl, rfl⟩

theorem EigerFan.SameSockets.still (h : SameSockets s t) (hKill : t.killRequested = s.killRequested)
    (hState : t.state = s.state) : s.Still t :=
  ⟨hKill, hState, funext h.log⟩

/-- A calm action changes nothing that a shutdown is about. -/
theorem answer_still {action : RxAction} {reply : action.Reply} (hCalm : Calm action)
    (h : answer env action s = some (t, reply)) : s.Still t := by
  cases action with
  | members =>
      cases h
      exact .refl s
  | assign update =>
      cases h
      exact hCalm s
  | recv =>
      rw [answer] at h
      split at h
      · cases h
      · cases h
        exact SameSockets.still ⟨rfl, rfl⟩ rfl rfl
  | getsockopt =>
      cases h
      exact SameSockets.still ⟨rfl, rfl⟩ rfl rfl
  | writeMessageToFile message filename =>
      obtain ⟨doc, files, calls, hWritten⟩ := writeMessageToFile_scratch env s message filename
      have hState : (s.writeMessageToFile env message filename).1 = t :=
        congrArg Prod.fst (Option.some.inj h)
      rw [← hState, hWritten]
      exact SameSockets.still ⟨rfl, rfl⟩ rfl rfl
  | forward parts => cases hCalm
  | sendTo rank parts => cases hCalm
  | sendMessageToSingleConsumer message sndmore => cases hCalm

/-- A message without a handler is only drained. -/
theorem handleStreamMessage_calm (fuel : Nat) {message : Bytes} (h : Unhandled env message) :
    (handleStreamMessage env fuel message).Uses Calm anything := by
  have hFetch : Calm .getsockopt := rfl
  refine .seq (.onFailure ?_ fun e => by cases e <;> trivial) fun _ =>
    drainSurplusParts_within hFetch rfl rfl fuel
  rw [dispatchStreamMessage]
  cases hParse : env.parse (cString message) with
  | none => trivial
  | some doc =>
      refine .seq (.perform fun s => SameSockets.still ⟨rfl, rfl⟩ rfl rfl) fun _ => ?_
      cases hType : (doc.member headerTypeKey).bind Value.getString with
      | none => trivial
      | some htype =>
          obtain ⟨hHeader, hImage, hEnd⟩ := h doc hParse htype hType
          show (if htype = globalHeaderType then _ else _ : Rx Unit).Uses Calm anything
          rw [if_neg hHeader, if_neg hImage, if_neg hEnd]
          trivial

end Rx

section Main

variable {env : Environment}

theorem plain_still {action : MainAction} {p p' : Process} {reply : action.Reply}
    (h : action.Plain env) (hAnswer : answerMain env action p = some (p', reply)) :
    p.fan.Still p'.fan := by
  by_cases hFetch : ∃ channel, action = .getsockopt channel
  · obtain ⟨channel, rfl⟩ := hFetch
    cases hAnswer
    exact SameSockets.still ⟨rfl, rfl⟩ rfl rfl
  · have hAttended := h.attended (fun channel hSame => hFetch ⟨channel, hSame⟩) hAnswer
    exact ⟨hAttended.killRequested, hAttended.state, funext hAttended.log⟩

end Main

abbrev Logs := Socket → List (Bytes × Bool)

/-- Both threads, with what had been sent when the fabricated end was begun, or else `Stop`
returned, and what had been sent when `Stop` returned. -/
structure Shutdown where
  pair : ThreadPair
  begun : Option Logs
  stopped : Option Logs

namespace Shutdown

def initial (config : EigerFanConfig) : Shutdown := ⟨.initial config, none, none⟩

def fan (w : Shutdown) : EigerFan := w.pair.process.fan

/-- `Stop` returns with the next step of the main thread. -/
def stops (w : Shutdown) : Bool :=
  match w.pair.main with
  | .handling (.act (.shared (.assign update)) _) =>
      w.fan.killRequested && decide ((update w.fan).state = .killRequested)
  | _ => false

/-- The next step of the main thread is the first of the sends of a fabricated end. -/
def ends (w : Shutdown) : Bool :=
  match w.pair.main with
  | .handling (.act (.shared (.forward _)) _) => true
  | _ => false

def follow (w : Shutdown) (pair : ThreadPair) : ThreadEvent → Shutdown
  | .main => {
      pair := pair
      begun := if w.ends || w.stops then w.begun.or (some w.fan.log) else w.begun
      stopped := if w.stops then w.stopped.or (some pair.process.fan.log) else w.stopped }
  | _ => { w with pair := pair }

def step (env : Environment) (w : Shutdown) (event : ThreadEvent) : Option Shutdown :=
  (w.pair.step env event).map fun pair => w.follow pair event

/-- The next step of a thread offers a part to a socket. -/
def sends (w : Shutdown) : Bool :=
  (match w.pair.rx with
    | .handling (.act action _) => !hidden action
    | _ => false) ||
  match w.pair.main with
    | .handling (.act (.shared action) _) => !hidden action
    | _ => false

/-- All that was sent since is a fabricated end. -/
def Ended (env : Environment) (before now : Logs) : Prop :=
  ∀ socket, now socket = before socket ∨ ∃ series acquisitionID, now socket =
    before socket ++ [(env.write (fabricatedEnd series acquisitionID), false)]

/-- Once `Stop` has returned the state stays, nothing is sent, and no thread is about to send;
sockets are closed only then. Nothing follows a fabricated end. -/
structure Quiet (env : Environment) (w : Shutdown) : Prop where
  state : w.stopped.isSome → w.fan.state = .killRequested
  sent : ∀ logs ∈ w.stopped, w.fan.log = logs
  silent : w.stopped.isSome → w.sends = false
  closed : w.pair.closed ≠ [] → w.stopped.isSome
  ended : ∀ logs ∈ w.begun, Ended env logs w.fan.log

/-- When the fabricated end is begun, or else `Stop` returns, the rx thread has nothing left in
its handler that sends or moves the state, and from then on it receives no message that has a
handler. -/
def Undisturbed (env : Environment) (w : Shutdown) : ThreadEvent → Prop
  | .main => w.begun = none → (w.ends || w.stops) = true → w.pair.rx.Calm
  | .rx => w.begun ≠ none → w.pair.rx = .waiting →
      ∀ part ∈ w.fan.rxSocket.queue.head?, Unhandled env part.1
  | _ => True

/-- What was sent since the shutdown was begun, by how far it is. -/
def Begun (env : Environment) (begun : Option Logs) (now : Logs) : Phase → Prop
  | .serving => begun = none
  | .ending parts offered => ∃ logs, begun = some logs ∧
      (∃ series acquisitionID,
        parts = [(env.write (fabricatedEnd series acquisitionID), false)]) ∧
      (∀ socket, now socket = logs socket ∨ now socket = logs socket ++ parts) ∧
      ∀ rank : Nat, (rank : Int) ∉ offered → now (.consumer rank) = logs (.consumer rank)
  | .ended => ∃ logs, begun = some logs ∧ Ended env logs now
  | .killing => ∀ logs, begun = some logs → Ended env logs now
  | .stopped => ∃ logs, begun = some logs ∧ Ended env logs now

/-- Where the main thread is, by how far the shutdown is. -/
def MainAt (env : Environment) (phase : Phase) : MainThread → Prop
  | .serving => phase.Settled
  | .handling rest => rest.Phased (Moves env) (fun g _ => g.Settled) phase
  | .closing _ => phase = .stopped

def RxRoutine : RxThread → Prop
  | .handling rest => rest.Uses Routine anything
  | _ => True

/-- The main thread is in a phase of a shutdown, and from its beginning on the rx thread is
calm. -/
structure InPhase (env : Environment) (w : Shutdown) (phase : Phase) : Prop where
  main : MainAt env phase w.pair.main
  routine : RxRoutine w.pair.rx
  calm : w.begun ≠ none → w.pair.rx.Calm
  kill : w.fan.killRequested = true ↔ phase = .killing ∨ phase = .stopped
  begun : Begun env w.begun w.fan.log phase
  stopped : phase = .stopped → w.fan.state = .killRequested ∧ w.stopped = some w.fan.log
  unstopped : phase ≠ .stopped → w.stopped = none
  closed : w.pair.closed ≠ [] → phase = .stopped

variable {env : Environment} {config : EigerFanConfig} {w w' : Shutdown} {phase : Phase}

theorem inPhase_initial (config : EigerFanConfig) : InPhase env (initial config) .serving := by
  refine ⟨.inl rfl, trivial, fun _ => trivial, ⟨(fun h => by cases h), fun h => ?_⟩, rfl,
    (fun h => by cases h), fun _ => rfl, fun h => absurd rfl h⟩
  rcases h with h | h <;> cases h

theorem Begun.ended {begun : Option Logs} {now logs : Logs} (h : Begun env begun now phase)
    (hLogs : begun = some logs) : Ended env logs now := by
  cases phase with
  | serving => cases h.symm.trans hLogs
  | ending parts offered =>
      obtain ⟨_, hBegun, ⟨series, acquisitionID, rfl⟩, hSent, _⟩ := h
      cases hBegun.symm.trans hLogs
      intro socket
      exact (hSent socket).imp_right fun hEnd => ⟨series, acquisitionID, hEnd⟩
  | killing => exact h logs hLogs
  | _ =>
      obtain ⟨_, hBegun, hEnded⟩ := h
      cases hBegun.symm.trans hLogs
      exact hEnded

/-- Before the beginning it does not matter what is sent. -/
theorem Begun.before {now other : Logs} (h : Begun env none now phase) :
    Begun env none other phase := by
  cases phase with
  | serving => rfl
  | killing => exact nofun
  | _ =>
      obtain ⟨_, hBegun, _⟩ := h
      cases hBegun

theorem InPhase.quiet (h : InPhase env w phase) : w.Quiet env := by
  have hStopped : w.stopped.isSome → phase = .stopped := by
    intro hSome
    by_contra hPhase
    rw [h.unstopped hPhase] at hSome
    cases hSome
  refine ⟨fun hSome => (h.stopped (hStopped hSome)).1, fun logs hLogs => ?_, fun hSome => ?_,
    fun hClosed => ?_, fun logs hLogs => h.begun.ended hLogs⟩
  · have hSome := (h.stopped (hStopped (Option.isSome_of_mem hLogs))).2
    exact Option.some.inj (hSome.symm.trans hLogs)
  · obtain rfl := hStopped hSome
    obtain ⟨logs, hBegun, _⟩ := h.begun
    have hCalm := h.calm (by rw [hBegun]; exact Option.some_ne_none logs)
    have hMain := h.main
    rw [sends, Bool.or_eq_false_iff]
    constructor
    · split
      · next action next hRx =>
          rw [hRx] at hCalm
          have hFirst : Fan.Calm action := hCalm.1
          cases action with
          | assign update => rfl
          | _ => exact congrArg not hFirst
      · rfl
    · split
      · next action next hHandling =>
          rw [hHandling] at hMain
          obtain ⟨g', hMoves, _⟩ := hMain
          cases hMoves with
          | after hPlain => cases hPlain <;> rfl
      · rfl
  · rw [(h.stopped (h.closed hClosed)).2]
    rfl

/-- A step within the phase. -/
theorem InPhase.keep {pair : ThreadPair} (h : InPhase env w phase)
    (hMain : MainAt env phase pair.main) (hClosed : pair.closed = w.pair.closed)
    (hRoutine : RxRoutine pair.rx) (hCalm : w.begun ≠ none → pair.rx.Calm)
    (hKill : pair.process.fan.killRequested = w.fan.killRequested)
    (hStill : w.begun ≠ none → w.fan.Still pair.process.fan) :
    InPhase env { w with pair := pair } phase := by
  refine ⟨hMain, hRoutine, hCalm, ?_, ?_, fun hPhase => ?_, h.unstopped, fun hSome => ?_⟩
  · show pair.process.fan.killRequested = true ↔ _
    rw [hKill]
    exact h.kill
  · show Begun env w.begun pair.process.fan.log phase
    have hBegun := h.begun
    cases hNone : w.begun with
    | none =>
        rw [hNone] at hBegun
        exact hBegun.before
    | some logs =>
        have hSome : w.begun ≠ none := by rw [hNone]; exact Option.some_ne_none logs
        rw [(hStill hSome).log, ← hNone]
        exact hBegun
  · obtain ⟨hState, hStopped⟩ := h.stopped hPhase
    have hBegun := h.begun
    rw [hPhase] at hBegun
    obtain ⟨logs, hSome, _⟩ := hBegun
    have hSame := hStill (by rw [hSome]; exact Option.some_ne_none logs)
    refine ⟨hSame.state.trans hState, ?_⟩
    show w.stopped = some pair.process.fan.log
    rw [hSame.log]
    exact hStopped
  · exact h.closed (by rw [← hClosed]; exact hSome)

theorem InPhase.rx {pair : ThreadPair} (h : InPhase env w phase)
    (hUndisturbed : w.Undisturbed env .rx) (hStep : w.pair.rxStep env = some pair) :
    InPhase env (w.follow pair .rx) phase := by
  have hRoutine := h.routine
  have hCalm := h.calm
  rcases ThreadPair.rxStep_cases hStep with ⟨hRx, rfl⟩ | ⟨hRx, part, more, queue, hQueue, rfl⟩ |
    ⟨action, next, fan, reply, hRx, hAnswer, rfl⟩ | ⟨result, hRx, rfl⟩
  · refine h.keep h.main rfl ?_ (fun _ => ?_) rfl fun _ => .refl _
    · show RxRoutine (if _ then _ else _)
      split <;> trivial
    · show RxThread.Calm (if _ then _ else _)
      split <;> trivial
  · refine h.keep h.main rfl (handleStreamMessage_uses env _ part) (fun hSome => ?_) rfl
      fun _ => SameSockets.still ⟨rfl, rfl⟩ rfl rfl
    refine handleStreamMessage_calm _ (hUndisturbed hSome hRx (part, more) ?_)
    show (part, more) ∈ w.pair.process.fan.rxSocket.queue.head?
    rw [hQueue]
    rfl
  · rw [hRx] at hRoutine hCalm
    refine h.keep h.main rfl (hRoutine.2 reply) (fun hSome => (hCalm hSome).2 reply)
      (RxFrame.of_routine _ _ _ _ hRoutine.1 hAnswer).killRequested fun hSome => answer_still (hCalm hSome).1 hAnswer
  · exact h.keep h.main rfl trivial (fun _ => trivial) rfl fun _ => .refl _

/-- What the end adds to the socket it is offered to. -/
theorem ended_of_sent {parts : List (Bytes × Bool)} {before now : Logs} {series : Int}
    {acquisitionID : Bytes}
    (hParts : parts = [(env.write (fabricatedEnd series acquisitionID), false)])
    (hSent : ∀ socket, now socket = before socket ∨ now socket = before socket ++ parts) :
    Ended env before now := fun socket =>
  (hSent socket).imp_right fun hEnd => ⟨series, acquisitionID, hParts ▸ hEnd⟩

/-- The first send of the end, to the forwarding socket. -/
theorem begun_forward (s : EigerFan) (series : Int) (acquisitionID : Bytes) :
    Begun env (some s.log)
      (s.forward [(env.write (fabricatedEnd series acquisitionID), false)]).log
      (.ending [(env.write (fabricatedEnd series acquisitionID), false)] []) := by
  obtain ⟨hForward, hConsumer⟩ :=
    forward_log s [(env.write (fabricatedEnd series acquisitionID), false)]
  refine ⟨s.log, rfl, ⟨series, acquisitionID, rfl⟩, fun socket => ?_, fun rank _ => hConsumer rank⟩
  cases socket with
  | forward =>
      rw [hForward, EigerFan.logged]
      split
      · exact .inr rfl
      · exact .inl (List.append_nil _)
  | consumer rank => exact .inl (hConsumer rank)

/-- The send of the end to one rank. -/
theorem begun_offer {begun : Option Logs} {parts : List (Bytes × Bool)} {offered : List Int}
    {rank : Int} {s t : EigerFan} {returned : Bool}
    (h : Begun env begun s.log (.ending parts offered)) (hOffered : rank ∉ offered)
    (hAnswer : answer env (.sendTo rank parts) s = some (t, returned)) :
    t.killRequested = s.killRequested ∧
      Begun env begun t.log (.ending parts (rank :: offered)) := by
  obtain ⟨logs, hBegun, hParts, hSent, hRest⟩ := h
  rw [answer] at hAnswer
  split at hAnswer
  · cases hAnswer
    refine ⟨rfl, logs, hBegun, hParts, hSent, fun other hOther => hRest other fun hMem => ?_⟩
    exact hOther (List.mem_cons_of_mem _ hMem)
  · next sent hSend =>
      cases hAnswer
      obtain ⟨hTarget, hOthers⟩ := sendTo_log hSend
      have hRank : (rank.toNat : Int) = rank := Int.toNat_of_nonneg (sendTo_nonneg hSend)
      refine ⟨(RxFrame.of_sendTo hSend).killRequested, logs, hBegun, hParts, fun socket => ?_,
        fun other hOther => ?_⟩
      · by_cases hSocket : socket = .consumer rank.toNat
        · subst hSocket
          rw [hTarget, EigerFan.logged, hRest rank.toNat (by rw [hRank]; exact hOffered)]
          split
          · exact .inr rfl
          · exact .inl (List.append_nil _)
        · rw [hOthers socket hSocket]
          exact hSent socket
      · have hApart : Socket.consumer other ≠ .consumer rank.toNat := by
          rintro ⟨⟩
          exact hOther (hRank ▸ List.mem_cons_self)
        rw [hOthers _ hApart]
        exact hRest other fun hMem => hOther (List.mem_cons_of_mem _ hMem)

theorem stops_eq_false (hKill : w.fan.killRequested = false) : w.stops = false := by
  rw [stops]
  split
  · rw [hKill, Bool.false_and]
  · rfl

theorem follow_main (pair : ThreadPair) (hEnds : w.ends = false) (hStops : w.stops = false) :
    w.follow pair .main = { w with pair := pair } := by
  simp only [follow, hEnds, hStops, Bool.or_false, if_neg Bool.false_ne_true]

/-- What was begun and stopped is so once and for all. -/
theorem follow_main_stopped (pair : ThreadPair) {logs others : Logs} (hBegun : w.begun = some logs)
    (hStopped : w.stopped = some others) : w.follow pair .main = { w with pair := pair } := by
  simp only [follow, hBegun, hStopped, Option.some_or, ite_self]

theorem InPhase.running (h : InPhase env w phase) (hKilling : phase ≠ .killing)
    (hStopped : phase ≠ .stopped) : w.fan.killRequested = false :=
  Bool.eq_false_iff.mpr fun hKill => (h.kill.mp hKill).elim hKilling hStopped

theorem kill_iff_of_running {s : EigerFan} (hRunning : s.killRequested = false)
    (hKilling : phase ≠ .killing) (hStopped : phase ≠ .stopped) :
    s.killRequested = true ↔ phase = .killing ∨ phase = .stopped := by
  rw [hRunning]
  exact ⟨(fun h => by cases h), fun h => absurd h (not_or.mpr ⟨hKilling, hStopped⟩)⟩

/-- A step to the next phase. -/
theorem InPhase.advance {phase' : Phase} {pair : ThreadPair} {begun stopped : Option Logs}
    (h : InPhase env w phase) (hUnstopped : phase ≠ .stopped) (hMain : MainAt env phase' pair.main)
    (hRx : pair.rx = w.pair.rx) (hClosed : pair.closed = w.pair.closed)
    (hCalm : begun ≠ none → w.pair.rx.Calm)
    (hKill : pair.process.fan.killRequested = true ↔ phase' = .killing ∨ phase' = .stopped)
    (hBegun : Begun env begun pair.process.fan.log phase')
    (hStopped : phase' = .stopped →
      pair.process.fan.state = .killRequested ∧ stopped = some pair.process.fan.log)
    (hStill : phase' ≠ .stopped → stopped = none) :
    InPhase env ⟨pair, begun, stopped⟩ phase' := by
  refine ⟨hMain, ?_, fun hSome => ?_, hKill, hBegun, hStopped, hStill, fun hSome => ?_⟩
  · show RxRoutine pair.rx
    rw [hRx]
    exact h.routine
  · show pair.rx.Calm
    rw [hRx]
    exact hCalm hSome
  · exact absurd (h.closed (by rw [← hClosed]; exact hSome)) hUnstopped

/-- One action of the main thread. -/
theorem InPhase.main_action {action : MainAction} {next : action.Reply → Main Unit}
    {process : Process} {reply : action.Reply} (h : InPhase env w phase)
    (hUndisturbed : w.Undisturbed env .main) (hMain : w.pair.main = .handling (.act action next))
    (hAnswer : answerMain env action w.pair.process = some (process, reply)) :
    ∃ phase', InPhase env (w.follow { w.pair with
      process := process
      main := .handling (next reply) } .main) phase' := by
  have hAt := h.main
  rw [hMain] at hAt
  obtain ⟨phase', hMoves, hNext⟩ := hAt
  have hRest := hNext reply
  have hStops := fun hKilling hStopped => stops_eq_false (h.running hKilling hStopped)
  refine ⟨phase', ?_⟩
  cases hMoves with
  | serve hPlain =>
      have hStill := plain_still hPlain hAnswer
      have hEnds : w.ends = false := by
        rw [ends, hMain]
        cases hPlain <;> rfl
      rw [follow_main _ hEnds (hStops nofun nofun)]
      exact h.keep hRest rfl h.routine h.calm hStill.killRequested fun _ => hStill
  | after hPlain =>
      have hStill := plain_still hPlain hAnswer
      obtain ⟨logs, hBegun, _⟩ := h.begun
      rw [follow_main_stopped _ hBegun (h.stopped rfl).2]
      exact h.keep hRest rfl h.routine h.calm hStill.killRequested fun _ => hStill
  | begin series acquisitionID =>
      have hEnds : w.ends = true := by rw [ends, hMain]
      have hNone : w.begun = none := h.begun
      have hCalm := hUndisturbed hNone (by rw [hEnds, Bool.true_or])
      have hFrame :=
        RxFrame.of_forward [(env.write (fabricatedEnd series acquisitionID), false)] w.fan
      have hRunning := hFrame.killRequested.trans (h.running nofun nofun)
      cases hAnswer
      simp only [follow, hEnds, hStops nofun nofun, hNone, Bool.true_or, if_pos, Option.none_or,
        if_neg Bool.false_ne_true]
      exact h.advance nofun hRest rfl rfl (fun _ => hCalm)
        (kill_iff_of_running hRunning nofun nofun) (begun_forward _ series acquisitionID) nofun
        fun _ => h.unstopped nofun
  | offer hOffered =>
      have hEnds : w.ends = false := by rw [ends, hMain]
      obtain ⟨⟨fan, returned⟩, hShared, hPair⟩ := Option.map_eq_some_iff.mp hAnswer
      cases hPair
      obtain ⟨hKill, hBegun⟩ := begun_offer h.begun hOffered hShared
      rw [follow_main _ hEnds (hStops nofun nofun)]
      exact h.advance nofun hRest rfl rfl h.calm
        (kill_iff_of_running (hKill.trans (h.running nofun nofun)) nofun nofun) hBegun nofun
        fun _ => h.unstopped nofun
  | mark parts offered =>
      have hEnds : w.ends = false := by rw [ends, hMain]
      obtain ⟨logs, hBegun, ⟨series, acquisitionID, hParts⟩, hSent, _⟩ := h.begun
      have hEnded := ended_of_sent hParts hSent
      cases hAnswer
      rw [follow_main _ hEnds (hStops nofun nofun)]
      exact h.advance nofun hRest rfl rfl h.calm
        (kill_iff_of_running (h.running nofun nofun) nofun nofun) ⟨logs, hBegun, hEnded⟩ nofun
        fun _ => h.unstopped nofun
  | kill =>
      have hEnds : w.ends = false := by rw [ends, hMain]
      have hNone : w.begun = none := h.begun
      cases hAnswer
      rw [follow_main _ hEnds (hStops nofun nofun)]
      refine h.advance nofun hRest rfl rfl h.calm ⟨fun _ => .inl rfl, fun _ => rfl⟩
        (fun logs hLogs => ?_) nofun fun _ => h.unstopped nofun
      cases hNone.symm.trans hLogs
  | killEnded =>
      have hEnds : w.ends = false := by rw [ends, hMain]
      obtain ⟨others, hBegun, hEnded⟩ := h.begun
      cases hAnswer
      rw [follow_main _ hEnds (hStops nofun nofun)]
      refine h.advance nofun hRest rfl rfl h.calm ⟨fun _ => .inl rfl, fun _ => rfl⟩
        (fun logs hLogs => ?_) nofun fun _ => h.unstopped nofun
      cases hBegun.symm.trans hLogs
      exact hEnded
  | stop =>
      have hKill := h.kill.mpr (.inl rfl)
      have hEnds : w.ends = false := by rw [ends, hMain]
      have hReturns : w.stops = true := by
        rw [stops, hMain]
        show (w.fan.killRequested && true) = true
        rw [hKill, Bool.true_and]
      have hCalm : w.pair.rx.Calm := by
        by_cases hNone : w.begun = none
        · exact hUndisturbed hNone (by rw [hReturns, Bool.or_true])
        · exact h.calm hNone
      have hBegun : Begun env (w.begun.or (some w.fan.log)) w.fan.log .stopped := by
        have hKilling := h.begun
        cases hSome : w.begun with
        | none => exact ⟨w.fan.log, rfl, fun socket => .inl rfl⟩
        | some logs => exact ⟨logs, rfl, hKilling logs hSome⟩
      cases hAnswer
      simp only [follow, hEnds, hReturns, h.unstopped nofun, Bool.or_true, if_pos, Option.none_or]
      exact h.advance nofun hRest rfl rfl (fun _ => hCalm) ⟨fun _ => .inr rfl, fun _ => hKill⟩
        hBegun (fun _ => ⟨rfl, rfl⟩) fun hUnstopped => absurd rfl hUnstopped

theorem InPhase.main_step {pair : ThreadPair} (h : InPhase env w phase)
    (hUndisturbed : w.Undisturbed env .main) (hStep : w.pair.mainStep env = some pair) :
    ∃ phase', InPhase env (w.follow pair .main) phase' := by
  have hAt := h.main
  rcases ThreadPair.mainStep_cases hStep with ⟨action, next, process, reply, hMain, hAnswer, rfl⟩ |
    ⟨result, hMain, rfl⟩ | ⟨socket, left, hMain, rfl⟩
  · exact h.main_action hUndisturbed hMain hAnswer
  · have hEnds : w.ends = false := by rw [ends, hMain]
    have hStops : w.stops = false := by rw [stops, hMain]
    rw [hMain] at hAt
    rw [follow_main _ hEnds hStops]
    exact ⟨phase, h.keep hAt rfl h.routine h.calm rfl fun _ => .refl _⟩
  · have hEnds : w.ends = false := by rw [ends, hMain]
    have hStops : w.stops = false := by rw [stops, hMain]
    rw [hMain] at hAt
    rw [follow_main _ hEnds hStops]
    exact ⟨phase, hAt, h.routine, h.calm, h.kill, h.begun, h.stopped, h.unstopped, fun _ => hAt⟩

theorem InPhase.step {event : ThreadEvent} (h : InPhase env w phase)
    (hUndisturbed : w.Undisturbed env event) (hStep : w.step env event = some w') :
    ∃ phase', InPhase env w' phase' := by
  obtain ⟨pair, hPair, rfl⟩ := Option.map_eq_some_iff.mp hStep
  have hCases := ThreadPair.step_cases hPair
  have hAt := h.main
  cases event with
  | startRx =>
      obtain ⟨hMain, _, hRunning, _, rfl⟩ := hCases
      rw [hMain] at hAt
      have hUnstopped : phase ≠ .stopped := fun hPhase =>
        Bool.false_ne_true (hRunning.symm.trans (h.kill.mpr (.inr hPhase)))
      obtain rfl := hAt.resolve_right hUnstopped
      have hNone : w.begun = none := h.begun
      exact ⟨_, h.keep h.main rfl trivial (fun _ => trivial) rfl fun hSome => absurd hNone hSome⟩
  | arrive message =>
      obtain ⟨_, _, rfl⟩ := hCases
      exact ⟨phase, h.keep h.main rfl h.routine h.calm rfl
        fun _ => SameSockets.still ⟨rfl, rfl⟩ rfl rfl⟩
  | deliver channel message =>
      cases hCases
      exact ⟨phase, h.keep h.main rfl h.routine h.calm rfl fun _ => .refl _⟩
  | serve channel =>
      obtain ⟨hMain, hServes, rfl⟩ := hCases
      rw [hMain] at hAt
      have hControl : channel = .control → phase = .serving := fun hControl =>
        hAt.resolve_right fun hStopped => (hServes (h.kill.mpr (.inr hStopped))).2 hControl
      exact ⟨phase, h.keep (handler_phased _ hAt hControl) rfl h.routine h.calm rfl
        fun _ => .refl _⟩
  | leave =>
      obtain ⟨hMain, hKill, rfl⟩ := hCases
      rw [hMain] at hAt
      have hStopped : phase = .stopped := by
        rcases hAt with rfl | hStopped
        · rcases h.kill.mp hKill with hPhase | hPhase <;> cases hPhase
        · exact hStopped
      exact ⟨phase, h.keep hStopped rfl h.routine h.calm rfl fun _ => .refl _⟩
  | main => exact h.main_step hUndisturbed hCases
  | rx => exact ⟨phase, h.rx hUndisturbed hCases⟩

/-- A run in which the shutdown finds the rx thread done with its message, and in which no
other with a handler is received, is quiet from then on. -/
theorem quiet_of_undisturbed {events : List ThreadEvent}
    (hRun : Run (Shutdown.step env) (Undisturbed env) (initial config) events w) :
    Along (Shutdown.step env) (Quiet env) (initial config) events :=
  hRun.along (fun w => ∃ phase, InPhase env w phase) ⟨_, inPhase_initial config⟩
    (fun _ ⟨_, h⟩ => h.quiet) fun _ _ _ ⟨_, h⟩ => h.step

/-- The shutdown begins while no stream message is handled, and none is received after. -/
def resting (w : Shutdown) : ThreadEvent → Bool
  | .main => !(w.ends || w.stops) ||
      match w.pair.rx with
      | .handling _ => false
      | _ => true
  | .rx => w.begun.isNone
  | _ => true

theorem undisturbed_of_resting {event : ThreadEvent} (h : w.resting event = true) :
    w.Undisturbed env event := by
  cases event with
  | main =>
      intro _ hBegins
      rw [resting, hBegins, Bool.not_true, Bool.false_or] at h
      cases hRx : w.pair.rx with
      | handling rest =>
          rw [hRx] at h
          cases h
      | _ => trivial
  | rx =>
      intro hSome _
      exact absurd (Option.isNone_iff_eq_none.mp h) hSome
  | _ => trivial

def shutdownEnvironment : Environment :=
  .ofTexts [(objectText sampleHeader, sampleHeader), (objectText sampleImage, sampleImage),
    (objectText closeCommand, closeCommand)]

/-- A header is handled, and the rx thread waits. -/
def headerHandled : List ThreadEvent :=
  consumerConnects ++ [.startRx, .rx, .arrive [objectText sampleHeader]] ++ List.replicate 24 .rx

/-- The main thread handles a close. -/
def closeHandled : List ThreadEvent :=
  [.deliver .control [[7], objectText closeCommand], .serve .control] ++ List.replicate 14 .main

/-- A close while the rx thread waits ends the series, and nothing follows. -/
theorem close_while_waiting :
    ∃ w, Run (Shutdown.step shutdownEnvironment) (Undisturbed shutdownEnvironment)
        (initial (parseArguments defaultOptions)) (headerHandled ++ closeHandled ++
          [.leave, .main, .main]) w ∧
      (w.fan.state, w.pair.closed, w.fan.output 0) =
        (.killRequested, [.forward, .consumer 0], sampleHeaderOpened ++ sampleEnd 7) ∧
      Along (Shutdown.step shutdownEnvironment) (Quiet shutdownEnvironment)
        (initial (parseArguments defaultOptions)) (headerHandled ++ closeHandled ++
          [.leave, .main, .main]) := by
  have hExec : (exec (guarded (Shutdown.step shutdownEnvironment)
      fun w event => w.resting event = true) (initial (parseArguments defaultOptions))
      (headerHandled ++ closeHandled ++ [.leave, .main, .main])).map
      (fun w => (w.fan.state, w.pair.closed, w.fan.output 0)) =
      some (.killRequested, [.forward, .consumer 0], sampleHeaderOpened ++ sampleEnd 7) := by
    decide +kernel
  obtain ⟨w, hGuarded, hEnd⟩ := Option.map_eq_some_iff.mp hExec
  have hRun : Run _ (Undisturbed shutdownEnvironment) _ _ _ :=
    (run_iff_exec_guarded.mpr hGuarded).mono fun _ _ => undisturbed_of_resting
  exact ⟨w, hRun, hEnd, quiet_of_undisturbed hRun⟩

/-- The first part of an image has been sent when the main thread handles a close. -/
def imageOpened : List ThreadEvent :=
  headerHandled ++ [.arrive (objectText sampleImage :: [[1], [2], [3]])] ++
    List.replicate 22 .rx ++ closeHandled

/-- The end message goes out in the middle of the image. -/
def imageSplit : List (Bytes × Bool) :=
  sampleHeaderOpened ++ [(objectText (.object [(headerTypeKey, .string imageHeaderType),
    (frameKey, .int 0), (acquisitionIDKey, .string [])]), true)] ++ sampleEnd 7 ++
    [([1], true), ([2], true), ([3], false)]

/-- A close amid an image. What is left of the image follows the end and the state is
overwritten; or the sockets are closed, and the rx thread is about to send on them. -/
theorem close_amid_image :
    ∃ u v w, Run (Shutdown.step shutdownEnvironment) always
        (initial (parseArguments defaultOptions)) imageOpened u ∧
      (u.stopped.isSome, u.fan.state) = (true, .killRequested) ∧
      Run (Shutdown.step shutdownEnvironment) always u (List.replicate 4 .rx) v ∧
      (v.stopped.isSome, v.fan.state, v.fan.output 0) = (true, .dstrImage, imageSplit) ∧
      ¬ v.Quiet shutdownEnvironment ∧
      Run (Shutdown.step shutdownEnvironment) always u [.leave, .main, .main] w ∧
      (w.stopped.isSome, w.pair.closed, w.sends) = (true, [.forward, .consumer 0], true) ∧
      ¬ w.Quiet shutdownEnvironment := by
  have hOpened : (exec (Shutdown.step shutdownEnvironment)
      (initial (parseArguments defaultOptions)) imageOpened).map
      (fun u => (u.stopped.isSome, u.fan.state)) = some (true, .killRequested) := by decide +kernel
  have hGoesOn : ((exec (Shutdown.step shutdownEnvironment)
      (initial (parseArguments defaultOptions)) imageOpened).bind fun u =>
        exec (Shutdown.step shutdownEnvironment) u (List.replicate 4 .rx)).map
      (fun v => (v.stopped.isSome, v.fan.state, v.fan.output 0)) =
      some (true, .dstrImage, imageSplit) := by decide +kernel
  have hLeaves : ((exec (Shutdown.step shutdownEnvironment)
      (initial (parseArguments defaultOptions)) imageOpened).bind fun u =>
        exec (Shutdown.step shutdownEnvironment) u [.leave, .main, .main]).map
      (fun w => (w.stopped.isSome, w.pair.closed, w.sends)) =
      some (true, [.forward, .consumer 0], true) := by decide +kernel
  obtain ⟨u, hFirst, hStopped⟩ := Option.map_eq_some_iff.mp hOpened
  rw [hFirst, Option.bind_some] at hGoesOn hLeaves
  obtain ⟨v, hSecond, hSent⟩ := Option.map_eq_some_iff.mp hGoesOn
  obtain ⟨w, hThird, hClosed⟩ := Option.map_eq_some_iff.mp hLeaves
  refine ⟨u, v, w, run_always_iff.mpr hFirst, hStopped, run_always_iff.mpr hSecond, hSent,
    fun hQuiet => ?_, run_always_iff.mpr hThird, hClosed, fun hQuiet => ?_⟩
  · obtain ⟨hSome, hSent⟩ := Prod.mk.inj hSent
    have hState := hQuiet.state hSome
    rw [(Prod.mk.inj hSent).1] at hState
    cases hState
  · obtain ⟨hSome, hClosed⟩ := Prod.mk.inj hClosed
    have hSilent := hQuiet.silent hSome
    rw [(Prod.mk.inj hClosed).2] at hSilent
    cases hSilent

end Shutdown

end Eiger.Fan
