import EigerDetector.Fan.FanOut
import EigerDetector.Fan.Reception
import EigerDetector.Fan.Phases

/-! The global `more` that both threads write and test. Each thread tests the flag of its own
socket as long as the other does not fetch a different one in between. -/
namespace Eiger.Fan

open CharArrays Rapidjson Threads Rx Multipart Transition EigerFan ThreadPair

/-- The flag and the rx socket are the same. -/
structure EigerFan.SameFlag (s t : EigerFan) : Prop where
  more : t.more = s.more
  rxSocket : t.rxSocket = s.rxSocket

/-- The action leaves the flag and the rx socket alone. -/
def Aside : RxAction → Prop
  | .assign update => ∀ s : EigerFan, s.SameFlag (update s)
  | action => OffSocket action

/-- Beside its own sockets the action leaves the flag and the rx socket alone. -/
def MainAction.Aside : MainAction → Prop
  | shared action => Fan.Aside action
  | attempt use => ∀ s t, use s = some t → s.SameFlag t
  | _ => True

section Actions

variable {env : Environment} {s t : EigerFan}

theorem EigerFan.SameFlag.refl (s : EigerFan) : s.SameFlag s := ⟨rfl, rfl⟩

theorem aside_of_routine {action : RxAction} (hRoutine : Routine action)
    (hOff : OffSocket action) : Aside action := by
  cases action with
  | assign update =>
      intro s
      cases (hRoutine : Assigned update) <;> exact ⟨rfl, rfl⟩
  | _ => exact hOff

theorem sendTo_sameFlag {rank : Int} {parts : List (Bytes × Bool)}
    (h : s.sendTo rank parts = some t) : s.SameFlag t := by
  obtain ⟨_, _, rfl⟩ := Option.map_eq_some_iff.mp h
  exact ⟨rfl, rfl⟩

theorem forward_sameFlag (parts : List (Bytes × Bool)) (s : EigerFan) :
    s.SameFlag (s.forward parts) := by
  rw [forward_eq]
  exact ⟨rfl, rfl⟩

theorem answer_sameFlag {action : RxAction} {reply : action.Reply} (hAside : Aside action)
    (h : answer env action s = some (t, reply)) : s.SameFlag t := by
  cases action with
  | members => cases h; exact .refl s
  | assign update => cases h; exact hAside s
  | recv => exact hAside.elim
  | getsockopt => exact hAside.elim
  | writeMessageToFile message filename =>
      obtain ⟨doc, files, calls, hWritten⟩ := writeMessageToFile_scratch env s message filename
      have hState : (s.writeMessageToFile env message filename).1 = t :=
        congrArg Prod.fst (Option.some.inj h)
      rw [← hState, hWritten]
      exact ⟨rfl, rfl⟩
  | forward parts => cases h; exact forward_sameFlag parts s
  | sendTo rank parts =>
      rw [answer] at h
      split at h
      · cases h
        exact .refl s
      · next sent hSend =>
          cases h
          exact sendTo_sameFlag hSend
  | sendMessageToSingleConsumer message sndmore =>
      rw [answer, Option.some.injEq, EigerFan.sendToSingle] at h
      have hForward := forward_sameFlag [(message, sndmore)] s
      split at h
      · cases h
        exact hForward
      · next sent hSend =>
          cases h
          have hSent := sendTo_sameFlag hSend
          exact ⟨hSent.more.trans hForward.more, hSent.rxSocket.trans hForward.rxSocket⟩

end Actions

section Handlers

variable (env : Environment)

theorem EigerFan.Attended.sameFlag {s t : EigerFan} (h : s.Attended t) : s.SameFlag t :=
  ⟨h.more, h.rxSocket⟩

theorem MainAction.Plain.aside {action : MainAction} (h : action.Plain env) : action.Aside := by
  cases h with
  | recv channel => trivial
  | getsockopt channel => trivial
  | members => trivial
  | monitor code rank =>
      intro s
      have hStep : mainStep env s (.monitor code rank) = some _ := rfl
      exact (monitor_attended _ hStep fun _ _ hEvent => by cases hEvent).sameFlag
  | forwardMonitor code =>
      intro s
      have hStep : mainStep env s (.forwardMonitor code) = some _ := rfl
      exact (monitor_attended _ hStep fun _ _ hEvent => by cases hEvent).sameFlag
  | finishConfigure message idMessage params =>
      intro s t hUse
      exact (finishConfigure_attended hUse).sameFlag
  | finishControl idMessage hParams =>
      intro s t hUse
      exact (finishControl_attended hParams hUse).sameFlag

theorem Moves.aside {phase phase' : Phase} {action : MainAction}
    (h : Moves env phase action phase') : action.Aside := by
  cases h with
  | serve hPlain => exact hPlain.aside
  | after hPlain => exact hPlain.aside
  | begin series acquisitionID => trivial
  | offer hOffered => trivial
  | mark parts offered => exact fun s => ⟨rfl, rfl⟩
  | kill => exact fun s => ⟨rfl, rfl⟩
  | killEnded => exact fun s => ⟨rfl, rfl⟩
  | stop => exact fun s => ⟨rfl, rfl⟩

/-- The handlers of the main thread touch the flag only by fetching it. -/
theorem handler_aside (fuel : Nat) (channel : Channel) :
    (handler env fuel channel).Uses MainAction.Aside anything :=
  (handler_phased fuel (.inl rfl) fun _ => rfl).uses fun _ _ _ => Moves.aside env

end Handlers

/-- Both threads with what is about to be tested and what the rx thread has not read: whose
flag was fetched last by a thread that has not tested it yet, the parts left of the message
in hand, and the messages behind it. -/
structure Flagged where
  pair : ThreadPair
  rxTests : Bool
  mainTests : Option Channel
  unread : List Bytes
  messages : List (List Bytes)

namespace Flagged

def initial (config : EigerFanConfig) : Flagged := ⟨.initial config, false, none, [], []⟩

def fan (w : Flagged) : EigerFan := w.pair.process.fan

def channel (w : Flagged) (channel : Channel) : RxSocket := w.pair.process.channels channel

/-- The next step of the rx thread fetches its flag. -/
def rxFetches (w : Flagged) : Bool :=
  match w.pair.rx with
  | .handling (.act .getsockopt _) => true
  | _ => false

/-- The socket whose flag the next step of the main thread fetches. -/
def mainFetches (w : Flagged) : Option Channel :=
  match w.pair.main with
  | .handling (.act (.getsockopt channel) _) => some channel
  | _ => none

/-- What the next step of the rx thread leaves unread. -/
def rxReads (w : Flagged) : List Bytes × List (List Bytes) :=
  match w.pair.rx with
  | .waiting => ((w.messages.headD []).tail, w.messages.tail)
  | .handling (.act .recv _) => (w.unread.tail, w.messages)
  | _ => (w.unread, w.messages)

def follow (w : Flagged) (pair : ThreadPair) : ThreadEvent → Flagged
  | .arrive message => { w with pair := pair, messages := w.messages ++ [message] }
  | .main => { w with pair := pair, mainTests := w.mainFetches }
  | .rx => { w with
      pair := pair
      rxTests := w.rxFetches
      unread := w.rxReads.1
      messages := w.rxReads.2 }
  | _ => { w with pair := pair }

def step (env : Environment) (w : Flagged) (event : ThreadEvent) : Option Flagged :=
  (w.pair.step env event).map fun pair => w.follow pair event

/-- The rx thread is in a handler. -/
def receiving (w : Flagged) : Bool :=
  match w.pair.rx with
  | .handling _ => true
  | _ => false

/-- A thread that is about to test `more` finds the flag of its own socket, which for the rx
thread says whether the message in hand has parts left. What is queued are the parts left
and whole messages. -/
structure Honest (w : Flagged) : Prop where
  rxTest : w.rxTests = true → w.fan.more = w.fan.rxSocket.moreValue
  mainTest : ∀ channel, w.mainTests = some channel →
    w.fan.more = (w.channel channel).moreValue
  partsLeft : w.rxTests = true → (w.fan.more = moreMessages ↔ w.unread ≠ [])
  framed : w.fan.rxSocket.queue = frame w.unread ++ stream w.messages
  between : w.receiving = false → w.unread = []

/-- No thread fetches a flag that differs from one the other thread has fetched and is about
to test. -/
def Undivided (w : Flagged) : ThreadEvent → Prop
  | .rx => w.rxFetches = true → ∀ channel ∈ w.mainTests,
      (w.channel channel).rcvMore = w.fan.rxSocket.rcvMore
  | .main => ∀ channel ∈ w.mainFetches, w.rxTests = true →
      (w.channel channel).rcvMore = w.fan.rxSocket.rcvMore
  | _ => True

instance (w : Flagged) : (event : ThreadEvent) → Decidable (w.Undivided event)
  | .rx => inferInstanceAs (Decidable (_ → ∀ channel ∈ w.mainTests, _))
  | .main => inferInstanceAs (Decidable (∀ channel ∈ w.mainFetches, _))
  | .startRx => .isTrue trivial
  | .arrive _ => .isTrue trivial
  | .deliver _ _ => .isTrue trivial
  | .serve _ => .isTrue trivial
  | .leave => .isTrue trivial

/-- What the rest of the rx thread's handler will do. -/
def RxSound (w : Flagged) : RxThread → Prop
  | .handling rest => rest.Tracked reception (fun g _ => g.unread = []) (fun _ _ => True)
        ⟨w.unread, w.rxTests⟩ ∧
      rest.Uses Routine anything ∧ w.fan.rxSocket.rcvMore = !w.unread.isEmpty
  | _ => w.unread = [] ∧ w.rxTests = false

def MainSound : MainThread → Prop
  | .handling rest => rest.Uses MainAction.Aside anything
  | _ => True

/-- Each thread will test what it fetched, and receives what is there. -/
structure Sound (w : Flagged) : Prop where
  rx : w.RxSound w.pair.rx
  main : MainSound w.pair.main
  framed : w.fan.rxSocket.queue = frame w.unread ++ stream w.messages
  parts : ∀ message ∈ w.messages, message ≠ []
  rxTest : w.rxTests = true → w.fan.more = w.fan.rxSocket.moreValue
  mainTest : ∀ channel, w.mainTests = some channel → w.fan.more = (w.channel channel).moreValue

theorem moreValue_eq_iff (socket : RxSocket) :
    socket.moreValue = moreMessages ↔ socket.rcvMore = true := by
  unfold RxSocket.moreValue
  cases socket.rcvMore <;> decide

theorem moreValue_inj {first second : RxSocket} :
    first.moreValue = second.moreValue ↔ first.rcvMore = second.rcvMore := by
  unfold RxSocket.moreValue
  cases first.rcvMore <;> cases second.rcvMore <;> decide

variable {env : Environment} {config : EigerFanConfig} {w w' : Flagged}

theorem sound_initial (config : EigerFanConfig) : Sound (initial config) :=
  ⟨⟨rfl, rfl⟩, trivial, rfl, fun _ h => absurd h List.not_mem_nil, nofun, nofun⟩

theorem Sound.honest (h : Sound w) : w.Honest := by
  have hRx := h.rx
  refine ⟨h.rxTest, h.mainTest, fun hTests => ?_, h.framed, fun hBetween => ?_⟩
  · rw [h.rxTest hTests, moreValue_eq_iff]
    cases hThread : w.pair.rx with
    | handling rest =>
        rw [hThread] at hRx
        rw [hRx.2.2, Bool.not_eq_true', List.isEmpty_eq_false_iff]
    | _ =>
        rw [hThread] at hRx
        rw [hRx.2] at hTests
        cases hTests
  · cases hThread : w.pair.rx with
    | handling rest =>
        rw [receiving, hThread] at hBetween
        cases hBetween
    | _ =>
        rw [hThread] at hRx
        exact hRx.1

/-- The first message that is queued and what is left of it once its first part is read. -/
theorem messages_cases {messages : List (List Bytes)} {part : Bytes} {more : Bool}
    {queue : List (Bytes × Bool)} (hParts : ∀ message ∈ messages, message ≠ [])
    (hQueue : stream messages = (part, more) :: queue) :
    ∃ rest others, messages = (part :: rest) :: others ∧ more = !rest.isEmpty ∧
      queue = frame rest ++ stream others := by
  cases messages with
  | nil => cases hQueue
  | cons message others =>
      cases message with
      | nil => exact absurd rfl (hParts [] List.mem_cons_self)
      | cons first rest =>
          rw [stream_cons, frame_cons, List.cons_append] at hQueue
          obtain ⟨hHead, hTail⟩ := List.cons.inj hQueue
          obtain ⟨rfl, rfl⟩ := Prod.mk.inj hHead
          exact ⟨rest, others, rfl, rfl, hTail.symm⟩

theorem frame_unread {unread : List Bytes} {part : Bytes} {more : Bool}
    {queue tail : List (Bytes × Bool)} (hSome : unread ≠ [])
    (hQueue : frame unread ++ tail = (part, more) :: queue) :
    ∃ rest, unread = part :: rest ∧ more = !rest.isEmpty ∧ queue = frame rest ++ tail := by
  cases unread with
  | nil => exact absurd rfl hSome
  | cons first rest =>
      rw [frame_cons, List.cons_append] at hQueue
      obtain ⟨hHead, hTail⟩ := List.cons.inj hQueue
      obtain ⟨rfl, rfl⟩ := Prod.mk.inj hHead
      exact ⟨rest, rfl, rfl, hTail.symm⟩

/-- An action of the rx thread beside its socket. -/
theorem Sound.rx_aside {action : RxAction} {next : action.Reply → Rx Unit} {fan : EigerFan}
    {reply : action.Reply} (h : Sound w) (hRx : w.pair.rx = .handling (.act action next))
    (hSame : w.fan.SameFlag fan) (hFetches : w.rxFetches = false)
    (hReads : w.rxReads = (w.unread, w.messages))
    (hNext : (next reply).Tracked reception (fun g _ => g.unread = []) (fun _ _ => True)
      ⟨w.unread, false⟩) :
    Sound (w.follow { w.pair.withFan fan with rx := .handling (next reply) } .rx) := by
  have hSound := h.rx
  rw [hRx] at hSound
  obtain ⟨_, ⟨_, hUses⟩, hFlag⟩ := hSound
  rw [follow, hFetches, hReads]
  refine ⟨⟨hNext, hUses reply, ?_⟩, h.main, ?_, h.parts, nofun, fun channel hTests => ?_⟩
  · show fan.rxSocket.rcvMore = _
    rw [hSame.rxSocket]
    exact hFlag
  · show fan.rxSocket.queue = _
    rw [hSame.rxSocket]
    exact h.framed
  · show fan.more = _
    rw [hSame.more]
    exact h.mainTest channel hTests

/-- One action of the rx thread. -/
theorem Sound.rx_action {action : RxAction} {next : action.Reply → Rx Unit} {fan : EigerFan}
    {reply : action.Reply} (h : Sound w) (hRx : w.pair.rx = .handling (.act action next))
    (hAnswer : answer env action w.fan = some (fan, reply)) (hUndivided : w.Undivided .rx) :
    Sound (w.follow { w.pair.withFan fan with rx := .handling (next reply) } .rx) := by
  have hSound := h.rx
  rw [hRx] at hSound
  obtain ⟨⟨hPermits, hFollows⟩, ⟨hRoutine, hUses⟩, hFlag⟩ := hSound
  cases action with
  | recv =>
      have hFetches : w.rxFetches = false := by rw [rxFetches, hRx]
      have hReads : w.rxReads = (w.unread.tail, w.messages) := by rw [rxReads, hRx]
      rw [answer] at hAnswer
      split at hAnswer
      · cases hAnswer
      · next part more queue hQueue =>
          cases hAnswer
          have hSome : w.unread ≠ [] := hPermits
          obtain ⟨rest, hUnread, hMore, hRest⟩ :=
            frame_unread hSome (h.framed.symm.trans hQueue)
          have hTail : w.unread.tail = rest := by rw [hUnread, List.tail_cons]
          rw [follow, hFetches, hReads, hTail]
          exact ⟨⟨hFollows _ ⟨rest, false⟩ ⟨rest, hUnread, rfl⟩, hUses _, hMore⟩, h.main, hRest,
            h.parts, (fun hTests => by cases hTests), h.mainTest⟩
  | getsockopt =>
      have hFetches : w.rxFetches = true := by rw [rxFetches, hRx]
      have hReads : w.rxReads = (w.unread, w.messages) := by rw [rxReads, hRx]
      cases hAnswer
      rw [follow, hFetches, hReads]
      refine ⟨⟨hFollows _ ⟨w.unread, true⟩ rfl, hUses _, hFlag⟩, h.main, h.framed, h.parts,
        fun _ => rfl, fun channel hTests => ?_⟩
      exact moreValue_inj.mpr (hUndivided hFetches channel hTests).symm
  | members =>
      have hFetches : w.rxFetches = false := by rw [rxFetches, hRx]
      have hReads : w.rxReads = (w.unread, w.messages) := by rw [rxReads, hRx]
      cases hAnswer
      exact h.rx_aside hRx (.refl _) hFetches hReads
        (hFollows _ ⟨w.unread, false⟩ ⟨h.honest.partsLeft, rfl⟩)
  | _ =>
      have hFetches : w.rxFetches = false := by rw [rxFetches, hRx]
      have hReads : w.rxReads = (w.unread, w.messages) := by rw [rxReads, hRx]
      have hAside := aside_of_routine hRoutine trivial
      exact h.rx_aside hRx (answer_sameFlag hAside hAnswer) hFetches hReads
        (hFollows reply ⟨w.unread, false⟩ rfl)

theorem Sound.rx_step {pair : ThreadPair} (h : Sound w) (hUndivided : w.Undivided .rx)
    (hStep : w.pair.rxStep env = some pair) : Sound (w.follow pair .rx) := by
  have hSound := h.rx
  rcases ThreadPair.rxStep_cases hStep with ⟨hRx, rfl⟩ | ⟨hRx, part, more, queue, hQueue, rfl⟩ |
    ⟨action, next, fan, reply, hRx, hAnswer, rfl⟩ | ⟨result, hRx, rfl⟩
  · have hFetches : w.rxFetches = false := by rw [rxFetches, hRx]
    have hReads : w.rxReads = (w.unread, w.messages) := by rw [rxReads, hRx]
    rw [hRx] at hSound
    rw [follow, hFetches, hReads]
    refine ⟨?_, h.main, h.framed, h.parts, nofun, h.mainTest⟩
    show RxSound _ (if w.pair.process.fan.killRequested then _ else _)
    split <;> exact ⟨hSound.1, rfl⟩
  · have hFetches : w.rxFetches = false := by rw [rxFetches, hRx]
    have hReads : w.rxReads = ((w.messages.headD []).tail, w.messages.tail) := by
      rw [rxReads, hRx]
    rw [hRx] at hSound
    have hStream : stream w.messages = (part, more) :: queue := by
      have hFramed := h.framed
      rw [hSound.1, frame_nil, List.nil_append] at hFramed
      exact hFramed.symm.trans hQueue
    obtain ⟨rest, others, hMessages, hMore, hRest⟩ := messages_cases h.parts hStream
    have hParts := h.parts
    rw [hMessages] at hParts
    rw [follow, hFetches, hReads, hMessages]
    refine ⟨⟨handleStreamMessage_tracked env part ?_, handleStreamMessage_uses env _ part, hMore⟩,
      h.main, hRest, fun message hMessage => hParts message (List.mem_cons_of_mem _ hMessage),
      nofun, h.mainTest⟩
    show rest.length ≤ w.pair.process.fan.rxSocket.queue.length
    rw [hQueue, hRest, List.length_cons, List.length_append, frame_length]
    omega
  · exact h.rx_action hRx hAnswer hUndivided
  · have hFetches : w.rxFetches = false := by rw [rxFetches, hRx]
    have hReads : w.rxReads = (w.unread, w.messages) := by rw [rxReads, hRx]
    rw [hRx] at hSound
    rw [follow, hFetches, hReads]
    exact ⟨⟨hSound.1, rfl⟩, h.main, h.framed, h.parts, nofun, h.mainTest⟩

/-- One action of the main thread. -/
theorem Sound.main_action {action : MainAction} {next : action.Reply → Main Unit}
    {process : Process} {reply : action.Reply} (h : Sound w)
    (hMain : w.pair.main = .handling (.act action next))
    (hAnswer : answerMain env action w.pair.process = some (process, reply))
    (hUndivided : w.Undivided .main) :
    Sound (w.follow { w.pair with process := process, main := .handling (next reply) } .main) := by
  have hSound := h.main
  rw [hMain] at hSound
  obtain ⟨hAside, hUses⟩ := hSound
  -- the rest of the handler of the rx thread sees the same socket and the same parts left
  have hRxSound : process.fan.rxSocket = w.fan.rxSocket → ∀ pair mainTests,
      pair.process = process → pair.rx = w.pair.rx →
      RxSound ⟨pair, w.rxTests, mainTests, w.unread, w.messages⟩ pair.rx := by
    intro hSocket pair mainTests hProcess hThread
    have hRx := h.rx
    rw [hThread]
    cases hRest : w.pair.rx with
    | handling rest =>
        rw [hRest] at hRx
        refine ⟨hRx.1, hRx.2.1, ?_⟩
        show pair.process.fan.rxSocket.rcvMore = _
        rw [hProcess, hSocket]
        exact hRx.2.2
    | _ =>
        rw [hRest] at hRx
        exact hRx
  have hKept : w.fan.SameFlag process.fan → w.mainFetches = none →
      Sound (w.follow { w.pair with process := process, main := .handling (next reply) } .main) := by
    intro hSame hFetches
    rw [follow, hFetches]
    refine ⟨hRxSound hSame.rxSocket _ _ rfl rfl, hUses reply, ?_, h.parts, fun hTests => ?_, nofun⟩
    · show process.fan.rxSocket.queue = _
      rw [hSame.rxSocket]
      exact h.framed
    · show process.fan.more = process.fan.rxSocket.moreValue
      rw [hSame.more, hSame.rxSocket]
      exact h.rxTest hTests
  cases action with
  | getsockopt channel =>
      have hFetches : w.mainFetches = some channel := by rw [mainFetches, hMain]
      cases hAnswer
      rw [follow, hFetches]
      refine ⟨hRxSound rfl _ _ rfl rfl, hUses _, h.framed, h.parts, fun hTests => ?_, ?_⟩
      · exact moreValue_inj.mpr (hUndivided channel hFetches hTests)
      · rintro _ ⟨⟩
        rfl
  | shared action =>
      obtain ⟨⟨fan, result⟩, hShared, hPair⟩ := Option.map_eq_some_iff.mp hAnswer
      cases hPair
      exact hKept (answer_sameFlag hAside hShared) (by rw [mainFetches, hMain])
  | recv channel =>
      rw [answerMain] at hAnswer
      split at hAnswer
      · cases hAnswer
      · cases hAnswer
        exact hKept (.refl _) (by rw [mainFetches, hMain])
  | attempt use =>
      rw [answerMain] at hAnswer
      split at hAnswer
      · cases hAnswer
        exact hKept (.refl _) (by rw [mainFetches, hMain])
      · next fan hUse =>
          cases hAnswer
          exact hKept (hAside _ _ hUse) (by rw [mainFetches, hMain])

theorem Sound.main_step {pair : ThreadPair} (h : Sound w) (hUndivided : w.Undivided .main)
    (hStep : w.pair.mainStep env = some pair) : Sound (w.follow pair .main) := by
  have hSound := h.main
  rcases ThreadPair.mainStep_cases hStep with ⟨action, next, process, reply, hMain, hAnswer, rfl⟩ |
    ⟨result, hMain, rfl⟩ | ⟨socket, left, hMain, rfl⟩
  · exact h.main_action hMain hAnswer hUndivided
  · have hFetches : w.mainFetches = none := by rw [mainFetches, hMain]
    rw [follow, hFetches]
    exact ⟨h.rx, trivial, h.framed, h.parts, h.rxTest, nofun⟩
  · have hFetches : w.mainFetches = none := by rw [mainFetches, hMain]
    rw [follow, hFetches]
    exact ⟨h.rx, trivial, h.framed, h.parts, h.rxTest, nofun⟩

/-- What a thread is about to test stays where it is when messages arrive. -/
theorem Sound.queued {pair : ThreadPair} {messages : List (List Bytes)} (h : Sound w)
    (hRx : pair.rx = w.pair.rx) (hMain : pair.main = w.pair.main)
    (hMore : pair.process.fan.more = w.fan.more)
    (hFlag : pair.process.fan.rxSocket.rcvMore = w.fan.rxSocket.rcvMore)
    (hChannels : ∀ channel, (pair.process.channels channel).rcvMore = (w.channel channel).rcvMore)
    (hFramed : pair.process.fan.rxSocket.queue = frame w.unread ++ stream messages)
    (hParts : ∀ message ∈ messages, message ≠ []) :
    Sound { w with pair := pair, messages := messages } := by
  have hSound := h.rx
  refine ⟨?_, ?_, hFramed, hParts, fun hTests => ?_, fun channel hTests => ?_⟩
  · show RxSound _ pair.rx
    rw [hRx]
    cases hThread : w.pair.rx with
    | handling rest =>
        rw [hThread] at hSound
        exact ⟨hSound.1, hSound.2.1, hFlag.trans hSound.2.2⟩
    | _ =>
        rw [hThread] at hSound
        exact hSound
  · show MainSound pair.main
    rw [hMain]
    exact h.main
  · exact hMore.trans ((h.rxTest hTests).trans (moreValue_inj.mpr hFlag.symm))
  · exact hMore.trans ((h.mainTest channel hTests).trans (moreValue_inj.mpr (hChannels channel).symm))

theorem Sound.step {event : ThreadEvent} (h : Sound w) (hUndivided : w.Undivided event)
    (hStep : w.step env event = some w') : Sound w' := by
  obtain ⟨pair, hPair, rfl⟩ := Option.map_eq_some_iff.mp hStep
  have hCases := ThreadPair.step_cases hPair
  cases event with
  | startRx =>
      obtain ⟨_, hRx, _, _, rfl⟩ := hCases
      have hSound := h.rx
      rw [hRx] at hSound
      exact ⟨hSound, h.main, h.framed, h.parts, h.rxTest, h.mainTest⟩
  | arrive message =>
      obtain ⟨_, hSome, rfl⟩ := hCases
      refine h.queued rfl rfl rfl rfl (fun _ => rfl) ?_ ?_
      · show w.fan.rxSocket.queue ++ frame message = _
        rw [h.framed, stream_append, stream_cons, stream_nil, List.append_nil, List.append_assoc]
      · intro other hOther
        rcases List.mem_append.mp hOther with hOld | hNew
        · exact h.parts other hOld
        · exact List.mem_singleton.mp hNew ▸ hSome
  | deliver channel message =>
      cases hCases
      refine h.queued rfl rfl rfl rfl (fun other => ?_) h.framed h.parts
      show (Function.update w.pair.process.channels channel _ other).rcvMore = _
      by_cases hOther : other = channel
      · subst hOther
        rw [Function.update_self]
        rfl
      · rw [Function.update_of_ne hOther]
        rfl
  | serve channel =>
      obtain ⟨_, _, rfl⟩ := hCases
      exact ⟨h.rx, handler_aside env _ channel, h.framed, h.parts, h.rxTest, h.mainTest⟩
  | leave =>
      obtain ⟨_, _, rfl⟩ := hCases
      exact ⟨h.rx, trivial, h.framed, h.parts, h.rxTest, h.mainTest⟩
  | main => exact h.main_step hUndivided hCases
  | rx => exact h.rx_step hUndivided hCases

/-- What the rx thread does when it fetches its flag. -/
theorem rx_fetched {pair : ThreadPair} (hFetches : w.rxFetches = true)
    (hStep : w.pair.rxStep env = some pair) :
    pair.process.channels = w.pair.process.channels ∧
      pair.process.fan.more = w.fan.rxSocket.moreValue := by
  rcases ThreadPair.rxStep_cases hStep with ⟨hRx, _⟩ | ⟨hRx, _⟩ |
    ⟨action, next, fan, reply, hRx, hAnswer, rfl⟩ | ⟨result, hRx, _⟩
  · rw [rxFetches, hRx] at hFetches
    cases hFetches
  · rw [rxFetches, hRx] at hFetches
    cases hFetches
  · cases action with
    | getsockopt =>
        cases hAnswer
        exact ⟨rfl, rfl⟩
    | _ =>
        rw [rxFetches, hRx] at hFetches
        cases hFetches
  · rw [rxFetches, hRx] at hFetches
    cases hFetches

/-- What the main thread does when it fetches the flag of a socket. -/
theorem main_fetched {pair : ThreadPair} {channel : Channel}
    (hFetches : w.mainFetches = some channel) (hStep : w.pair.mainStep env = some pair) :
    pair.process.fan.rxSocket = w.fan.rxSocket ∧
      pair.process.fan.more = (w.channel channel).moreValue := by
  rcases ThreadPair.mainStep_cases hStep with ⟨action, next, process, reply, hMain, hAnswer, rfl⟩ |
    ⟨result, hMain, _⟩ | ⟨socket, left, hMain, _⟩
  · cases action with
    | getsockopt fetched =>
        rw [mainFetches, hMain] at hFetches
        cases hFetches
        cases hAnswer
        exact ⟨rfl, rfl⟩
    | _ =>
        rw [mainFetches, hMain] at hFetches
        cases hFetches
  · rw [mainFetches, hMain] at hFetches
    cases hFetches
  · rw [mainFetches, hMain] at hFetches
    cases hFetches

/-- The thread whose flag was overwritten is about to test the other's. -/
theorem Sound.step_divided {event : ThreadEvent} (hDivided : ¬ w.Undivided event)
    (hStep : w.step env event = some w') : ¬ w'.Honest := by
  obtain ⟨pair, hPair, rfl⟩ := Option.map_eq_some_iff.mp hStep
  have hCases := ThreadPair.step_cases hPair
  intro hHonest
  cases event with
  | rx =>
      refine hDivided fun hFetches channel hTests => ?_
      obtain ⟨hChannels, hMore⟩ := rx_fetched hFetches hCases
      have hTest : pair.process.fan.more = (pair.process.channels channel).moreValue :=
        hHonest.mainTest channel hTests
      rw [hMore, hChannels] at hTest
      exact (moreValue_inj.mp hTest).symm
  | main =>
      refine hDivided fun channel hFetches hTests => ?_
      obtain ⟨hSocket, hMore⟩ := main_fetched hFetches hCases
      have hTest : pair.process.fan.more = pair.process.fan.rxSocket.moreValue :=
        hHonest.rxTest hTests
      rw [hMore, hSocket] at hTest
      exact moreValue_inj.mp hTest
  | _ => exact hDivided trivial

/-- Along a run every thread tests its own flag exactly if no thread fetches a different one
before the other has tested what it fetched. -/
theorem honest_iff_undivided {events : List ThreadEvent}
    (hExec : exec (Flagged.step env) (initial config) events = some w) :
    Along (Flagged.step env) Honest (initial config) events ↔
      Run (Flagged.step env) Undivided (initial config) events w :=
  along_iff_run Sound (sound_initial config) (fun _ => Sound.honest)
    (fun _ _ _ => Sound.step) (fun _ _ _ _ hDivided hStep => Sound.step_divided hDivided hStep)
    hExec

/-- The rx thread is started, and an image arrives. -/
def imageArrives : List ThreadEvent :=
  [.startRx, .rx, .arrive (objectText sampleImage :: [[1], [2], [3]])]

/-- A monitor handled between the test of one part and the receipt of the next. -/
theorem monitored_between_tests :
    ∃ w, exec (Flagged.step sampleEnvironment) (initial (parseArguments defaultOptions))
        (consumerConnects ++ imageArrives ++ List.replicate 6 .rx ++ consumerConnects ++
          List.replicate 24 .rx) = some w ∧
      w.fan.output 0 = stream [[objectText (.object [(headerTypeKey, .string imageHeaderType),
        (frameKey, .int 0), (acquisitionIDKey, .string [])]), [1], [2], [3]]] ∧
      Along (Flagged.step sampleEnvironment) Honest (initial (parseArguments defaultOptions))
        (consumerConnects ++ imageArrives ++ List.replicate 6 .rx ++ consumerConnects ++
          List.replicate 24 .rx) := by
  have hExec : (exec (guarded (Flagged.step sampleEnvironment) Undivided)
      (initial (parseArguments defaultOptions))
      (consumerConnects ++ imageArrives ++ List.replicate 6 .rx ++ consumerConnects ++
        List.replicate 24 .rx)).map (fun w => w.fan.output 0) =
      some (stream [[objectText (.object [(headerTypeKey, .string imageHeaderType),
        (frameKey, .int 0), (acquisitionIDKey, .string [])]), [1], [2], [3]]]) := by
    decide +kernel
  obtain ⟨w, hGuarded, hOutput⟩ := Option.map_eq_some_iff.mp hExec
  have hRun := run_iff_exec_guarded.mpr hGuarded
  have hTaken := hRun.executes
  exact ⟨w, hTaken, hOutput, (honest_iff_undivided hTaken).mpr hRun⟩

/-- A monitor handled between the fetching and the test of the flag of the first part: the
image has parts left and is dropped, and counted as sent. -/
theorem monitored_before_test :
    ∃ v w, Run (Flagged.step sampleEnvironment) always (initial (parseArguments defaultOptions))
        (consumerConnects ++ imageArrives ++ List.replicate 5 .rx ++ consumerConnects) v ∧
      (v.rxTests, v.fan.rxSocket.rcvMore, v.fan.more) = (true, true, 0) ∧ ¬ v.Honest ∧
      Run (Flagged.step sampleEnvironment) always v (List.replicate 15 .rx) w ∧
      (w.receiving, w.fan.rxSocket.queue.length, (w.fan.output 0).length, w.fan.numFramesSent) =
        (false, 0, 0, 1) := by
  have hExec : ((exec (Flagged.step sampleEnvironment) (initial (parseArguments defaultOptions))
      (consumerConnects ++ imageArrives ++ List.replicate 5 .rx ++ consumerConnects)).bind fun v =>
        (exec (Flagged.step sampleEnvironment) v (List.replicate 15 .rx)).map fun w =>
          ((v.rxTests, v.fan.rxSocket.rcvMore, v.fan.more), w.receiving,
            w.fan.rxSocket.queue.length, (w.fan.output 0).length, w.fan.numFramesSent)) =
      some ((true, true, 0), false, 0, 0, 1) := by decide +kernel
  obtain ⟨v, hFirst, hRest⟩ := Option.bind_eq_some_iff.mp hExec
  obtain ⟨w, hSecond, hSeen⟩ := Option.map_eq_some_iff.mp hRest
  obtain ⟨hTest, hDropped⟩ := Prod.mk.inj hSeen
  obtain ⟨hTests, hFlags⟩ := Prod.mk.inj hTest
  obtain ⟨hFlag, hMore⟩ := Prod.mk.inj hFlags
  refine ⟨v, w, run_always_iff.mpr hFirst, hTest, fun hHonest => ?_, run_always_iff.mpr hSecond,
    hDropped⟩
  have hOwn := hHonest.rxTest hTests
  rw [hMore, RxSocket.moreValue, hFlag] at hOwn
  cases hOwn

end Flagged

end Eiger.Fan
