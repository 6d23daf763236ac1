import EigerDetector.Fan.Sockets

/-! The two threads interleaved. One step is one event of the main thread or one
send of the rx thread, together with what that thread does unseen up to its next
send. Framing on the sockets survives the interleaving under a condition on
what the gates of the sockets do in the middle of an image. -/
namespace Eiger.Fan

open CharArrays Rapidjson Threads Rx Multipart Transition EigerFan

/-- Both threads, with the rest of the handler the rx thread is in, and two
records: the sends of this handler so far, and all messages put on offer. -/
structure System where
  fan : EigerFan
  rx : Rx Unit
  partsSent : Nat
  offered : List (List Bytes)

inductive SystemEvent where
  | main (event : MainEvent)
  | startRx
  | arrive (message : List Bytes)
  | begin
  | send

def Sends.messages : Sends → List (List Bytes)
  | nothing => []
  | broadcast parts => [parts]
  | image parts => [parts]

/-- What the handler of the next stream message sets out to send. -/
def offer (env : Environment) (s : EigerFan) : List (List Bytes) :=
  match s.rxSocket.queue with
  | [] => []
  | (part1, more) :: queue =>
      match (prepare env part1).run (answer env) { s with rxSocket := ⟨queue, more⟩ } with
      | .returned _ plan => plan.sends.messages
      | _ => []

/-- The end message a control message sets out to send. -/
def endOffer (env : Environment) (s : EigerFan) : MainEvent → List (List Bytes)
  | .control message _ => if closesStream env message s then [[s.endMessage env]] else []
  | _ => []

namespace System

def initial (config : EigerFanConfig) : System := ⟨Fan.initial config, .done (), 0, []⟩

/-- No assertion has ended the process. -/
def alive (w : System) : Bool :=
  match w.rx with
  | .fail _ => false
  | _ => true

/-- The handler of the last message has returned. -/
def idle (w : System) : Bool :=
  match w.rx with
  | .done _ => true
  | _ => false

/-- The next send is a part of an image. -/
def sendsPart (w : System) : Bool :=
  match w.rx with
  | .act (.sendMessageToSingleConsumer _ _) _ => true
  | _ => false

/-- After a send, and what the thread does unseen after it. -/
def sent (env : Environment) (w : System) (fan : EigerFan) (rx : Rx Unit) : System :=
  let settled := rx.settle (answer env) hidden fan
  { w with fan := settled.1, rx := settled.2, partsSent := w.partsSent + 1 }

def step (env : Environment) (w : System) : SystemEvent → Option System
  | .main event =>
      if w.alive then
        (operate env w.fan (.main event)).map fun fan =>
          { w with fan := fan, offered := endOffer env w.fan event ++ w.offered }
      else none
  | .startRx => (operate env w.fan .startRx).map fun fan => { w with fan := fan }
  | .arrive message => (operate env w.fan (.arrive message)).map fun fan => { w with fan := fan }
  | .begin =>
      if ¬ w.idle ∨ w.fan.state = .waitingConsumers ∨ w.fan.rxSocket.queue.isEmpty then none
      else
        let settled := (handleRxSocket env).settle (answer env) hidden w.fan
        some ⟨settled.1, settled.2, 0, offer env w.fan ++ w.offered⟩
  | .send =>
      match w.rx with
      | .act action next =>
          if hidden action then none
          else (answer env action w.fan).map fun (fan, reply) => w.sent env fan (next reply)
      | _ => none

/-- In the middle of an image each of its sockets is open exactly if the part
before went out on it, no end message goes out there, and an image for a
consumer that does not exist is not forwarded. -/
def Undisturbed (env : Environment) (w : System) : SystemEvent → Prop
  | .main (.control message _) => closesStream env message w.fan = true →
      ∀ socket, w.fan.Open socket → ¬ MidMessage (w.fan.log socket)
  | .send => w.sendsPart = true →
      ((w.fan.consumerAt w.fan.currentConsumerIndexToSendTo).isSome ∨ ¬ w.fan.Open .forward) ∧
      (0 < w.partsSent → ∀ socket, w.fan.Target socket →
        (w.fan.Open socket ↔ MidMessage (w.fan.log socket)))
  | _ => True

end System

section Decidability

variable (s : EigerFan) (P : Socket → Prop)

theorem forall_target_iff : (∀ socket, s.Target socket → P socket) ↔
    P .forward ∧ (0 ≤ s.currentConsumerIndexToSendTo →
      P (.consumer s.currentConsumerIndexToSendTo.toNat)) := by
  constructor
  · exact fun h => ⟨h .forward trivial, fun hLow => h _ ⟨hLow, rfl⟩⟩
  · rintro ⟨hForward, hConsumer⟩ socket hTarget
    cases socket with
    | forward => exact hForward
    | consumer rank =>
        obtain ⟨hLow, rfl⟩ := hTarget
        exact hConsumer hLow

theorem forall_open_iff : (∀ socket, s.Open socket → P socket) ↔
    (s.Open .forward → P .forward) ∧
      ∀ rank < s.consumers.length, s.Open (.consumer rank) → P (.consumer rank) := by
  constructor
  · exact fun h => ⟨h .forward, fun rank _ => h (.consumer rank)⟩
  · rintro ⟨hForward, hConsumer⟩ socket hOpen
    cases socket with
    | forward => exact hForward hOpen
    | consumer rank =>
        obtain ⟨c, hc, _⟩ := (connected_iff s rank).mp hOpen
        exact hConsumer rank (List.getElem?_eq_some_iff.mp hc).1 hOpen

instance (env : Environment) (w : System) :
    (event : SystemEvent) → Decidable (w.Undisturbed env event)
  | .main (.control message _) => decidable_of_iff
      (closesStream env message w.fan = true →
        (w.fan.Open .forward → ¬ MidMessage (w.fan.log .forward)) ∧
          ∀ rank < w.fan.consumers.length, w.fan.Open (.consumer rank) →
            ¬ MidMessage (w.fan.log (.consumer rank)))
      (imp_congr_right fun _ =>
        (forall_open_iff w.fan fun socket => ¬ MidMessage (w.fan.log socket)).symm)
  | .send => decidable_of_iff
      (w.sendsPart = true →
        ((w.fan.consumerAt w.fan.currentConsumerIndexToSendTo).isSome ∨ ¬ w.fan.Open .forward) ∧
        (0 < w.partsSent → (w.fan.Open .forward ↔ MidMessage (w.fan.log .forward)) ∧
          (0 ≤ w.fan.currentConsumerIndexToSendTo →
            (w.fan.Open (.consumer w.fan.currentConsumerIndexToSendTo.toNat) ↔
              MidMessage (w.fan.log (.consumer w.fan.currentConsumerIndexToSendTo.toNat))))))
      (imp_congr_right fun _ => and_congr_right fun _ => imp_congr_right fun _ =>
        (forall_target_iff w.fan fun socket =>
          (w.fan.Open socket ↔ MidMessage (w.fan.log socket))).symm)
  | .main (.monitor _ _) => .isTrue trivial
  | .main (.forwardMonitor _) => .isTrue trivial
  | .startRx => .isTrue trivial
  | .arrive _ => .isTrue trivial
  | .begin => .isTrue trivial

end Decidability

section Silence

variable {env : Environment}

theorem silent_sockets (action : RxAction) (s s' : EigerFan) (reply : action.Reply)
    (hSilent : Silent action) (h : answer env action s = some (s', reply)) :
    SameSockets s s' := by
  cases action with
  | members => cases h; exact .refl s
  | assign update =>
      cases h
      obtain ⟨hAssigned, _⟩ := hSilent
      cases hAssigned <;> exact ⟨rfl, rfl⟩
  | recv =>
      rw [answer] at h
      split at h
      · cases h
      · cases h
        exact ⟨rfl, rfl⟩
  | getsockopt => cases h; exact ⟨rfl, rfl⟩
  | writeMessageToFile message filename =>
      obtain ⟨doc, files, calls, hWritten⟩ := writeMessageToFile_scratch env s message filename
      have hState : s' = { s with jsonDocument := doc, files := files, fileCalls := calls } := by
        rw [← hWritten]
        exact (congrArg Prod.fst (Option.some.inj h)).symm
      rw [hState]
      exact ⟨rfl, rfl⟩
  | forward parts => cases hSilent.2
  | sendTo rank parts => cases hSilent.2
  | sendMessageToSingleConsumer message sndmore => cases hSilent.2

theorem run_sockets {A : Type} {post : A → Prop} {p : Rx A} (h : p.Uses Silent post)
    (s : EigerFan) : SameSockets s (p.run (answer env) s).state :=
  h.run (fun action t t' reply hSilent hSame hAnswer =>
    hSame.trans (silent_sockets action t t' reply hSilent hAnswer)) (.refl s)

/-- The thread has no send in front of it. -/
def Resting (p : Rx Unit) : Prop := ∀ action next, p = .act action next → hidden action = true

/-- A program without sends settles without touching a socket. -/
theorem settle_silent {p : Rx Unit} (h : p.Uses Silent anything) (s : EigerFan) :
    SameSockets s (p.settle (answer env) hidden s).1 ∧
      Resting (p.settle (answer env) hidden s).2 := by
  have hSettle := (h.mono fun _ hSilent => hSilent.2).settle (answer env) s
  refine ⟨?_, hSettle.2⟩
  rw [hSettle.1]
  exact run_sockets h s

end Silence

/-- The rest of a handler whose sends are still to be done. -/
def handling (fuel : Nat) (updates : List (EigerFan → EigerFan)) (sends : Rx Unit) : Rx Unit :=
  ((sends >>= fun _ => Plan.update updates).onFailure caught) >>= fun _ => drainSurplusParts fuel

theorem caught_uses (e : Failure) : (caught e).Uses Silent anything := by
  cases e <;> trivial

theorem handling_uses {fuel : Nat} {updates : List (EigerFan → EigerFan)} {sends : Rx Unit}
    (hUpdates : ∀ f ∈ updates, Assigned f) (h : sends.Uses Silent anything) :
    (handling fuel updates sends).Uses Silent anything :=
  .seq (.onFailure (.seq h fun _ => update_uses hUpdates) caught_uses) fun _ =>
    drainSurplusParts_uses fuel

/-- Where the rx thread is in its sends, and what each socket has of them. `before`
are the messages that were on offer without the one that is being sent. -/
inductive Stage (w : System) : Prop where
  | resting (hRest : Resting w.rx) (hWhole : ∀ socket, Whole w.offered (w.fan.log socket))
  | forwarding {fuel : Nat} {updates : List (EigerFan → EigerFan)} {parts : List Bytes}
      {ranks : List Int} {before : List (List Bytes)}
      (hRx : w.rx = handling fuel updates
        (Rx.perform (.forward (frame parts)) >>= fun _ => sendToRanks (frame parts) ranks))
      (hUpdates : ∀ f ∈ updates, Assigned f) (hNodup : ranks.Nodup)
      (hOffered : (parts :: before).Subperm w.offered)
      (hWhole : ∀ socket, Whole before (w.fan.log socket))
  | ranks {fuel : Nat} {updates : List (EigerFan → EigerFan)} {parts : List Bytes}
      {rank : Int} {left : List Int} {before : List (List Bytes)}
      (hRx : w.rx = handling fuel updates (sendToRanks (frame parts) (rank :: left)))
      (hUpdates : ∀ f ∈ updates, Assigned f) (hNodup : (rank :: left).Nodup)
      (hOffered : (parts :: before).Subperm w.offered)
      (hWhole : ∀ socket, Whole w.offered (w.fan.log socket))
      (hLeft : ∀ r ∈ rank :: left, 0 ≤ r → Whole before (w.fan.log (.consumer r.toNat)))
  | image {fuel : Nat} {updates : List (EigerFan → EigerFan)} {parts sent : List Bytes}
      {part : Bytes} {more : Bool} {left : List (Bytes × Bool)} {before : List (List Bytes)}
      (hRx : w.rx = handling fuel updates (sendImageParts ((part, more) :: left)))
      (hUpdates : ∀ f ∈ updates, Assigned f)
      (hParts : opened sent ++ (part, more) :: left = frame parts)
      (hCount : w.partsSent = sent.length)
      (hOffered : (parts :: before).Subperm w.offered)
      (hWhole : ∀ socket, Whole before (w.fan.log socket) ∨
        (w.fan.Target socket ∧ Begun before sent (w.fan.log socket)))

theorem subperm_added {parts : List Bytes} {before offered : List (List Bytes)}
    (h : (parts :: before).Subperm offered) (added : List (List Bytes)) :
    (parts :: (added ++ before)).Subperm (added ++ offered) :=
  List.perm_middle.symm.subperm.trans ((List.subperm_append_left added).mpr h)

theorem target_congr {s t : EigerFan}
    (h : t.currentConsumerIndexToSendTo = s.currentConsumerIndexToSendTo) (socket : Socket) :
    t.Target socket ↔ s.Target socket := by
  cases socket with
  | forward => exact Iff.rfl
  | consumer rank => rw [EigerFan.Target, EigerFan.Target, h]

/-- A step beside the rx thread keeps its stage, if all it sends are single end
messages on sockets that are between messages. -/
theorem Stage.beside {w w' : System} {added : List (List Bytes)} (h : Stage w)
    (hRx : w'.rx = w.rx) (hCount : w'.partsSent = w.partsSent)
    (hOffered : w'.offered = added ++ w.offered)
    (hIndex : w'.fan.currentConsumerIndexToSendTo = w.fan.currentConsumerIndexToSendTo)
    (hLog : ∀ socket, w'.fan.log socket = w.fan.log socket ∨
      ∃ last, added = [[last]] ∧ w'.fan.log socket = w.fan.log socket ++ [(last, false)] ∧
        ¬ MidMessage (w.fan.log socket)) :
    Stage w' := by
  have hWhole : ∀ {before : List (List Bytes)} {socket : Socket},
      Whole before (w.fan.log socket) → Whole (added ++ before) (w'.fan.log socket) := by
    intro before socket hBefore
    rcases hLog socket with hSame | ⟨last, rfl, hEnd, _⟩
    · rw [hSame]
      exact hBefore.mono (List.sublist_append_right added before).subperm
    · rw [hEnd]
      exact hBefore.send [last]
  cases h with
  | resting hRest hAll =>
      refine .resting (hRx ▸ hRest) fun socket => ?_
      rw [hOffered]
      exact hWhole (hAll socket)
  | forwarding hThread hUpdates hNodup hBefore hAll =>
      refine .forwarding (hRx.trans hThread) hUpdates hNodup ?_ fun socket => hWhole (hAll socket)
      rw [hOffered]
      exact subperm_added hBefore added
  | ranks hThread hUpdates hNodup hBefore hAll hLeft =>
      refine .ranks (hRx.trans hThread) hUpdates hNodup ?_ (fun socket => ?_)
        fun r hr hLow => hWhole (hLeft r hr hLow)
      · rw [hOffered]
        exact subperm_added hBefore added
      · rw [hOffered]
        exact hWhole (hAll socket)
  | @image _ _ parts sent _ _ _ before hThread hUpdates hParts hSent hBefore hAll =>
      have hAdded : (parts :: (added ++ before)).Subperm w'.offered := by
        rw [hOffered]
        exact subperm_added hBefore added
      refine .image (hRx.trans hThread) hUpdates hParts (hCount.trans hSent) hAdded
        fun socket => ?_
      · rcases hAll socket with hOutside | ⟨hTarget, hBegun⟩
        · exact .inl (hWhole hOutside)
        · by_cases hNil : sent = []
          · subst hNil
            exact .inl (hWhole (begun_nil.mp hBegun))
          · rcases hLog socket with hSame | ⟨_, _, _, hBetween⟩
            · refine .inr ⟨(target_congr hIndex socket).mpr hTarget, ?_⟩
              rw [hSame]
              exact hBegun.mono (List.sublist_append_right added before).subperm
            · exact absurd (hBegun.midMessage hNil) hBetween

section Steps

variable {env : Environment}

/-- A thread that has no send left ends in a state in which it rests. -/
theorem Stage.of_silent {w : System} {p : Rx Unit} {s : EigerFan} (hp : p.Uses Silent anything)
    (hFan : w.fan = (p.settle (answer env) hidden s).1)
    (hRx : w.rx = (p.settle (answer env) hidden s).2)
    (hWhole : ∀ socket, Whole w.offered (s.log socket)) : Stage w := by
  obtain ⟨hSame, hRest⟩ := settle_silent hp s
  refine .resting (hRx ▸ hRest) fun socket => ?_
  rw [hFan, hSame.log socket]
  exact hWhole socket

/-- The ranks that remain after the one that was just sent to. -/
theorem Stage.of_ranks {w : System} {fuel : Nat} {updates : List (EigerFan → EigerFan)}
    {parts : List Bytes} {ranks : List Int} {before : List (List Bytes)} {s : EigerFan}
    (hFan : w.fan = ((handling fuel updates (sendToRanks (frame parts) ranks)).settle
      (answer env) hidden s).1)
    (hRx : w.rx = ((handling fuel updates (sendToRanks (frame parts) ranks)).settle
      (answer env) hidden s).2)
    (hUpdates : ∀ f ∈ updates, Assigned f) (hNodup : ranks.Nodup)
    (hOffered : (parts :: before).Subperm w.offered)
    (hWhole : ∀ socket, Whole w.offered (s.log socket))
    (hLeft : ∀ r ∈ ranks, 0 ≤ r → Whole before (s.log (.consumer r.toNat))) : Stage w := by
  cases ranks with
  | nil =>
      have hNothing : (sendToRanks (frame parts) []).Uses Silent anything := trivial
      exact .of_silent (handling_uses hUpdates hNothing) hFan hRx hWhole
  | cons rank left =>
      have hSettled : (handling fuel updates (sendToRanks (frame parts) (rank :: left))).settle
          (answer env) hidden s =
          (s, handling fuel updates (sendToRanks (frame parts) (rank :: left))) :=
        Program.settle_visible (answer env) s rfl _
      rw [hSettled] at hFan hRx
      subst hFan
      exact .ranks hRx hUpdates hNodup hOffered hWhole hLeft

/-- The parts of an image that remain after the one that was just sent. -/
theorem Stage.of_image {w : System} {fuel : Nat} {updates : List (EigerFan → EigerFan)}
    {parts sent : List Bytes} {left : List (Bytes × Bool)} {before : List (List Bytes)}
    {s : EigerFan}
    (hFan : w.fan = ((handling fuel updates (sendImageParts left)).settle (answer env) hidden s).1)
    (hRx : w.rx = ((handling fuel updates (sendImageParts left)).settle (answer env) hidden s).2)
    (hUpdates : ∀ f ∈ updates, Assigned f)
    (hParts : left ≠ [] → opened sent ++ left = frame parts) (hCount : w.partsSent = sent.length)
    (hOffered : (parts :: before).Subperm w.offered)
    (hDone : left = [] → ∀ socket, Whole w.offered (s.log socket))
    (hWhole : left ≠ [] → ∀ socket, Whole before (s.log socket) ∨
      (s.Target socket ∧ Begun before sent (s.log socket))) : Stage w := by
  cases left with
  | nil =>
      have hNothing : (sendImageParts []).Uses Silent anything := trivial
      exact .of_silent (handling_uses hUpdates hNothing) hFan hRx (hDone rfl)
  | cons head left =>
      have hSettled : (handling fuel updates (sendImageParts (head :: left))).settle
          (answer env) hidden s = (s, handling fuel updates (sendImageParts (head :: left))) :=
        Program.settle_visible (answer env) s rfl _
      rw [hSettled] at hFan hRx
      subst hFan
      exact .image hRx hUpdates (hParts (List.cons_ne_nil _ _)) hCount hOffered
        (hWhole (List.cons_ne_nil _ _))

namespace Stage

variable {w : System}

/-- A handler of the main thread. -/
theorem main {event : MainEvent} {fan : EigerFan} (h : Stage w)
    (hStep : operate env w.fan (.main event) = some fan)
    (hQuiet : w.Undisturbed env (.main event)) :
    Stage { w with fan := fan, offered := endOffer env w.fan event ++ w.offered } := by
  rw [operate] at hStep
  split at hStep
  · cases hStep
  · obtain ⟨_, _, _, hIndex⟩ := mainStep_reception hStep
    refine h.beside rfl rfl rfl hIndex fun socket => (mainStep_log hStep socket).imp id ?_
    rintro ⟨hOpen, hEnd, message, idMessage, rfl, hCloses⟩
    refine ⟨w.fan.endMessage env, ?_, hEnd, hQuiet hCloses socket hOpen⟩
    rw [endOffer, if_pos hCloses]

/-- Between its sends a thread has left only whole messages behind. -/
theorem whole_of_resting (h : Stage w) (hRest : Resting w.rx) (socket : Socket) :
    Whole w.offered (w.fan.log socket) := by
  cases h with
  | resting _ hWhole => exact hWhole socket
  | forwarding hRx => cases hRest _ _ hRx
  | ranks hRx => cases hRest _ _ hRx
  | image hRx => cases hRest _ _ hRx

/-- The rx thread receives a message and prepares what it will send of it. -/
theorem begin {part1 : Bytes} {more : Bool} {queue : List (Bytes × Bool)}
    (hWhole : ∀ socket, Whole w.offered (w.fan.log socket))
    (hQueue : w.fan.rxSocket.queue = (part1, more) :: queue) :
    Stage ⟨((handleRxSocket env).settle (answer env) hidden w.fan).1,
      ((handleRxSocket env).settle (answer env) hidden w.fan).2, 0,
      offer env w.fan ++ w.offered⟩ := by
  have hRecv : answer env .recv w.fan =
      some ({ w.fan with rxSocket := ⟨queue, more⟩ }, part1) := by
    rw [answer, hQueue]
  have hReceived : (handleRxSocket env).settle (answer env) hidden w.fan =
      (handleStreamMessage env w.fan.rxSocket.queue.length part1).settle (answer env) hidden
        { w.fan with rxSocket := ⟨queue, more⟩ } :=
    (Program.settle_hidden (answer env) rfl rfl _).trans
      (Program.settle_hidden (answer env) rfl hRecv _)
  rw [handleStreamMessage, dispatchStreamMessage_eq] at hReceived
  have hPrepare := prepare_uses env part1
  have hLog : ∀ socket, ((prepare env part1).run (answer env)
      { w.fan with rxSocket := ⟨queue, more⟩ }).state.log socket = w.fan.log socket := by
    intro socket
    rw [(run_sockets hPrepare _).log socket]
    cases socket <;> rfl
  have hSettle := (hPrepare.mono fun _ hSilent => hSilent.2).settle_guarded
    (answer env) Plan.execute caught
    (fun _ => drainSurplusParts w.fan.rxSocket.queue.length)
    { w.fan with rxSocket := ⟨queue, more⟩ }
  have hOffer : offer env w.fan = match (prepare env part1).run (answer env)
      { w.fan with rxSocket := ⟨queue, more⟩ } with
      | .returned _ plan => plan.sends.messages
      | _ => [] := by
    rw [offer, hQueue]
  rw [hReceived]
  cases hRun : (prepare env part1).run (answer env) { w.fan with rxSocket := ⟨queue, more⟩ } with
  | blocked s =>
      rw [hRun] at hSettle hLog hOffer
      obtain ⟨action, next, hBlocked, hHidden⟩ := hSettle
      rw [hBlocked, hOffer]
      refine .resting (fun action' next' h => ?_) fun socket => ?_
      · cases h
        exact hHidden
      · exact (hLog socket).symm ▸ hWhole socket
  | failed s e =>
      rw [hRun] at hSettle hLog hOffer
      have hCaught : (caught e >>= fun _ => drainSurplusParts w.fan.rxSocket.queue.length).Uses
          Silent anything := .seq (caught_uses e) fun _ => drainSurplusParts_uses _
      rw [hSettle, hOffer]
      exact .of_silent hCaught rfl rfl fun socket => (hLog socket).symm ▸ hWhole socket
  | returned s plan =>
      have hProper := hPrepare.returned hRun
      rw [hRun] at hSettle hLog hOffer
      have hHandling : (plan.execute.onFailure caught >>= fun _ =>
          drainSurplusParts w.fan.rxSocket.queue.length) =
          handling w.fan.rxSocket.queue.length plan.updates (Plan.send plan.sends) := rfl
      rw [hSettle, hHandling, show offer env w.fan = plan.sends.messages from hOffer]
      have hWhole' : ∀ socket, Whole w.offered (s.log socket) := fun socket => by
        rw [show s.log socket = w.fan.log socket from hLog socket]
        exact hWhole socket
      cases hSends : plan.sends with
      | nothing =>
          have hNothing : (Plan.send .nothing).Uses Silent anything := trivial
          exact .of_silent (handling_uses hProper hNothing) rfl rfl hWhole'
      | broadcast parts =>
          have hSettled : (handling w.fan.rxSocket.queue.length plan.updates
              (Plan.send (.broadcast parts))).settle (answer env) hidden s =
              (s, handling w.fan.rxSocket.queue.length plan.updates
                (Rx.perform (.forward (frame parts)) >>= fun _ =>
                  sendToRanks (frame parts) (sendOrder s.config.numConsumers))) :=
            (Program.settle_hidden (answer env) rfl rfl _).trans
              (Program.settle_visible (answer env) s rfl _)
          rw [hSettled]
          exact .forwarding rfl hProper (sendOrder_nodup _) (List.Subperm.refl _) hWhole'
      | image parts =>
          have hParts : opened [] ++ frame parts = frame parts := rfl
          refine .of_image rfl rfl hProper (fun _ => hParts) rfl (List.Subperm.refl _)
            (fun _ socket => ?_) fun _ socket => .inl (hWhole' socket)
          exact (hWhole' socket).mono (List.sublist_cons_self _ _).subperm

/-- The parts of a broadcast go to the forwarding socket first. -/
theorem forward {fuel : Nat} {updates : List (EigerFan → EigerFan)} {parts : List Bytes}
    {ranks : List Int} {before : List (List Bytes)}
    (hUpdates : ∀ f ∈ updates, Assigned f) (hNodup : ranks.Nodup)
    (hOffered : (parts :: before).Subperm w.offered)
    (hWhole : ∀ socket, Whole before (w.fan.log socket)) :
    Stage (w.sent env (w.fan.forward (frame parts))
      (handling fuel updates (sendToRanks (frame parts) ranks))) := by
  obtain ⟨hForward, hConsumers⟩ := forward_log w.fan (frame parts)
  have hBefore : before.Subperm w.offered :=
    (List.sublist_cons_self parts before).subperm.trans hOffered
  refine .of_ranks rfl rfl hUpdates hNodup hOffered (fun socket => ?_) fun rank _ _ => ?_
  · cases socket with
    | forward =>
        rw [hForward, EigerFan.logged]
        split
        · exact ((hWhole .forward).send parts).mono hOffered
        · rw [List.append_nil]
          exact (hWhole .forward).mono hBefore
    | consumer rank =>
        rw [hConsumers rank]
        exact (hWhole (.consumer rank)).mono hBefore
  · rw [hConsumers]
    exact hWhole _

/-- Then they go to the consumers, rank by rank. -/
theorem rank {fuel : Nat} {updates : List (EigerFan → EigerFan)} {parts : List Bytes}
    {rank : Int} {left : List Int} {before : List (List Bytes)} {fan : EigerFan}
    (hSend : w.fan.sendTo rank (frame parts) = some fan)
    (hUpdates : ∀ f ∈ updates, Assigned f) (hNodup : (rank :: left).Nodup)
    (hOffered : (parts :: before).Subperm w.offered)
    (hWhole : ∀ socket, Whole w.offered (w.fan.log socket))
    (hLeft : ∀ r ∈ rank :: left, 0 ≤ r → Whole before (w.fan.log (.consumer r.toNat))) :
    Stage (w.sent env fan (handling fuel updates (sendToRanks (frame parts) left))) := by
  obtain ⟨hSent, hKept⟩ := sendTo_log hSend
  have hLow := sendTo_nonneg hSend
  obtain ⟨hFresh, hNodup⟩ := List.nodup_cons.mp hNodup
  refine .of_ranks rfl rfl hUpdates hNodup hOffered (fun socket => ?_) fun r hr hNonneg => ?_
  · by_cases hSocket : socket = .consumer rank.toNat
    · subst hSocket
      rw [hSent, EigerFan.logged]
      split
      · exact ((hLeft rank List.mem_cons_self hLow).send parts).mono hOffered
      · rw [List.append_nil]
        exact hWhole _
    · rw [hKept socket hSocket]
      exact hWhole socket
  · have hDistinct : Socket.consumer r.toNat ≠ .consumer rank.toNat := by
      intro heq
      simp only [Socket.consumer.injEq] at heq
      exact hFresh ((by omega : r = rank) ▸ hr)
    rw [hKept _ hDistinct]
    exact hLeft r (List.mem_cons_of_mem _ hr) hNonneg

/-- The parts of an image go out one by one. -/
theorem part {fuel : Nat} {updates : List (EigerFan → EigerFan)} {parts gone : List Bytes}
    {part : Bytes} {more : Bool} {left : List (Bytes × Bool)} {before : List (List Bytes)}
    (hUpdates : ∀ f ∈ updates, Assigned f)
    (hParts : opened gone ++ (part, more) :: left = frame parts)
    (hCount : w.partsSent = gone.length)
    (hOffered : (parts :: before).Subperm w.offered)
    (hWhole : ∀ socket, Whole before (w.fan.log socket) ∨
      (w.fan.Target socket ∧ Begun before gone (w.fan.log socket)))
    (hIndex : (w.fan.consumerAt w.fan.currentConsumerIndexToSendTo).isSome ∨
      ¬ w.fan.Open .forward)
    (hGate : 0 < w.partsSent → ∀ socket, w.fan.Target socket →
      (w.fan.Open socket ↔ MidMessage (w.fan.log socket))) :
    Stage (w.sent env (w.fan.sendToSingle part more).1
      (handling fuel updates
        (unlessThrown (w.fan.sendToSingle part more).2 >>= fun _ => sendImageParts left))) := by
  obtain ⟨hSameIndex, hReply, hOthers, hTargets⟩ := sendToSingle_log w.fan part more
  have hBefore : before.Subperm w.offered :=
    (List.sublist_cons_self parts before).subperm.trans hOffered
  -- what the send does to each socket: nothing, or the next part of the image
  have hNext : ∀ socket, Whole before ((w.fan.sendToSingle part more).1.log socket) ∨
      (w.fan.Target socket ∧ w.fan.Open socket ∧
        (left = [] → Whole (parts :: before) ((w.fan.sendToSingle part more).1.log socket)) ∧
        (left ≠ [] → Begun before (gone ++ [part])
          ((w.fan.sendToSingle part more).1.log socket))) := by
    intro socket
    by_cases hTarget : w.fan.Target socket
    · have hLog := hTargets socket hTarget
      have hGone : gone ≠ [] → (w.fan.Open socket ↔ MidMessage (w.fan.log socket)) := by
        intro hGone
        exact hGate (hCount ▸ List.length_pos_of_ne_nil hGone) socket hTarget
      rcases send_part hParts ((hWhole socket).imp id And.right) hGone with
        hKept | ⟨hOpen, hComplete, hBegun⟩
      · exact .inl (hLog ▸ hKept)
      · have hSent : (w.fan.sendToSingle part more).1.log socket =
            w.fan.log socket ++ [(part, more)] := by
          rw [hLog, EigerFan.logged, if_pos hOpen]
        rw [hSent]
        exact .inr ⟨hTarget, hOpen, hComplete, hBegun⟩
    · left
      rw [hOthers socket hTarget]
      rcases hWhole socket with hWhole | ⟨hTarget', _⟩
      · exact hWhole
      · exact absurd hTarget' hTarget
  cases hGoesOn : (w.fan.sendToSingle part more).2 with
  | false =>
      have hNone : ¬ (w.fan.consumerAt w.fan.currentConsumerIndexToSendTo).isSome := by
        rw [← hReply, hGoesOn]
        exact Bool.false_ne_true
      have hThrown : (unlessThrown false >>= fun _ => sendImageParts left).Uses Silent anything :=
        trivial
      refine .of_silent (handling_uses hUpdates hThrown) rfl rfl fun socket => ?_
      rcases hNext socket with hWhole | ⟨hTarget, hOpen, _⟩
      · exact hWhole.mono hBefore
      · cases socket with
        | forward => exact absurd hOpen (hIndex.resolve_left hNone)
        | consumer rank => exact absurd (isSome_of_target hTarget hOpen) hNone
  | true =>
      have hLeft : left ≠ [] → opened (gone ++ [part]) ++ left = frame parts := by
        intro hLeft
        rcases frame_split hParts with ⟨hNil, _⟩ | ⟨_, _, hFrame⟩
        · exact absurd hNil hLeft
        · exact hFrame
      have hCount' : w.partsSent + 1 = (gone ++ [part]).length := by
        rw [hCount, List.length_append, List.length_singleton]
      refine .of_image rfl rfl hUpdates hLeft hCount' hOffered (fun hNil socket => ?_)
        fun hSome socket => ?_
      · rcases hNext socket with hWhole | ⟨_, _, hComplete, _⟩
        · exact hWhole.mono hBefore
        · exact (hComplete hNil).mono hOffered
      · rcases hNext socket with hWhole | ⟨hTarget, _, _, hBegun⟩
        · exact .inl hWhole
        · exact .inr ⟨(target_congr hSameIndex socket).mpr hTarget, hBegun hSome⟩

/-- One send of the rx thread. -/
theorem send {w' : System} (h : Stage w) (hQuiet : w.Undisturbed env .send)
    (hStep : w.step env .send = some w') : Stage w' := by
  cases h with
  | resting hRest hWhole =>
      rw [System.step] at hStep
      split at hStep
      · next action next hRx =>
          rw [if_pos (hRest action next hRx)] at hStep
          cases hStep
      · cases hStep
  | @forwarding fuel updates parts ranks before hRx hUpdates hNodup hOffered hWhole =>
      rw [System.step, hRx] at hStep
      have hSent : w.sent env (w.fan.forward (frame parts))
          (handling fuel updates (sendToRanks (frame parts) ranks)) = w' := Option.some.inj hStep
      rw [← hSent]
      exact .forward hUpdates hNodup hOffered hWhole
  | @ranks fuel updates parts rank left before hRx hUpdates hNodup hOffered hWhole hLeft =>
      rw [System.step, hRx] at hStep
      have hSent : (answer env (.sendTo rank (frame parts)) w.fan).map (fun result =>
          w.sent env result.1 (handling fuel updates (unlessThrown result.2 >>= fun _ =>
            sendToRanks (frame parts) left))) = some w' := hStep
      rw [answer] at hSent
      split at hSent
      · have hThrown : (unlessThrown false >>= fun _ =>
            sendToRanks (frame parts) left).Uses Silent anything := trivial
        cases hSent
        exact .of_silent (handling_uses hUpdates hThrown) rfl rfl hWhole
      · next fan hSend =>
          cases hSent
          exact .rank hSend hUpdates hNodup hOffered hWhole hLeft
  | @image fuel updates parts gone part more left before hRx hUpdates hParts hCount hOffered
      hWhole =>
      rw [System.step, hRx] at hStep
      have hPart : w.sendsPart = true := by
        rw [System.sendsPart, hRx]
        rfl
      obtain ⟨hIndex, hGate⟩ := hQuiet hPart
      have hSent : w.sent env (w.fan.sendToSingle part more).1 (handling fuel updates
          (unlessThrown (w.fan.sendToSingle part more).2 >>= fun _ => sendImageParts left)) =
          w' := Option.some.inj hStep
      rw [← hSent]
      exact .part hUpdates hParts hCount hOffered hWhole hIndex hGate

/-- What an undisturbed step preserves. -/
theorem step {w' : System} {event : SystemEvent} (h : Stage w)
    (hQuiet : w.Undisturbed env event) (hStep : w.step env event = some w') : Stage w' := by
  cases event with
  | main event =>
      rw [System.step] at hStep
      split at hStep
      · obtain ⟨fan, hFan, rfl⟩ := Option.map_eq_some_iff.mp hStep
        exact h.main hFan hQuiet
      · cases hStep
  | startRx =>
      obtain ⟨fan, hFan, rfl⟩ := Option.map_eq_some_iff.mp hStep
      rw [operate] at hFan
      split at hFan
      · cases hFan
        have hOffered : w.offered = [] ++ w.offered := rfl
        exact h.beside rfl rfl hOffered rfl fun socket => .inl (by cases socket <;> rfl)
      · cases hFan
  | arrive message =>
      obtain ⟨fan, hFan, rfl⟩ := Option.map_eq_some_iff.mp hStep
      rw [operate] at hFan
      split at hFan
      · cases hFan
      · cases hFan
        have hOffered : w.offered = [] ++ w.offered := rfl
        exact h.beside rfl rfl hOffered rfl fun socket => .inl (by cases socket <;> rfl)
  | begin =>
      rw [System.step] at hStep
      split at hStep
      · cases hStep
      · next hReady =>
          cases hStep
          simp only [not_or, not_not] at hReady
          have hRest : Resting w.rx := fun action next hAct => by
            have hIdle := hReady.1
            rw [System.idle, hAct] at hIdle
            cases hIdle
          cases hQueue : w.fan.rxSocket.queue with
          | nil => exact absurd (by rw [hQueue]; rfl) hReady.2.2
          | cons head queue => exact .begin (h.whole_of_resting hRest) hQueue
  | send => exact h.send hQuiet hStep

end Stage

end Steps

/-- The log of the socket consists of whole messages that were on offer. Only while
the thread is inside an image, its targets may have the parts sent so far besides. -/
def System.Framed (w : System) (socket : Socket) : Prop :=
  Whole w.offered (w.fan.log socket) ∨
    (¬ Resting w.rx ∧ w.fan.Target socket ∧ ∃ parts sent before,
      (parts :: before).Subperm w.offered ∧ sent <+: parts ∧ sent.length = w.partsSent ∧
        sent.length < parts.length ∧ Begun before sent (w.fan.log socket))

theorem Stage.framed {w : System} (h : Stage w) (socket : Socket) : w.Framed socket := by
  cases h with
  | resting _ hWhole => exact .inl (hWhole socket)
  | @forwarding _ _ parts _ before _ _ _ hOffered hWhole =>
      have hBefore := (List.sublist_cons_self parts before).subperm.trans hOffered
      exact .inl ((hWhole socket).mono hBefore)
  | ranks _ _ _ _ hWhole => exact .inl (hWhole socket)
  | @image _ _ parts sent part more left before hRx _ hParts hCount hOffered hWhole =>
      have hAll : sent ++ part :: left.map Prod.fst = parts := by
        have hFirst := congrArg (List.map Prod.fst) hParts
        rw [frame_map_fst, List.map_append, opened_map_fst] at hFirst
        exact hFirst
      rcases hWhole socket with hOutside | ⟨hTarget, hBegun⟩
      · have hBefore := (List.sublist_cons_self parts before).subperm.trans hOffered
        exact .inl (hOutside.mono hBefore)
      · refine .inr ⟨fun hRest => ?_, hTarget, parts, sent, before, hOffered, ⟨_, hAll⟩,
          hCount.symm, ?_, hBegun⟩
        · cases hRest _ _ hRx
        · rw [← hAll]
          simp

/-- Messages stay whole on every socket in every run of undisturbed steps. -/
theorem undisturbed_messages_whole {env : Environment} {config : EigerFanConfig}
    {events : List SystemEvent} {w : System}
    (hRun : Run (System.step env) (System.Undisturbed env) (System.initial config) events w)
    (socket : Socket) : w.Framed socket := by
  have hInit : Stage (System.initial config) := by
    refine .resting (fun _ _ h => by cases h) fun socket => ?_
    have hEmpty : (System.initial config).fan.log socket = [] := by
      cases socket with
      | forward => rfl
      | consumer rank =>
          show ((List.replicate config.numConsumers.toNat (EigerConsumer.mk 0 []))[rank]?.map
            EigerConsumer.sendSocket).getD [] = []
          rw [List.getElem?_replicate]
          split <;> rfl
    rw [hEmpty]
    exact whole_nil _
  exact (hRun.invariant hInit fun _ _ _ h hQuiet hStep => h.step hQuiet hStep).framed socket

/-- One consumer connects and an image arrives; the first part of it is sent. -/
def imageUnderWay : List SystemEvent :=
  [.main (.monitor zmqEventAccepted 0), .startRx,
    .arrive [objectText sampleImage, [1], [2], [3]], .begin, .send]

def sampleImageTagged : Bytes :=
  bytes "\x7b\"htype\":\"dimage-1.0\",\"frame\":0,\"acqID\":\"\"\x7d"

/-- A second peer on the same socket does not disturb the image. -/
theorem second_peer_keeps_message :
    ∃ w, Run (System.step sampleEnvironment) (System.Undisturbed sampleEnvironment)
        (System.initial defaultConfig)
        (imageUnderWay ++ [.main (.monitor zmqEventAccepted 0), .send, .send, .send]) w ∧
      (w.idle, w.fan.log (.consumer 0)) = (true, frame [sampleImageTagged, [1], [2], [3]]) ∧
      w.Framed (.consumer 0) := by
  have hExec : (exec (guarded (System.step sampleEnvironment)
      (System.Undisturbed sampleEnvironment)) (System.initial defaultConfig)
      (imageUnderWay ++ [.main (.monitor zmqEventAccepted 0), .send, .send, .send])).map
      (fun w => (w.idle, w.fan.log (.consumer 0))) =
      some (true, frame [sampleImageTagged, [1], [2], [3]]) := by decide +kernel
  obtain ⟨w, hRun, hEnd⟩ := Option.map_eq_some_iff.mp hExec
  have hRun := run_iff_exec_guarded.mpr hRun
  exact ⟨w, hRun, hEnd, undisturbed_messages_whole hRun _⟩

/-- The consumer disconnects after the first part of the image: the other parts are
not sent to it, and what it was sent is no sequence of messages. -/
theorem disconnect_breaks_message :
    ∃ w, Run (System.step sampleEnvironment) always (System.initial defaultConfig)
        (imageUnderWay ++ [.main (.monitor zmqEventDisconnected 0), .send, .send, .send]) w ∧
      (w.idle, w.fan.log (.consumer 0)) = (true, [(sampleImageTagged, true)]) ∧
      ∀ messages, w.fan.log (.consumer 0) ≠ stream messages := by
  have hExec : (exec (System.step sampleEnvironment) (System.initial defaultConfig)
      (imageUnderWay ++ [.main (.monitor zmqEventDisconnected 0), .send, .send, .send])).map
      (fun w => (w.idle, w.fan.log (.consumer 0))) =
      some (true, [(sampleImageTagged, true)]) := by decide +kernel
  obtain ⟨w, hRun, hEnd⟩ := Option.map_eq_some_iff.mp hExec
  refine ⟨w, run_always_iff.mpr hRun, hEnd, fun messages hStream => ?_⟩
  refine not_midMessage_stream messages ?_
  rw [← hStream, (Prod.mk.inj hEnd).2]
  decide

end Eiger.Fan
