import EigerDetector.Fan.FanOut
import EigerDetector.Fan.Operation
import Mathlib.Data.List.Nodup

/-! What each step of either thread puts on the sending sockets. -/
namespace Eiger.Fan

open CharArrays Rapidjson Threads Rx Multipart EigerFan

/-- A socket on which the fan sends multipart messages. -/
inductive Socket where
  | forward
  | consumer (rank : Nat)
  deriving DecidableEq

namespace EigerFan

/-- Everything sent on a socket. -/
def log (s : EigerFan) : Socket → List (Bytes × Bool)
  | .forward => s.forwardSocket
  | .consumer rank => s.output rank

/-- The test in front of a send on the socket lets parts through. -/
def Open (s : EigerFan) : Socket → Prop
  | .forward => s.forwardOpen
  | .consumer rank => s.router.Connected rank

instance (s : EigerFan) : (socket : Socket) → Decidable (s.Open socket)
  | .forward => inferInstanceAs (Decidable s.forwardOpen)
  | .consumer rank => inferInstanceAs (Decidable (s.router.Connected rank))

/-- The log after parts were offered to the socket. -/
def logged (s : EigerFan) (parts : List (Bytes × Bool)) (socket : Socket) :
    List (Bytes × Bool) :=
  s.log socket ++ if s.Open socket then parts else []

/-- Neither the sockets nor the tests in front of them differ. -/
def SameSockets (s t : EigerFan) : Prop :=
  t.forwardSocket = s.forwardSocket ∧ t.consumers = s.consumers

theorem SameSockets.refl (s : EigerFan) : SameSockets s s := ⟨rfl, rfl⟩

theorem SameSockets.trans {s t u : EigerFan} (left : SameSockets s t) (right : SameSockets t u) :
    SameSockets s u := ⟨right.1.trans left.1, right.2.trans left.2⟩

theorem SameSockets.log {s t : EigerFan} (h : SameSockets s t) (socket : Socket) :
    t.log socket = s.log socket := by
  cases socket with
  | forward => exact h.1
  | consumer rank => rw [EigerFan.log, EigerFan.output, h.2, EigerFan.log, EigerFan.output]

end EigerFan

/-- Parts offered to one rank. -/
theorem sendTo_log {s t : EigerFan} {rank : Int} {parts : List (Bytes × Bool)}
    (h : s.sendTo rank parts = some t) :
    t.log (.consumer rank.toNat) = s.logged parts (.consumer rank.toNat) ∧
      ∀ socket, socket ≠ .consumer rank.toNat → t.log socket = s.log socket := by
  obtain ⟨c, _, rfl⟩ := Option.map_eq_some_iff.mp h
  constructor
  · have hAll : (s.broadcast parts).output rank.toNat = s.logged parts (.consumer rank.toNat) :=
      output_broadcast s parts rank.toNat
    rw [← hAll]
    simp [EigerFan.log, EigerFan.output, EigerFan.broadcast]
  · intro socket hSocket
    cases socket with
    | forward => rfl
    | consumer other =>
        have hOther : rank.toNat ≠ other := fun heq => hSocket (by rw [heq])
        simp [EigerFan.log, EigerFan.output, hOther]

theorem forward_log (s : EigerFan) (parts : List (Bytes × Bool)) :
    (s.forward parts).log .forward = s.logged parts .forward ∧
      ∀ rank, (s.forward parts).log (.consumer rank) = s.log (.consumer rank) := by
  constructor
  · rw [EigerFan.logged, EigerFan.log, EigerFan.log, forward_eq]
    by_cases h : s.forwardOpen
    · rw [if_pos h, if_pos (show s.Open .forward from h)]
    · rw [if_neg h, if_neg (show ¬ s.Open .forward from h), List.append_nil]
  · intro rank
    rw [EigerFan.log, EigerFan.output, forward_consumers]
    rfl

namespace EigerFan

/-- The sockets a part of an image is offered to: the forwarding socket, and the
consumer of the dispatched rank. -/
def Target (s : EigerFan) : Socket → Prop
  | .forward => True
  | .consumer rank => 0 ≤ s.currentConsumerIndexToSendTo ∧
      rank = s.currentConsumerIndexToSendTo.toNat

end EigerFan

theorem RxFrame.open_iff {s t : EigerFan} (h : RxFrame s t) (socket : Socket) :
    t.Open socket ↔ s.Open socket := by
  cases socket with
  | forward =>
      simp only [EigerFan.Open, EigerFan.forwardOpen, h.forwardStream,
        h.numConnectedForwardingSockets]
  | consumer rank =>
      have hConnected : (t.consumers[rank]?).map EigerConsumer.connected =
          (s.consumers[rank]?).map EigerConsumer.connected := by
        rw [← List.getElem?_map, h.connected, List.getElem?_map]
      simp only [EigerFan.Open, connected_iff]
      cases hT : t.consumers[rank]? with
      | none =>
          cases hS : s.consumers[rank]? with
          | none => simp
          | some c => rw [hT, hS] at hConnected; cases hConnected
      | some d =>
          cases hS : s.consumers[rank]? with
          | none => rw [hT, hS] at hConnected; cases hConnected
          | some c =>
              rw [hT, hS] at hConnected
              simp only [Option.map_some, Option.some.injEq] at hConnected
              simp [hConnected]

theorem RxFrame.logged {s t : EigerFan} (h : RxFrame s t) {socket : Socket}
    (hLog : t.log socket = s.log socket) (parts : List (Bytes × Bool)) :
    t.logged parts socket = s.logged parts socket := by
  rw [EigerFan.logged, EigerFan.logged, hLog]
  by_cases hOpen : s.Open socket
  · rw [if_pos hOpen, if_pos ((h.open_iff socket).mpr hOpen)]
  · rw [if_neg hOpen, if_neg (fun h' => hOpen ((h.open_iff socket).mp h'))]

theorem sendTo_nonneg {s t : EigerFan} {rank : Int} {parts : List (Bytes × Bool)}
    (h : s.sendTo rank parts = some t) : 0 ≤ rank := by
  obtain ⟨c, hc, _⟩ := Option.map_eq_some_iff.mp h
  by_contra hNegative
  rw [EigerFan.consumerAt, if_neg hNegative] at hc
  cases hc

theorem isSome_of_target {s : EigerFan} {rank : Nat} (hTarget : s.Target (.consumer rank))
    (hOpen : s.Open (.consumer rank)) :
    (s.consumerAt s.currentConsumerIndexToSendTo).isSome := by
  obtain ⟨c, hc, _⟩ := (connected_iff s rank).mp hOpen
  obtain ⟨hLow, rfl⟩ := hTarget
  rw [EigerFan.consumerAt, if_pos hLow, hc]
  rfl

/-- A part of an image is offered to its targets, and the caller goes on exactly if
the dispatched consumer exists. -/
theorem sendToSingle_log (s : EigerFan) (message : Bytes) (sndmore : Bool) :
    (s.sendToSingle message sndmore).1.currentConsumerIndexToSendTo =
        s.currentConsumerIndexToSendTo ∧
      ((s.sendToSingle message sndmore).2 = true ↔
        (s.consumerAt s.currentConsumerIndexToSendTo).isSome) ∧
      (∀ socket, ¬ s.Target socket →
        (s.sendToSingle message sndmore).1.log socket = s.log socket) ∧
      (∀ socket, s.Target socket → (s.sendToSingle message sndmore).1.log socket =
        s.logged [(message, sndmore)] socket) := by
  obtain ⟨hForward, hConsumers⟩ := forward_log s [(message, sndmore)]
  have hFrame := RxFrame.of_forward [(message, sndmore)] s
  have hAt : (s.forward [(message, sndmore)]).consumerAt s.currentConsumerIndexToSendTo =
      s.consumerAt s.currentConsumerIndexToSendTo := by
    rw [EigerFan.consumerAt, EigerFan.consumerAt, forward_consumers]
  rw [EigerFan.sendToSingle, forward_index]
  cases hSend : (s.forward [(message, sndmore)]).sendTo s.currentConsumerIndexToSendTo
      [(message, sndmore)] with
  | none =>
      have hNone : s.consumerAt s.currentConsumerIndexToSendTo = none := by
        rw [← hAt]
        exact Option.map_eq_none_iff.mp hSend
      refine ⟨forward_index _ s, by simp [hNone], fun socket hSocket => ?_,
        fun socket hSocket => ?_⟩
      · cases socket with
        | forward => exact absurd trivial hSocket
        | consumer rank => exact hConsumers rank
      · cases socket with
        | forward => exact hForward
        | consumer rank =>
            have hClosed : ¬ s.Open (.consumer rank) := fun hOpen => by
              have hSome := isSome_of_target hSocket hOpen
              rw [hNone] at hSome
              cases hSome
            rw [EigerFan.logged, if_neg hClosed, List.append_nil]
            exact hConsumers rank
  | some t =>
      have hSome : (s.consumerAt s.currentConsumerIndexToSendTo).isSome := by
        rw [← hAt]
        obtain ⟨c, hc, _⟩ := Option.map_eq_some_iff.mp hSend
        rw [hc]
        rfl
      obtain ⟨hRank, hOthers⟩ := sendTo_log hSend
      have hIndex : t.currentConsumerIndexToSendTo = s.currentConsumerIndexToSendTo := by
        obtain ⟨_, _, rfl⟩ := Option.map_eq_some_iff.mp hSend
        exact forward_index _ s
      refine ⟨hIndex, by simp [hSome], fun socket hSocket => ?_, fun socket hSocket => ?_⟩
      · cases socket with
        | forward => exact absurd trivial hSocket
        | consumer rank =>
            have hNe : Socket.consumer rank ≠
                .consumer s.currentConsumerIndexToSendTo.toNat := by
              intro heq
              cases heq
              exact hSocket ⟨sendTo_nonneg hSend, rfl⟩
            exact (hOthers _ hNe).trans (hConsumers rank)
      · cases socket with
        | forward => exact (hOthers .forward fun heq => by cases heq).trans hForward
        | consumer rank =>
            obtain ⟨_, rfl⟩ := hSocket
            exact hRank.trans (hFrame.logged (hConsumers _) _)

theorem sendOrder_nodup (n : Int) : (sendOrder n).Nodup := by
  rw [sendOrder, List.nodup_append]
  refine ⟨List.Nodup.map Int.ofNat_injective List.nodup_range, List.nodup_singleton _, ?_⟩
  intro a ha b hb
  obtain ⟨i, hi, rfl⟩ := List.mem_map.mp ha
  rw [List.mem_range] at hi
  rw [List.mem_singleton.mp hb]
  simp only [Int.ofNat_eq_natCast]
  omega

section Broadcasts

variable {env : Environment}

/-- A send loop that returns has offered the parts to each of its ranks once. -/
theorem run_sendToRanks_log {parts : List (Bytes × Bool)} {ranks : List Int} {s t : EigerFan}
    (hNodup : ranks.Nodup) (h : (sendToRanks parts ranks).run (answer env) s = .returned t ()) :
    (∀ rank ∈ ranks, 0 ≤ rank ∧
      t.log (.consumer rank.toNat) = s.logged parts (.consumer rank.toNat)) ∧
    ∀ socket, (∀ rank ∈ ranks, socket ≠ .consumer rank.toNat) → t.log socket = s.log socket := by
  induction ranks generalizing s with
  | nil =>
      cases h
      exact ⟨fun rank hRank => absurd hRank List.not_mem_nil, fun socket _ => rfl⟩
  | cons rank ranks ih =>
      obtain ⟨hFresh, hNodup⟩ := List.nodup_cons.mp hNodup
      cases hSend : s.sendTo rank parts with
      | none =>
          have hAnswer : answer env (.sendTo rank parts) s = some (s, false) := by
            rw [answer, hSend]
          rw [sendToRanks] at h
          have hFail := (Program.run_act_some (answer env) hAnswer _).symm.trans h
          cases hFail
      | some u =>
          have hAnswer : answer env (.sendTo rank parts) s = some (u, true) := by
            rw [answer, hSend]
          rw [sendToRanks] at h
          have hRest : (sendToRanks parts ranks).run (answer env) u = .returned t () :=
            (Program.run_act_some (answer env) hAnswer _).symm.trans h
          obtain ⟨hRanks, hOthers⟩ := ih hNodup hRest
          obtain ⟨hSent, hKept⟩ := sendTo_log hSend
          have hLow := sendTo_nonneg hSend
          have hFrame := RxFrame.of_sendTo hSend
          have hDistinct : ∀ other ∈ ranks, Socket.consumer rank.toNat ≠ .consumer other.toNat := by
            intro other hOther heq
            have hNonneg := (hRanks other hOther).1
            simp only [Socket.consumer.injEq] at heq
            exact hFresh ((by omega : rank = other) ▸ hOther)
          constructor
          · intro other hOther
            rcases List.mem_cons.mp hOther with rfl | hOther
            · exact ⟨hLow, (hOthers _ hDistinct).trans hSent⟩
            · refine ⟨(hRanks other hOther).1, (hRanks other hOther).2.trans ?_⟩
              exact hFrame.logged (hKept _ (hDistinct other hOther).symm) parts
          · intro socket hSocket
            rw [hOthers socket fun other hOther => hSocket other (List.mem_cons_of_mem _ hOther)]
            exact hKept socket (hSocket rank List.mem_cons_self)

/-- A broadcast that returns has offered the parts to some of the sockets, and has
done nothing to the others. -/
theorem run_sendToAll_log {parts : List (Bytes × Bool)} {s t : EigerFan}
    (h : (sendToAll parts).run (answer env) s = .returned t ()) (socket : Socket) :
    t.log socket = s.log socket ∨
      (s.Open socket ∧ t.log socket = s.log socket ++ parts) := by
  have hRanks : (sendToRanks parts (sendOrder s.config.numConsumers)).run (answer env)
      (s.forward parts) = .returned t () := h
  obtain ⟨hSent, hKept⟩ := run_sendToRanks_log (sendOrder_nodup _) hRanks
  obtain ⟨hForward, hConsumers⟩ := forward_log s parts
  have hOffered : t.log socket = s.log socket ∨ t.log socket = s.logged parts socket := by
    cases socket with
    | forward => exact .inr ((hKept _ fun rank _ heq => by cases heq).trans hForward)
    | consumer rank =>
        by_cases hMember : ∃ r ∈ sendOrder s.config.numConsumers, rank = r.toNat
        · obtain ⟨r, hr, rfl⟩ := hMember
          right
          rw [(hSent r hr).2]
          exact (RxFrame.of_forward parts s).logged (hConsumers _) parts
        · left
          rw [hKept _ fun r hr heq => hMember ⟨r, hr, by cases heq; rfl⟩]
          exact hConsumers rank
  rcases hOffered with hSame | hLogged
  · exact .inl hSame
  · by_cases hOpen : s.Open socket
    · rw [EigerFan.logged, if_pos hOpen] at hLogged
      exact .inr ⟨hOpen, hLogged⟩
    · rw [EigerFan.logged, if_neg hOpen, List.append_nil] at hLogged
      exact .inl hLogged

/-- Nothing but the sending sockets differs. -/
def EigerFan.SentOn (s t : EigerFan) : Prop :=
  ∃ forwardSocket consumers, t = { s with forwardSocket := forwardSocket, consumers := consumers }

theorem run_sendToRanks_sentOn {parts : List (Bytes × Bool)} {ranks : List Int} {s t : EigerFan}
    (h : (sendToRanks parts ranks).run (answer env) s = .returned t ()) : s.SentOn t := by
  induction ranks generalizing s with
  | nil =>
      cases h
      exact ⟨_, _, rfl⟩
  | cons rank ranks ih =>
      rw [sendToRanks] at h
      cases hSend : s.sendTo rank parts with
      | none =>
          have hAnswer : answer env (.sendTo rank parts) s = some (s, false) := by
            rw [answer, hSend]
          cases (Program.run_act_some (answer env) hAnswer _).symm.trans h
      | some u =>
          have hAnswer : answer env (.sendTo rank parts) s = some (u, true) := by
            rw [answer, hSend]
          have hRest : (sendToRanks parts ranks).run (answer env) u = .returned t () :=
            (Program.run_act_some (answer env) hAnswer _).symm.trans h
          obtain ⟨_, _, rfl⟩ := Option.map_eq_some_iff.mp hSend
          obtain ⟨_, _, rfl⟩ := ih hRest
          exact ⟨_, _, rfl⟩

theorem run_sendToAll_sentOn {parts : List (Bytes × Bool)} {s t : EigerFan}
    (h : (sendToAll parts).run (answer env) s = .returned t ()) : s.SentOn t := by
  have hRanks : (sendToRanks parts (sendOrder s.config.numConsumers)).run (answer env)
      (s.forward parts) = .returned t () := h
  obtain ⟨_, _, rfl⟩ := run_sendToRanks_sentOn hRanks
  rw [forward_eq]
  exact ⟨_, _, rfl⟩

end Broadcasts

section Main

variable {env : Environment} {s t : EigerFan}

/-- The end message a close makes up. -/
def EigerFan.endMessage (env : Environment) (s : EigerFan) : Bytes :=
  env.write (fabricatedEnd s.currentSeries s.currentAcquisitionID)

theorem sendFabricatedEndMessage_sentOn (h : s.sendFabricatedEndMessage env = some t) :
    ∃ u, s.SentOn u ∧ t = { u with state := .dstrEnd } := by
  unfold EigerFan.sendFabricatedEndMessage at h
  simp only at h
  split at h
  · next u _ hRun =>
      cases h
      exact ⟨u, run_sendToAll_sentOn hRun, rfl⟩
  · cases h

theorem closeStream_sentOn (h : s.closeStream env = some t) :
    ∃ u state, s.SentOn u ∧ t = { u with state := state } := by
  unfold EigerFan.closeStream at h
  split at h
  · obtain ⟨u, hSent, rfl⟩ := sendFabricatedEndMessage_sentOn h
    exact ⟨u, _, hSent, rfl⟩
  · cases h
    exact ⟨s, _, ⟨_, _, rfl⟩, rfl⟩

theorem sendFabricatedEndMessage_log (h : s.sendFabricatedEndMessage env = some t)
    (socket : Socket) : t.log socket = s.log socket ∨
      (s.Open socket ∧ t.log socket = s.log socket ++ [(s.endMessage env, false)]) := by
  unfold EigerFan.sendFabricatedEndMessage at h
  simp only at h
  split at h
  · next u _ hRun =>
      have hLog := run_sendToAll_log hRun
      cases h
      cases socket with
      | forward => exact hLog .forward
      | consumer rank => exact hLog (.consumer rank)
  · cases h

/-- The states differ only in what the main thread may change. -/
def EigerFan.Commanded (s t : EigerFan) : Prop :=
  ∃ consumers connected forwardSocket state kill replies more offset acquisitionID forward cache
    files calls block, t = { s with
      consumers := consumers
      numConnectedForwardingSockets := connected
      forwardSocket := forwardSocket
      state := state
      killRequested := kill
      controlSocket := replies
      more := more
      configuredOffset := offset
      configuredAcquisitionID := acquisitionID
      forwardStream := forward
      devShmCache := cache
      files := files
      fileCalls := calls
      config := { s.config with blockSize := block } }

theorem mainStep_commanded {event : MainEvent} (h : mainStep env s event = some t) :
    s.Commanded t := by
  have hSame : ∀ u : EigerFan, u = s → ∀ replies more,
      s.Commanded { u with controlSocket := replies, more := more } := by
    rintro u rfl replies more
    exact ⟨_, _, _, _, _, _, _, _, _, _, _, _, _, _, rfl⟩
  cases event with
  | monitor event rank =>
      cases h
      unfold handleMonitorMessage
      simp only
      split
      · exact ⟨_, _, _, _, _, _, _, _, _, _, _, _, _, _, rfl⟩
      · split <;> exact ⟨_, _, _, _, _, _, _, _, _, _, _, _, _, _, rfl⟩
  | forwardMonitor event =>
      cases h
      unfold handleForwardMonitorMessage
      split
      · exact ⟨_, _, _, _, _, _, _, _, _, _, _, _, _, _, rfl⟩
      · split <;> exact ⟨_, _, _, _, _, _, _, _, _, _, _, _, _, _, rfl⟩
  | control message idMessage =>
      obtain ⟨u, replies, rfl, ⟨rfl, _⟩ | ⟨params, reply, _, hConfigure⟩⟩ :=
        handleControlMessage_cases h
      · exact hSame _ rfl replies 0
      · obtain ⟨closed, hClosed, _, _, _, _, _, _, _, rfl⟩ := configure_cases hConfigure
        rcases configureShutdown_cases hClosed with
          ⟨rfl, _⟩ | ⟨rfl, _⟩ | ⟨ended, _, _, hEnded, rfl⟩
        · exact ⟨_, _, _, _, _, _, _, _, _, _, _, _, _, _, rfl⟩
        · exact ⟨_, _, _, _, _, _, _, _, _, _, _, _, _, _, rfl⟩
        · obtain ⟨_, _, ⟨_, _, rfl⟩, rfl⟩ := closeStream_sentOn hEnded
          exact ⟨_, _, _, _, _, _, _, _, _, _, _, _, _, _, rfl⟩

/-- The main thread leaves alone what the rx thread latched and what it is
receiving. -/
theorem mainStep_reception {event : MainEvent} (h : mainStep env s event = some t) :
    t.rxSocket = s.rxSocket ∧ t.currentOffset = s.currentOffset ∧
      t.currentAcquisitionID = s.currentAcquisitionID ∧
      t.currentConsumerIndexToSendTo = s.currentConsumerIndexToSendTo := by
  obtain ⟨_, _, _, _, _, _, _, _, _, _, _, _, _, _, rfl⟩ := mainStep_commanded h
  exact ⟨rfl, rfl, rfl, rfl⟩

/-- The main thread sends on no socket, except for the end message of a close. -/
theorem mainStep_log {event : MainEvent} (h : mainStep env s event = some t) (socket : Socket) :
    t.log socket = s.log socket ∨
      (s.Open socket ∧ t.log socket = s.log socket ++ [(s.endMessage env, false)] ∧
        ∃ message idMessage, event = .control message idMessage ∧
          closesStream env message s = true) := by
  cases event with
  | monitor event rank =>
      cases h
      left
      unfold handleMonitorMessage
      simp only
      split
      · cases socket with
        | forward => rfl
        | consumer i => exact output_reconnect s rank i (· + 1)
      · split
        · cases socket with
          | forward => rfl
          | consumer i => exact output_reconnect s rank i fun n => if n - 1 < 0 then 0 else n - 1
        · cases socket <;> rfl
  | forwardMonitor event =>
      cases h
      left
      unfold handleForwardMonitorMessage
      split
      · cases socket <;> rfl
      · split <;> cases socket <;> rfl
  | control message idMessage =>
      obtain ⟨u, replies, rfl, hHandled⟩ := handleControlMessage_cases h
      have hReplied : EigerFan.log { u with controlSocket := replies, more := 0 } socket =
          u.log socket := by cases socket <;> rfl
      rw [hReplied]
      rcases hHandled with ⟨rfl, _⟩ | ⟨params, reply, hParams, hConfigure⟩
      · exact .inl rfl
      · obtain ⟨closed, hClosed, hConfigured⟩ := configure_cases hConfigure
        have hLog : u.log socket = closed.1.log socket := by
          obtain ⟨_, _, _, _, _, _, _, rfl⟩ := hConfigured
          cases socket <;> rfl
        rw [hLog]
        rcases configureShutdown_cases hClosed with
          ⟨rfl, _⟩ | ⟨rfl, _⟩ | ⟨ended, hKill, hClose, hEnded, rfl⟩
        · exact .inl rfl
        · exact .inl (by cases socket <;> rfl)
        · have hStop : ended.stop.log socket = ended.log socket := by cases socket <;> rfl
          rw [hStop]
          unfold EigerFan.closeStream at hEnded
          split at hEnded
          · next hState =>
              have hCloses : closesStream env message s = true := by
                simp [closesStream, closeRequested, hParams, hKill, hClose, hState]
              refine (sendFabricatedEndMessage_log hEnded socket).imp id fun hOpen => ?_
              exact ⟨hOpen.1, hOpen.2, message, idMessage, rfl, hCloses⟩
          · cases hEnded
            exact .inl rfl

end Main

end Eiger.Fan
