import EigerDetector.Fan.Preparation

/-! One stream message handled from its first part to the end of the draining,
when nothing interferes. -/
namespace Eiger.Fan

open CharArrays Rapidjson FixedWidth Threads Rx Multipart EigerFan

namespace EigerFan

/-- Every rank of the configuration has its consumer, and there is one. -/
structure Ready (s : EigerFan) : Prop where
  consumers_pos : 1 ≤ s.config.numConsumers
  consumers_int : s.config.numConsumers ≤ maxInt32
  consumers_length : s.consumers.length = s.config.numConsumers.toNat
  block_pos : 1 ≤ s.config.blockSize

theorem Ready.congr {s t : EigerFan} (h : s.Ready) (hConfig : t.config = s.config)
    (hLength : t.consumers.length = s.consumers.length) : t.Ready := by
  refine ⟨?_, ?_, ?_, ?_⟩
  · exact hConfig ▸ h.consumers_pos
  · exact hConfig ▸ h.consumers_int
  · rw [hConfig, hLength]
    exact h.consumers_length
  · exact hConfig ▸ h.block_pos

/-- Flagged parts on the forwarding socket and to every connected consumer. -/
def broadcast (parts : List (Bytes × Bool)) (s : EigerFan) : EigerFan :=
  { s.forward parts with consumers := s.consumers.map (EigerConsumer.send parts) }

/-- Flagged parts on the forwarding socket and to the dispatched consumer. -/
def single (parts : List (Bytes × Bool)) (s : EigerFan) : EigerFan :=
  { s.forward parts with
    consumers := s.consumers.modify s.currentConsumerIndexToSendTo.toNat
      (EigerConsumer.send parts) }

theorem forward_eq (parts : List (Bytes × Bool)) (s : EigerFan) :
    s.forward parts =
      { s with
        forwardSocket := if s.forwardOpen then s.forwardSocket ++ parts else s.forwardSocket } := by
  unfold forward
  split <;> rfl

theorem forward_consumers (parts : List (Bytes × Bool)) (s : EigerFan) :
    (s.forward parts).consumers = s.consumers := by
  rw [forward_eq]

theorem forward_index (parts : List (Bytes × Bool)) (s : EigerFan) :
    (s.forward parts).currentConsumerIndexToSendTo = s.currentConsumerIndexToSendTo := by
  rw [forward_eq]

end EigerFan

theorem EigerConsumer.send_nil (c : EigerConsumer) : EigerConsumer.send [] c = c := by
  unfold EigerConsumer.send
  split
  · rw [List.append_nil]
  · rfl

theorem EigerConsumer.send_send (first second : List (Bytes × Bool)) (c : EigerConsumer) :
    EigerConsumer.send second (EigerConsumer.send first c) =
      EigerConsumer.send (first ++ second) c := by
  by_cases h : 0 < c.connected
  · simp [EigerConsumer.send, h]
  · simp [EigerConsumer.send, h]

theorem EigerConsumer.send_connected (parts : List (Bytes × Bool)) (c : EigerConsumer) :
    (EigerConsumer.send parts c).connected = c.connected := by
  unfold EigerConsumer.send
  split <;> rfl

theorem getElem?_foldl_modify_range {A : Type} (f : A → A) (xs : List A) (n i : Nat) :
    ((List.range n).foldl (fun acc k => acc.modify k f) xs)[i]? =
      if i < n then xs[i]?.map f else xs[i]? := by
  induction n with
  | zero => simp
  | succ n ih =>
      rw [List.range_succ, List.foldl_append, List.foldl_cons, List.foldl_nil,
        List.getElem?_modify, ih]
      by_cases hEq : n = i
      · subst hEq
        simp
      · have hIff : i < n + 1 ↔ i < n := by omega
        simp [hEq, hIff]

/-- Modifying every position one after the other maps over the list. -/
theorem foldl_modify_range {A : Type} (f : A → A) (xs : List A) :
    (List.range xs.length).foldl (fun acc k => acc.modify k f) xs = xs.map f := by
  apply List.ext_getElem?
  intro i
  rw [getElem?_foldl_modify_range, List.getElem?_map]
  split
  · rfl
  · next hLength =>
      rw [List.getElem?_eq_none (by omega)]
      rfl

/-- For a positive number of consumers the send order is all ranks in turn. -/
theorem sendOrder_eq {n : Int} (h : 1 ≤ n) :
    sendOrder n = (List.range n.toNat).map Int.ofNat := by
  obtain ⟨k, rfl⟩ : ∃ k : Nat, n = (k : Int) + 1 := ⟨(n - 1).toNat, by omega⟩
  have hLast : ((k : Int) + 1 - 1) = Int.ofNat k := by simp
  have hCount : ((k : Int) + 1).toNat = k + 1 := by omega
  rw [sendOrder, hLast, hCount, List.range_succ, List.map_append]
  rfl

section Execute

variable (env : Environment)

theorem sendTo_some {s : EigerFan} {rank : Int} (hLow : 0 ≤ rank)
    (hHigh : rank.toNat < s.consumers.length) (parts : List (Bytes × Bool)) :
    s.sendTo rank parts =
      some { s with consumers := s.consumers.modify rank.toNat (EigerConsumer.send parts) } := by
  rw [EigerFan.sendTo, EigerFan.consumerAt, if_pos hLow, List.getElem?_eq_getElem hHigh]
  rfl

theorem run_sendToRanks (parts : List (Bytes × Bool)) (ranks : List Int) (s : EigerFan)
    (h : ∀ rank ∈ ranks, 0 ≤ rank ∧ rank.toNat < s.consumers.length) :
    (sendToRanks parts ranks).run (answer env) s =
      .returned { s with
        consumers := ranks.foldl
          (fun acc rank => acc.modify rank.toNat (EigerConsumer.send parts)) s.consumers } () := by
  induction ranks generalizing s with
  | nil => rfl
  | cons rank ranks ih =>
      obtain ⟨hLow, hHigh⟩ := h rank List.mem_cons_self
      have hStep : answer env (.sendTo rank parts) s = some
          ({ s with consumers := s.consumers.modify rank.toNat (EigerConsumer.send parts) },
            true) := by
        rw [answer, sendTo_some hLow hHigh]
      rw [sendToRanks]
      refine (Program.run_act_some (answer env) hStep _).trans ?_
      rw [List.foldl_cons]
      refine ih { s with consumers := s.consumers.modify rank.toNat (EigerConsumer.send parts) } ?_
      intro r hr
      rw [List.length_modify]
      exact h r (List.mem_cons_of_mem _ hr)

/-- Sending to all consumers reaches each of them once. -/
theorem run_sendToAll (parts : List (Bytes × Bool)) {s : EigerFan}
    (hPos : 1 ≤ s.config.numConsumers)
    (hLength : s.consumers.length = s.config.numConsumers.toNat) :
    (sendToAll parts).run (answer env) s = .returned (s.broadcast parts) () := by
  have hForward := forward_consumers parts s
  have hRun := run_sendToRanks env parts (sendOrder s.config.numConsumers) (s.forward parts) (by
    intro rank hRank
    rw [sendOrder_eq hPos] at hRank
    obtain ⟨i, hi, rfl⟩ := List.mem_map.mp hRank
    rw [List.mem_range] at hi
    rw [hForward, hLength]
    exact ⟨Int.natCast_nonneg i, hi⟩)
  refine (show (sendToAll parts).run (answer env) s =
    (sendToRanks parts (sendOrder s.config.numConsumers)).run (answer env) (s.forward parts)
    from rfl).trans (hRun.trans ?_)
  rw [sendOrder_eq hPos, List.foldl_map, hForward, EigerFan.broadcast]
  have hFold := foldl_modify_range (EigerConsumer.send parts) s.consumers
  rw [← hLength]
  exact congrArg (fun cs => Outcome.returned { s.forward parts with consumers := cs } ()) hFold

/-- Without consumers the last rank is negative, and `consumers.at` throws. -/
theorem run_sendToAll_nobody (parts : List (Bytes × Bool)) {s : EigerFan}
    (hNone : s.config.numConsumers ≤ 0) :
    (sendToAll parts).run (answer env) s = .failed (s.forward parts) .exception := by
  have hOrder : sendOrder s.config.numConsumers = [s.config.numConsumers - 1] := by
    rw [sendOrder, Int.toNat_of_nonpos (by omega)]
    rfl
  have hRank : answer env (.sendTo (s.config.numConsumers - 1) parts) (s.forward parts) =
      some (s.forward parts, false) := by
    rw [answer, EigerFan.sendTo, EigerFan.consumerAt, if_neg (by omega)]
    rfl
  refine (show (sendToAll parts).run (answer env) s =
    (sendToRanks parts (sendOrder s.config.numConsumers)).run (answer env) (s.forward parts)
    from rfl).trans ?_
  rw [hOrder, sendToRanks]
  exact Program.run_act_some (answer env) hRank _

theorem single_nil (s : EigerFan) : s.single [] = s := by
  have hSend : EigerConsumer.send ([] : List (Bytes × Bool)) = id := funext EigerConsumer.send_nil
  rw [EigerFan.single, forward_eq, hSend]
  simp

theorem single_single (first second : List (Bytes × Bool)) (s : EigerFan) :
    (s.single first).single second = s.single (first ++ second) := by
  have hSend : EigerConsumer.send second ∘ EigerConsumer.send first =
      EigerConsumer.send (first ++ second) :=
    funext fun c => EigerConsumer.send_send first second c
  have hOpen : (s.single first).forwardOpen ↔ s.forwardOpen := by
    rw [EigerFan.single, forward_eq]
    exact Iff.rfl
  rw [EigerFan.single, forward_eq, EigerFan.single, forward_eq, EigerFan.single, forward_eq]
  simp only [EigerFan.forwardOpen] at hOpen ⊢
  by_cases h : s.forwardStream = true ∧ 0 < s.numConnectedForwardingSockets
  · simp [h, List.modify_modify_eq, hSend]
  · simp [h, List.modify_modify_eq, hSend]

/-- The part sends of one image add up to the whole message. -/
theorem run_sendImageParts (parts : List (Bytes × Bool)) (s : EigerFan)
    (hLow : 0 ≤ s.currentConsumerIndexToSendTo)
    (hHigh : s.currentConsumerIndexToSendTo.toNat < s.consumers.length) :
    (sendImageParts parts).run (answer env) s = .returned (s.single parts) () := by
  induction parts generalizing s with
  | nil => rw [single_nil]; rfl
  | cons part parts ih =>
      obtain ⟨message, sndmore⟩ := part
      have hStep : answer env (.sendMessageToSingleConsumer message sndmore) s =
          some (s.single [(message, sndmore)], true) := by
        have hHigh' : s.currentConsumerIndexToSendTo.toNat <
            (s.forward [(message, sndmore)]).consumers.length := by
          rw [forward_consumers]
          exact hHigh
        have hTo := sendTo_some hLow hHigh' [(message, sndmore)]
        rw [answer, EigerFan.sendToSingle, forward_index, hTo, EigerFan.single, forward_consumers]
      rw [sendImageParts]
      refine (Program.run_act_some (answer env) hStep _).trans ?_
      have hRest := ih (s.single [(message, sndmore)])
        (by rw [EigerFan.single, forward_eq]; exact hLow)
        (by rw [EigerFan.single, forward_eq]; simpa using hHigh)
      rw [single_single] at hRest
      exact hRest

theorem run_update (fs : List (EigerFan → EigerFan)) (s : EigerFan) :
    (Plan.update fs).run (answer env) s = .returned (fs.foldl (fun t f => f t) s) () := by
  induction fs generalizing s with
  | nil => rfl
  | cons f fs ih => exact ih (f s)

/-- The state after the sends of a plan. -/
def EigerFan.sent (s : EigerFan) : Sends → EigerFan
  | .nothing => s
  | .broadcast parts => s.broadcast (frame parts)
  | .image parts => s.single (frame parts)

/-- The state after a plan. -/
def Plan.apply (plan : Plan) (s : EigerFan) : EigerFan :=
  plan.updates.foldl (fun t f => f t) (s.sent plan.sends)

/-- No `consumers.at` of the sends throws. -/
def Sends.Deliverable (s : EigerFan) : Sends → Prop
  | .nothing => True
  | .broadcast _ => s.Ready
  | .image _ => 0 ≤ s.currentConsumerIndexToSendTo ∧
      s.currentConsumerIndexToSendTo.toNat < s.consumers.length

/-- Once its sends went through, a plan is carried out. -/
theorem run_execute_of_send (plan : Plan) {s : EigerFan}
    (hSend : (Plan.send plan.sends).run (answer env) s = .returned (s.sent plan.sends) ()) :
    plan.execute.run (answer env) s = .returned (plan.apply s) () := by
  rw [Plan.execute, Program.run_bind_returned (answer env) hSend]
  exact run_update env plan.updates (s.sent plan.sends)

theorem run_execute (plan : Plan) {s : EigerFan} (h : plan.sends.Deliverable s) :
    plan.execute.run (answer env) s = .returned (plan.apply s) () := by
  refine run_execute_of_send env plan ?_
  cases hSends : plan.sends with
  | nothing => rfl
  | broadcast parts =>
      rw [hSends] at h
      exact run_sendToAll env (frame parts) h.consumers_pos h.consumers_length
  | image parts =>
      rw [hSends] at h
      exact run_sendImageParts env (frame parts) s h.1 h.2

end Execute

/-- Draining takes the rest of the message off the socket and nothing more. -/
theorem run_drainSurplusParts (env : Environment) (fuel : Nat) (rest : List Bytes)
    (tail : List (Bytes × Bool)) (more : Int) (s : EigerFan) (hFuel : rest.length < fuel) :
    (drainSurplusParts fuel).run (answer env) (reading rest tail more s) =
      .returned (reading [] tail 0 s) () := by
  induction fuel generalizing rest more with
  | zero => omega
  | succ fuel ih =>
      rw [drainSurplusParts, run_moreParts]
      cases rest with
      | nil => rfl
      | cons part rest =>
          simp only [List.isEmpty_cons, Bool.not_false, if_true]
          rw [run_recv]
          exact ih rest _ (by simpa using hFuel)

section Reading

variable (rest : List Bytes) (tail : List (Bytes × Bool)) (more : Int) (s : EigerFan)

theorem sent_reading (sends : Sends) :
    (reading rest tail more s).sent sends = reading rest tail more (s.sent sends) := by
  cases sends with
  | nothing => rfl
  | broadcast parts =>
      rw [EigerFan.sent, EigerFan.broadcast, forward_eq, EigerFan.sent, EigerFan.broadcast,
        forward_eq]
      rfl
  | image parts =>
      rw [EigerFan.sent, EigerFan.single, forward_eq, EigerFan.sent, EigerFan.single, forward_eq]
      rfl

/-- The updates of a plan leave the rx socket alone. -/
def Plan.Steady (plan : Plan) : Prop :=
  ∀ f ∈ plan.updates, ∀ rest tail more s,
    f (reading rest tail more s) = reading rest tail more (f s)

theorem apply_reading {plan : Plan} (h : plan.Steady) :
    plan.apply (reading rest tail more s) = reading rest tail more (plan.apply s) := by
  rw [Plan.apply, sent_reading, Plan.apply]
  have hFold : ∀ (fs : List (EigerFan → EigerFan)) (t : EigerFan), (∀ f ∈ fs, f ∈ plan.updates) →
      fs.foldl (fun t f => f t) (reading rest tail more t) =
        reading rest tail more (fs.foldl (fun t f => f t) t) := by
    intro fs
    induction fs with
    | nil => exact fun t _ => rfl
    | cons f fs ih =>
        intro t hfs
        rw [List.foldl_cons, h f (hfs f List.mem_cons_self), List.foldl_cons]
        exact ih (f t) fun g hg => hfs g (List.mem_cons_of_mem _ hg)
  exact hFold plan.updates _ fun f hf => hf

/-- Plans only set the state and count the image. -/
theorem plan_updates (env : Environment) (first : FirstPart) {f : EigerFan → EigerFan}
    (hf : f ∈ (first.plan env s rest).updates) :
    (∃ state, f = markState state) ∨ ∃ frame, f = countImage frame := by
  cases first with
  | unreadable => exact absurd hf List.not_mem_nil
  | unknown => exact absurd hf List.not_mem_nil
  | header members series detail =>
      rw [FirstPart.plan, headerPlan] at hf
      have hMark : f ∈ [markState .dstrHeader] := by
        split at hf
        · exact hf
        · split at hf
          · split at hf
            · exact hf
            · exact absurd hf List.not_mem_nil
          · split at hf
            · split at hf
              · exact hf
              · exact absurd hf List.not_mem_nil
            · exact hf
      exact .inl ⟨_, List.mem_singleton.mp hMark⟩
  | image members frame =>
      rw [FirstPart.plan, imagePlan] at hf
      have hUpdate : f = markState .dstrImage ∨ f = countImage frame := by
        split at hf
        · simpa [imageSent, Plan.andThen] using hf
        · exact .inr (by simpa [rejected, Plan.andThen] using hf)
      rcases hUpdate with rfl | rfl
      · exact .inl ⟨_, rfl⟩
      · exact .inr ⟨_, rfl⟩
  | endOfSeries members =>
      have hUpdate : f = markState .dstrEnd ∨ f = markState .waitingStream := by
        simpa [FirstPart.plan] using hf
      rcases hUpdate with rfl | rfl
      · exact .inl ⟨_, rfl⟩
      · exact .inl ⟨_, rfl⟩

theorem plan_steady (env : Environment) (first : FirstPart) : (first.plan env s rest).Steady := by
  intro f hf
  rcases plan_updates rest s env first hf with ⟨state, rfl⟩ | ⟨frame, rfl⟩
  · exact fun _ _ _ _ => rfl
  · exact fun _ _ _ _ => rfl

end Reading

/-- Receiving the first part of a message leaves the rx thread inside it. -/
theorem receive_eq (env : Environment) {s : EigerFan} {part1 : Bytes} {rest : List Bytes}
    {tail : List (Bytes × Bool)} (hQueue : s.rxSocket.queue = frame (part1 :: rest) ++ tail) :
    receive env s = (handleStreamMessage env s.rxSocket.queue.length part1).run (answer env)
      (reading rest tail s.more s) := by
  rw [receive, handleRxSocket, run_members]
  have hStep : answer env .recv s = some (reading rest tail s.more s, part1) := by
    rw [answer, hQueue, frame_cons]
    rfl
  exact Program.run_act_some (answer env) hStep _

section Settling

variable (env : Environment) {s s₁ : EigerFan} {part1 : Bytes} {rest rest₁ : List Bytes}
  {tail : List (Bytes × Bool)} {more₁ : Int} {plan : Plan}

theorem surplus_fits (hQueue : s.rxSocket.queue = frame (part1 :: rest) ++ tail)
    (hRest : rest₁ <:+ rest) : rest₁.length < s.rxSocket.queue.length := by
  have hLength := hRest.length_le
  rw [hQueue, List.length_append, frame_length, List.length_cons]
  omega

/-- Once the plan is executed, or a send threw, what is left of the message is dropped. -/
theorem receive_executed {u : EigerFan}
    (hQueue : s.rxSocket.queue = frame (part1 :: rest) ++ tail) (hRest : rest₁ <:+ rest)
    (hPrepare : (prepare env part1).run (answer env) (reading rest tail s.more s) =
      .returned (reading rest₁ tail more₁ s₁) plan)
    (hExecute : plan.execute.run (answer env) (reading rest₁ tail more₁ s₁) =
        .returned (reading rest₁ tail more₁ u) () ∨
      plan.execute.run (answer env) (reading rest₁ tail more₁ s₁) =
        .failed (reading rest₁ tail more₁ u) .exception) :
    receive env s = .returned (reading [] tail 0 u) () := by
  rw [receive_eq env hQueue, handleStreamMessage, dispatchStreamMessage_eq, Program.run_bind,
    Program.run_onFailure, Program.run_bind_returned (answer env) hPrepare]
  rcases hExecute with hExecute | hExecute
  · rw [hExecute]
    exact run_drainSurplusParts env _ rest₁ tail more₁ u (surplus_fits hQueue hRest)
  · rw [hExecute]
    exact run_drainSurplusParts env _ rest₁ tail more₁ u (surplus_fits hQueue hRest)

/-- A cache write that throws has the rest of the message dropped. -/
theorem receive_thrown (hQueue : s.rxSocket.queue = frame (part1 :: rest) ++ tail)
    (hRest : rest₁ <:+ rest)
    (hPrepare : (prepare env part1).run (answer env) (reading rest tail s.more s) =
      .failed (reading rest₁ tail more₁ s₁) .exception) :
    receive env s = .returned (reading [] tail 0 s₁) () := by
  rw [receive_eq env hQueue, handleStreamMessage, dispatchStreamMessage_eq, Program.run_bind,
    Program.run_onFailure, Program.run_bind_failed (answer env) hPrepare]
  exact run_drainSurplusParts env _ rest₁ tail more₁ s₁ (surplus_fits hQueue hRest)

end Settling

/-- One whole stream message: the rx socket ends at the next message, and the plan was
carried out exactly if no cache write threw; one that throws comes before every send. -/
theorem receive_returns (env : Environment) {s : EigerFan} {part1 : Bytes} {rest : List Bytes}
    {tail : List (Bytes × Bool)} {first : FirstPart}
    (hQueue : s.rxSocket.queue = frame (part1 :: rest) ++ tail)
    (hFirst : readFirstPart env part1 = some first) (hDispatch : first.Dispatches s)
    (hDeliver : (first.plan env s rest).sends.Deliverable (first.entered s)) :
    ∃ s₁, Scratch (first.entered s) s₁ ∧
      ((s.CacheWrites env (first.writes rest) ∧
        receive env s = .returned (reading [] tail 0 ((first.plan env s rest).apply s₁)) ()) ∨
      (¬ s.CacheWrites env (first.writes rest) ∧
        receive env s = .returned (reading [] tail 0 s₁) ())) := by
  have hPrepared : PreparedBy env tail (first.entered s) rest (first.writes rest) s
      (first.plan env s rest) ((prepare env part1).run (answer env) (reading rest tail s.more s)) :=
    prepare_preparedBy hFirst hDispatch
  obtain ⟨s₁, rest₁, more₁, hScratch, hRest, ⟨hWrites, hRun⟩ | ⟨hThrows, hRun⟩⟩ := hPrepared
  · refine ⟨s₁, hScratch, .inl ⟨hWrites, ?_⟩⟩
    have hDeliver₁ : (first.plan env s rest).sends.Deliverable (reading rest₁ tail more₁ s₁) := by
      obtain ⟨_, _, _, rfl⟩ := hScratch
      cases hSends : (first.plan env s rest).sends with
      | nothing => trivial
      | broadcast parts =>
          rw [hSends] at hDeliver
          exact EigerFan.Ready.congr hDeliver rfl rfl
      | image parts =>
          rw [hSends] at hDeliver
          exact hDeliver
    have hExecute := run_execute env _ hDeliver₁
    rw [apply_reading _ _ _ _ (plan_steady rest s env first)] at hExecute
    exact receive_executed env hQueue hRest hRun (.inl hExecute)
  · refine ⟨s₁, hScratch, .inr ⟨hThrows, ?_⟩⟩
    exact receive_thrown env hQueue hRest hRun

/-- The states differ only in what the handling of a message may change after
its preparation: scratch members, sockets, the state and the counters. -/
def EigerFan.Handled (s t : EigerFan) : Prop :=
  ∃ doc files calls forwardSocket consumers state lastFrameSent numFramesSent numFramesConsumed,
    t = { s with
      jsonDocument := doc
      files := files
      fileCalls := calls
      forwardSocket := forwardSocket
      consumers := consumers
      state := state
      lastFrameSent := lastFrameSent
      numFramesSent := numFramesSent
      numFramesConsumed := numFramesConsumed }

namespace EigerFan

theorem Handled.refl (s : EigerFan) : Handled s s := ⟨_, _, _, _, _, _, _, _, _, rfl⟩

theorem Handled.trans {s t u : EigerFan} (left : Handled s t) (right : Handled t u) :
    Handled s u := by
  obtain ⟨_, _, _, _, _, _, _, _, _, rfl⟩ := left
  obtain ⟨_, _, _, _, _, _, _, _, _, rfl⟩ := right
  exact ⟨_, _, _, _, _, _, _, _, _, rfl⟩

theorem Scratch.handled {s t : EigerFan} (h : Scratch s t) : Handled s t := by
  obtain ⟨_, _, _, rfl⟩ := h
  exact ⟨_, _, _, _, _, _, _, _, _, rfl⟩

/-- Handling stays inside the message that is being read. -/
theorem Handled.reading {rest : List Bytes} {tail : List (Bytes × Bool)} {more : Int}
    {s t : EigerFan} (h : Handled (reading rest tail more s) t) :
    ∃ u, t = EigerFan.reading rest tail more u ∧ Handled s u := by
  obtain ⟨doc, files, calls, forwardSocket, consumers, state, last, sent, consumed, rfl⟩ := h
  exact ⟨_, rfl, doc, files, calls, forwardSocket, consumers, state, last, sent, consumed, rfl⟩

theorem handled_forward (parts : List (Bytes × Bool)) (s : EigerFan) :
    Handled s (s.forward parts) := by
  rw [forward_eq]
  exact ⟨_, _, _, _, _, _, _, _, _, rfl⟩

end EigerFan

section Total

variable (env : Environment)

/-- A send to a rank goes through or throws, and does nothing else. -/
theorem answer_sendTo (rank : Int) (parts : List (Bytes × Bool)) (s : EigerFan) :
    ∃ t sent, answer env (.sendTo rank parts) s = some (t, sent) ∧ Handled s t := by
  rw [answer]
  cases hSend : s.sendTo rank parts with
  | none => exact ⟨s, false, rfl, .refl s⟩
  | some t =>
      obtain ⟨_, _, rfl⟩ := Option.map_eq_some_iff.mp hSend
      exact ⟨_, true, rfl, _, _, _, _, _, _, _, _, _, rfl⟩

theorem answer_sendMessageToSingleConsumer (message : Bytes) (sndmore : Bool) (s : EigerFan) :
    ∃ t sent, answer env (.sendMessageToSingleConsumer message sndmore) s = some (t, sent) ∧
      Handled s t := by
  have hForward := handled_forward [(message, sndmore)] s
  rw [answer, EigerFan.sendToSingle]
  cases hSend : (s.forward [(message, sndmore)]).sendTo
      (s.forward [(message, sndmore)]).currentConsumerIndexToSendTo [(message, sndmore)] with
  | none => exact ⟨_, false, rfl, hForward⟩
  | some t =>
      obtain ⟨_, _, rfl⟩ := Option.map_eq_some_iff.mp hSend
      exact ⟨_, true, rfl, hForward.trans ⟨_, _, _, _, _, _, _, _, _, rfl⟩⟩

/-- A run that returns, or ends with an exception, and changes no more than the
handling of a message may. -/
def Completes (s : EigerFan) (outcome : Outcome EigerFan Failure Unit) : Prop :=
  ∃ t, Handled s t ∧ (outcome = .returned t () ∨ outcome = .failed t .exception)

theorem Completes.after {s t : EigerFan} {outcome : Outcome EigerFan Failure Unit}
    (hHandled : Handled s t) (h : Completes t outcome) : Completes s outcome := by
  obtain ⟨u, hu, hOutcome⟩ := h
  exact ⟨u, hHandled.trans hu, hOutcome⟩

/-- Send, give up if the send threw, and otherwise go on. -/
theorem completes_step {action : RxAction} {next : action.Reply → Rx Unit} {s t : EigerFan}
    {reply : action.Reply} {sent : Bool} {continued : Rx Unit}
    (hAnswer : answer env action s = some (t, reply)) (hHandled : Handled s t)
    (hNext : next reply = (unlessThrown sent >>= fun _ => continued))
    (ih : Completes t (continued.run (answer env) t)) :
    Completes s ((Program.act action next : Rx Unit).run (answer env) s) := by
  rw [Program.run_act_some (answer env) hAnswer, hNext]
  cases sent with
  | false => exact ⟨t, hHandled, .inr rfl⟩
  | true => exact ih.after hHandled

theorem sendToRanks_completes (parts : List (Bytes × Bool)) (ranks : List Int) (s : EigerFan) :
    Completes s ((sendToRanks parts ranks).run (answer env) s) := by
  induction ranks generalizing s with
  | nil => exact ⟨s, .refl s, .inl rfl⟩
  | cons rank ranks ih =>
      obtain ⟨t, sent, hAnswer, hHandled⟩ := answer_sendTo env rank parts s
      exact completes_step env hAnswer hHandled rfl (ih t)

theorem sendImageParts_completes (parts : List (Bytes × Bool)) (s : EigerFan) :
    Completes s ((sendImageParts parts).run (answer env) s) := by
  induction parts generalizing s with
  | nil => exact ⟨s, .refl s, .inl rfl⟩
  | cons part parts ih =>
      obtain ⟨t, sent, hAnswer, hHandled⟩ :=
        answer_sendMessageToSingleConsumer env part.1 part.2 s
      rw [sendImageParts, sendMessageToSingleConsumer, Program.bind_assoc]
      exact completes_step env hAnswer hHandled rfl (ih t)

theorem execute_completes (plan : Plan)
    (hUpdates : ∀ f ∈ plan.updates, ∀ s, Handled s (f s)) (s : EigerFan) :
    Completes s (plan.execute.run (answer env) s) := by
  have hSend : Completes s ((Plan.send plan.sends).run (answer env) s) := by
    cases plan.sends with
    | nothing => exact ⟨s, .refl s, .inl rfl⟩
    | broadcast parts =>
        exact (sendToRanks_completes env (frame parts) _ _).after (handled_forward _ s)
    | image parts => exact sendImageParts_completes env (frame parts) s
  have hFold : ∀ (fs : List (EigerFan → EigerFan)) (t : EigerFan),
      (∀ f ∈ fs, f ∈ plan.updates) → Handled t (fs.foldl (fun u f => f u) t) := by
    intro fs
    induction fs with
    | nil => exact fun t _ => .refl t
    | cons f fs ih =>
        intro t hfs
        exact (hUpdates f (hfs f List.mem_cons_self) t).trans
          (ih (f t) fun g hg => hfs g (List.mem_cons_of_mem _ hg))
  obtain ⟨t, hHandled, hRun | hRun⟩ := hSend
  · refine ⟨_, hHandled.trans (hFold plan.updates t fun f hf => hf), .inl ?_⟩
    rw [Plan.execute, Program.run_bind_returned (answer env) hRun]
    exact run_update env plan.updates t
  · exact ⟨t, hHandled, .inr (Program.run_bind_failed (answer env) hRun _)⟩

/-- An assertion that fails in the preparation ends the process. -/
theorem receive_aborts {s t : EigerFan} {part1 : Bytes} {rest : List Bytes}
    {tail : List (Bytes × Bool)}
    (hQueue : s.rxSocket.queue = Multipart.frame (part1 :: rest) ++ tail)
    (hPrepare : (prepare env part1).run (answer env) (reading rest tail s.more s) =
      .failed t .abort) : receive env s = .failed t .abort := by
  rw [receive_eq env hQueue, handleStreamMessage, dispatchStreamMessage_eq, Program.run_bind,
    Program.run_onFailure, Program.run_bind_failed (answer env) hPrepare]
  rfl

/-- Every stream message which reads well and whose dispatch does not fault is
handled to its end, whether its sends throw or not. -/
theorem receive_total {s : EigerFan} {part1 : Bytes} {rest : List Bytes}
    {tail : List (Bytes × Bool)} {first : FirstPart}
    (hQueue : s.rxSocket.queue = frame (part1 :: rest) ++ tail)
    (hFirst : readFirstPart env part1 = some first) (hDispatch : first.Dispatches s) :
    ∃ t, receive env s = .returned (reading [] tail 0 t) () ∧ Handled (first.entered s) t := by
  have hPrepared : PreparedBy env tail (first.entered s) rest (first.writes rest) s
      (first.plan env s rest) ((prepare env part1).run (answer env) (reading rest tail s.more s)) :=
    prepare_preparedBy hFirst hDispatch
  obtain ⟨s₁, rest₁, more₁, hScratch, hRest, ⟨_, hRun⟩ | ⟨_, hRun⟩⟩ := hPrepared
  · have hUpdates : ∀ f ∈ (first.plan env s rest).updates, ∀ u, Handled u (f u) := by
      intro f hf u
      rcases plan_updates rest s env first hf with ⟨state, rfl⟩ | ⟨frame, rfl⟩
      · exact ⟨_, _, _, _, _, _, _, _, _, rfl⟩
      · exact ⟨_, _, _, _, _, _, _, _, _, rfl⟩
    have hExecute := execute_completes env _ hUpdates (reading rest₁ tail more₁ s₁)
    obtain ⟨t, hHandled, hOutcome⟩ := hExecute
    obtain ⟨u, rfl, hInside⟩ := hHandled.reading
    exact ⟨u, receive_executed env hQueue hRest hRun hOutcome, hScratch.handled.trans hInside⟩
  · exact ⟨s₁, receive_thrown env hQueue hRest hRun, hScratch.handled⟩

theorem receive_faults {s : EigerFan} {part1 : Bytes} {rest : List Bytes}
    {tail : List (Bytes × Bool)} {members : List (Bytes × Value)} {frame : Int}
    (hQueue : s.rxSocket.queue = Multipart.frame (part1 :: rest) ++ tail)
    (hFirst : readFirstPart env part1 = some (.image members frame))
    (hDispatch : s.dispatch frame = none) : ∃ t, receive env s = .failed t .abort := by
  have hPrepare : ∃ t, (prepare env part1).run (answer env) (reading rest tail s.more s) =
      .failed t .abort := prepare_faults hFirst hDispatch
  obtain ⟨t, hRun⟩ := hPrepare
  exact ⟨t, receive_aborts env hQueue hRun⟩

/-- The dispatch of a message that was handled did not fault. -/
theorem dispatches_of_returned {s t : EigerFan} {part1 : Bytes} {rest : List Bytes}
    {tail : List (Bytes × Bool)} {first : FirstPart}
    (hQueue : s.rxSocket.queue = frame (part1 :: rest) ++ tail)
    (hFirst : readFirstPart env part1 = some first) (hReceive : receive env s = .returned t ()) :
    first.Dispatches s := by
  cases first with
  | image members frame =>
      rw [FirstPart.Dispatches, Option.isSome_iff_ne_none]
      intro hNone
      obtain ⟨u, hFault⟩ := receive_faults env hQueue hFirst hNone
      rw [hFault] at hReceive
      cases hReceive
  | _ => trivial

end Total

end Eiger.Fan
