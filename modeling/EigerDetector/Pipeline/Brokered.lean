import EigerDetector.Broker.Framing
import EigerDetector.Pipeline.Images

/-! The broker in front of the fan and its receivers. With several workers the messages come
in another order than they were sent, but each of them once and as it was. -/
namespace Eiger.Pipeline

open CharArrays Rapidjson Multipart Transition Decoder
open Broker (MultiPullBroker)

section Places

variable {taken : List (Nat × List Bytes)} {worker worker' k k' : Nat}
variable {message message' : List Bytes}

/-- Where the k-th message came from: the worker, and how many it had sent on before. -/
def placeOf (taken : List (Nat × List Bytes)) (k : Nat) : Nat × Nat :=
  let worker := (taken[k]?.map Prod.fst).getD 0
  (worker, (taken.take k).countP fun entry => entry.1 = worker)

theorem placeOf_eq (h : taken[k]? = some (worker, message)) :
    placeOf taken k = (worker, (taken.take k).countP fun entry => entry.1 = worker) := by
  rw [placeOf, h]
  rfl

/-- The list, split where the k-th message is. -/
theorem split_at (h : taken[k]? = some (worker, message)) :
    taken = taken.take k ++ (worker, message) :: taken.drop (k + 1) := by
  obtain ⟨hBound, hMessage⟩ := List.getElem?_eq_some_iff.mp h
  rw [← hMessage, ← List.drop_eq_getElem_cons hBound, List.take_append_drop]

/-- Among the messages of its worker it is where its place says. -/
theorem at_place (h : taken[k]? = some (worker, message)) :
    ((taken.filter fun entry => entry.1 = worker).map Prod.snd)[(placeOf taken k).2]? =
      some message := by
  have hSplit := congrArg (List.filter fun entry => decide (entry.1 = worker)) (split_at h)
  rw [List.filter_append, List.filter_cons_of_pos (by simp)] at hSplit
  rw [placeOf_eq h, hSplit, List.countP_eq_length_filter, List.map_append,
    List.getElem?_append_right (by simp)]
  simp

/-- A later message of the same worker has a later place. -/
theorem place_lt (h : taken[k]? = some (worker, message))
    (h' : taken[k']? = some (worker, message')) (hLess : k < k') :
    (placeOf taken k).2 < (placeOf taken k').2 := by
  obtain ⟨hBound, hMessage⟩ := List.getElem?_eq_some_iff.mp h
  have hTake : taken.take (k + 1) = taken.take k ++ [(worker, message)] := by
    rw [List.take_add_one, h]
    rfl
  have hMore : (taken.take (k + 1)).countP (fun entry => decide (entry.1 = worker)) ≤
      (taken.take k').countP fun entry => decide (entry.1 = worker) :=
    (List.take_sublist_take_left hLess).countP_le
  rw [placeOf_eq h, placeOf_eq h']
  rw [hTake, List.countP_append] at hMore
  simp at hMore ⊢
  omega

/-- No two messages come from one place. -/
theorem place_injective (h : taken[k]? = some (worker, message))
    (h' : taken[k']? = some (worker', message')) (hPlace : placeOf taken k = placeOf taken k') :
    k = k' := by
  have hWorker : worker = worker' := by
    rw [placeOf_eq h, placeOf_eq h'] at hPlace
    exact congrArg Prod.fst hPlace
  subst hWorker
  rcases Nat.lt_trichotomy k k' with hLess | hSame | hGreater
  · exact absurd (congrArg Prod.snd hPlace) (place_lt h h' hLess).ne
  · exact hSame
  · exact absurd (congrArg Prod.snd hPlace).symm (place_lt h' h hGreater).ne

end Places

section Broker

variable {threadCount : Nat} {brokerEvents : List Broker.BrokerEvent} {b : MultiPullBroker}

/-- What was taken from a worker are the first of the messages it was sent. -/
theorem received_of_taken (hBroker : Run (MultiPullBroker.step threadCount) always .initial
    brokerEvents b) {k worker : Nat} {message : List Bytes}
    (h : b.taken[k]? = some (worker, message)) :
    (completed (b.received worker))[(placeOf b.taken k).2]? = some message := by
  have hFramed : b.Framed worker :=
    hBroker.invariant (Broker.MultiPullBroker.initial_framed worker) fun _ _ _ hOld _ hStep =>
      Broker.MultiPullBroker.step_framed hOld hStep
  have hPlace : (b.takenFrom worker)[(placeOf b.taken k).2]? = some message := at_place h
  obtain ⟨hBound, _⟩ := List.getElem?_eq_some_iff.mp hPlace
  rw [hFramed.forwarded, hFramed.delivered, List.append_assoc,
    completed_stream_append hFramed.nonempty, List.getElem?_append_left hBound, hPlace]

theorem worker_of_taken (hBroker : Run (MultiPullBroker.step threadCount) always .initial
    brokerEvents b) {k worker : Nat} {message : List Bytes}
    (h : b.taken[k]? = some (worker, message)) : worker < threadCount := by
  have hWorkers : b.FromWorkers threadCount :=
    hBroker.invariant nofun fun _ _ _ hOld _ hStep =>
      Broker.MultiPullBroker.step_fromWorkers hOld hStep
  exact hWorkers _ (List.mem_of_getElem? h)

end Broker

section Pipeline

variable {threadCount : Nat} {brokerEvents : List Broker.BrokerEvent} {b : MultiPullBroker}
variable {env : Fan.Environment} {parse : Parser} {garbage : Uninitialised} {ids : List Nat}
variable {fan : Fan.EigerFan} {events : List Event} {w : System}

/-- What was handed on was taken from a worker, and sent to it as it is. -/
theorem handsImage_of_taken (hBroker : Run (MultiPullBroker.step threadCount) always .initial
    brokerEvents b) {k : Nat} {call : ReadyCall}
    (h : HandsImage env (b.taken.map Prod.snd) k call) :
    ∃ worker message, b.taken[k]? = some (worker, message) ∧
      (placeOf b.taken k).1 < threadCount ∧
      HandsImage env (completed (b.received (placeOf b.taken k).1)) (placeOf b.taken k).2 call := by
  obtain ⟨part1, part2, blob, rest, members, frame, hMessage, hImage⟩ := h
  rw [List.getElem?_map] at hMessage
  obtain ⟨⟨worker, message⟩, hTaken, rfl⟩ := Option.map_eq_some_iff.mp hMessage
  have hPlace : (placeOf b.taken k).1 = worker := by
    rw [placeOf_eq hTaken]
  rw [hPlace]
  exact ⟨worker, _, hTaken, worker_of_taken hBroker hTaken, part1, part2, blob, rest, members,
    frame, received_of_taken hBroker hTaken, hImage⟩

/-- With any number of workers in the broker, and in every interleaving of the fan with its
receivers: each image that is handed on is one of the messages that some worker received, with
its frame number and its data. No message is handed on twice, and of two images from one
worker a receiver hands on the earlier one first. What was taken from the workers and routed to
a receiver that had buffers for it has been handed on. -/
theorem brokered_images_handed
    (hBroker : Run (MultiPullBroker.step threadCount) always .initial brokerEvents b)
    (hStarts : Starts (b.taken.map Prod.snd) fan) (hIds : ids.Nodup)
    (hRun : Run (System.step env parse) (System.Allowed env parse) (.initial fan garbage ids)
      events w) :
    ∃ origin : Nat → List (Nat × Nat),
      (∀ rank, List.Forall₂ (fun place call => place.1 < threadCount ∧
          HandsImage env (completed (b.received place.1)) place.2 call)
        (origin rank) (imagesHanded (w.receivers rank))) ∧
      (∀ rank, (origin rank).Pairwise fun place later => place.1 = later.1 → place.2 < later.2) ∧
      (∀ rank rank' place, place ∈ origin rank → place ∈ origin rank' → rank = rank') ∧
      (Run (System.step env parse) System.Supplied (.initial fan garbage ids) events w →
        ∀ rank, (w.receivers rank).taken = (w.fan.output rank).length →
          ∀ k r parts, (deliveries env fan.router (b.taken.map Prod.snd) (fanEvents events))[k]? =
            some (r, .one rank parts) → r.Connected rank → placeOf b.taken k ∈ origin rank) := by
  obtain ⟨origin, hOrigins, hAll⟩ := origins_of_run hStarts hIds hRun
  have hTaken : ∀ rank, ∀ k ∈ origin rank, ∃ worker message,
      b.taken[k]? = some (worker, message) := by
    intro rank k hMem
    obtain ⟨call, _, hHands⟩ := partner_of_mem (hOrigins.hands rank) hMem
    obtain ⟨worker, message, hAt, _⟩ := handsImage_of_taken hBroker hHands
    exact ⟨worker, message, hAt⟩
  refine ⟨fun rank => (origin rank).map (placeOf b.taken), fun rank => ?_, fun rank => ?_,
    fun rank rank' place hMem hMem' => ?_, fun hSupplied rank hEnd k r parts hAt hConnected =>
      List.mem_map_of_mem (hAll hSupplied rank hEnd k r parts hAt hConnected)⟩
  · rw [List.forall₂_map_left_iff]
    refine (hOrigins.hands rank).imp fun k call hHands => ?_
    obtain ⟨_, _, _, hPlace⟩ := handsImage_of_taken hBroker hHands
    exact hPlace
  · rw [List.pairwise_map]
    refine (hOrigins.sorted rank).imp_of_mem fun {k k'} hMem hMem' hLess hWorker => ?_
    obtain ⟨worker, message, hAt⟩ := hTaken rank k hMem
    obtain ⟨worker', message', hAt'⟩ := hTaken rank k' hMem'
    have hSame : worker = worker' := by
      rwa [placeOf_eq hAt, placeOf_eq hAt'] at hWorker
    subst hSame
    exact place_lt hAt hAt' hLess
  · obtain ⟨k, hOrigin, rfl⟩ := List.mem_map.mp hMem
    obtain ⟨k', hOrigin', hSame⟩ := List.mem_map.mp hMem'
    obtain ⟨worker, message, hAt⟩ := hTaken rank k hOrigin
    obtain ⟨worker', message', hAt'⟩ := hTaken rank' k' hOrigin'
    have hIndex := place_injective hAt' hAt hSame
    exact hOrigins.once rank rank' k hOrigin (hIndex ▸ hOrigin')

end Pipeline

/-- Worker 1 brings the header and worker 0 the image. -/
def brokerEvents : List Broker.BrokerEvent :=
  ((stream (sampleMessages.take 1)).map fun item => .arrive 1 item) ++
    ((stream (sampleMessages.drop 1)).map fun item => .arrive 0 item) ++
    List.replicate 18 (.thread 0 .proceed) ++ List.replicate 6 (.thread 1 .proceed) ++
    [.take 1, .take 0]

theorem sample_brokered_handed :
    ∃ b w origin, Run (MultiPullBroker.step 2) always .initial brokerEvents b ∧
      Run (System.step sampleEnvironment sampleParser)
        (System.Allowed sampleEnvironment sampleParser) (.initial sampleFan zeroed [0, 1])
        sampleEvents w ∧
      List.Forall₂ (fun place call => place.1 < 2 ∧
          HandsImage sampleEnvironment (completed (b.received place.1)) place.2 call)
        origin (imagesHanded (w.receivers 1)) ∧ (0, 0) ∈ origin := by
  have hExec : (exec (MultiPullBroker.step 2) .initial brokerEvents).map MultiPullBroker.taken =
      some [(1, sampleMessages[0]), (0, sampleMessages[1])] := by
    decide +kernel
  obtain ⟨b, hBroker, hTaken⟩ := Option.map_eq_some_iff.mp hExec
  have hBroker := run_always_iff.mpr hBroker
  have hMessages : b.taken.map Prod.snd = sampleMessages := by
    rw [hTaken]
    rfl
  obtain ⟨w, hRun, hEnd⟩ := sampleRun
  have hAllowed := hRun.mono fun _ _ h => h.1
  obtain ⟨origin, hHanded, _, _, hAll⟩ :=
    brokered_images_handed hBroker (hMessages ▸ sampleStarts) (by decide) hAllowed
  obtain ⟨r, parts, hAt, hConnected⟩ : ∃ r parts,
      (deliveries sampleEnvironment sampleFan.router sampleMessages (fanEvents sampleEvents))[1]? =
        some (r, .one 1 parts) ∧ r.Connected 1 := ⟨_, _, rfl, rfl⟩
  have hPlace : placeOf b.taken 1 = (0, 0) := by
    rw [hTaken]
    rfl
  refine ⟨b, w, origin 1, hBroker, hAllowed, hHanded 1, ?_⟩
  rw [← hPlace]
  exact hAll (hRun.mono fun _ _ h => h.2) 1 hEnd 1 r parts (hMessages ▸ hAt) hConnected

end Eiger.Pipeline
