import EigerDetector.Broker.Order
import Mathlib.Algebra.BigOperators.Group.Finset.Piecewise
import Mathlib.Algebra.Order.BigOperators.Group.Finset

/-! The message counter of the broker. The workers raise it and the rx thread
restarts it, each at its own pace. -/
namespace Eiger.Broker

open CharArrays Multipart Transition Fan

def PipelineEvent.isCount : PipelineEvent → Bool
  | .worker _ .count => true
  | _ => false

/-- Between the last part of a message and its increment. -/
def Worker.owing (w : Worker) : Nat := if w.position = .counting then 1 else 0

/-- The messages of which the rx thread could take all parts. -/
def Worker.waiting (w : Worker) : Nat := (completed w.sinkSocket).length

theorem waiting_append (sink : List (Bytes × Bool)) (part : Bytes) (more : Bool) :
    (completed (sink ++ [(part, more)])).length =
      (completed sink).length + if more then 0 else 1 := by
  rw [completed_length, completed_length, List.countP_append]
  cases more <;> rfl

theorem Worker.owing_of_counting {w : Worker} (h : w.position = .counting) : w.owing = 1 :=
  if_pos h

theorem Worker.owing_of_not_counting {w : Worker} (h : w.position ≠ .counting) : w.owing = 0 :=
  if_neg h

/-- A worker owes an increment for each last part it sends, until it has made it. -/
theorem Worker.step_owing {shutdownRequested : Bool} {w w' : Worker} {event : WorkerEvent}
    {counted : Nat} (h : w.step shutdownRequested event = some (w', counted)) :
    counted + w'.owing + w.waiting = w.owing + w'.waiting := by
  cases event with
  | enter =>
      rw [Worker.step] at h
      split at h
      · next hPosition =>
          rw [owing_of_not_counting (w := w) (by rw [hPosition]; rintro ⟨⟩)]
          split at h <;> cases h <;> rfl
      · cases h
  | timeout =>
      rw [Worker.step] at h
      split at h
      · next hPosition =>
          rw [owing_of_not_counting (w := w) (by rw [hPosition]; rintro ⟨⟩)]
          cases h
          rfl
      · cases h
  | forward =>
      rw [Worker.step] at h
      split at h
      · next message flag source hPosition _ =>
          rw [owing_of_not_counting (w := w) (by rw [hPosition]; rintro ⟨⟩)]
          cases h
          rw [waiting, waiting, waiting_append]
          cases flag
          · show 0 + 1 + (completed w.sinkSocket).length = 0 + ((completed w.sinkSocket).length + 1)
            omega
          · rfl
      · cases h
  | count =>
      rw [Worker.step] at h
      split at h
      · next hPosition =>
          rw [owing_of_counting hPosition]
          cases h
          rfl
      · cases h

theorem Worker.step_counted {shutdownRequested : Bool} {w w' : Worker} {event : WorkerEvent}
    {counted i : Nat} (h : w.step shutdownRequested event = some (w', counted)) :
    counted = if (PipelineEvent.worker i event).isCount then 1 else 0 := by
  cases event <;> rw [Worker.step] at h <;> split at h
  all_goals first
    | cases h
      rfl
    | cases h
    | split at h <;> cases h <;> rfl

/-- A sum over the workers of which one changes. -/
theorem sum_update {A : Type*} (f : A → Nat) (g : Nat → A) {n i : Nat} (h : i < n) (a : A) :
    ∑ j ∈ Finset.range n, f (Function.update g i a j) + f (g i) =
      ∑ j ∈ Finset.range n, f (g j) + f a := by
  have hMember : i ∈ Finset.range n := Finset.mem_range.mpr h
  have hUpdate : (fun j => f (Function.update g i a j)) = Function.update (fun j => f (g j)) i (f a) :=
    Function.comp_update f g i a
  have hAll : f (g i) + ∑ j ∈ Finset.range n \ {i}, f (g j) = ∑ j ∈ Finset.range n, f (g j) := by
    rw [Finset.sdiff_singleton_eq_erase]
    exact Finset.add_sum_erase _ (fun j => f (g j)) hMember
  rw [hUpdate, Finset.sum_update_of_mem hMember, ← hAll]
  omega

/-- Nothing gets lost between the detector and the rx thread. -/
structure Carried (threadCount : Nat) (acquisitions : List Acquisition) (p : Pipeline) : Prop where
  pending : ∀ m ∈ p.detector, m ∈ detectorStream 0 acquisitions
  known : ∀ i, ∀ m ∈ p.assigned i, m ∈ detectorStream 0 acquisitions
  links : ∀ i, (p.workers i).sinkSocket ++ (p.workers i).sourceSocket =
    Multipart.stream ((p.assigned i).map Prod.snd)
  queue : p.fan.rxSocket.queue = []
  total : p.handled.length + ∑ i ∈ Finset.range threadCount, (p.assigned i).length +
    p.detector.length = (detectorStream 0 acquisitions).length

/-- So many increments have been made for the messages sent on by the workers. -/
def Balanced (threadCount counts : Nat) (p : Pipeline) : Prop :=
  counts + ∑ i ∈ Finset.range threadCount, (p.workers i).owing =
    p.handled.length + ∑ i ∈ Finset.range threadCount, (p.workers i).waiting

section Steps

variable {env : Environment} {threadCount : Nat} {acquisitions : List Acquisition}
  {p p' : Pipeline}

/-- The rx thread takes the first message of a link, and restarts the counter if
that is a header. -/
theorem Carried.receive_cases {i : Nat} (hReads : ∀ a ∈ acquisitions, a.Reads env)
    (h : Carried threadCount acquisitions p)
    (hStep : p.step env threadCount (.receive i) = some p') :
    ∃ label message sink assigned fan, i < threadCount ∧
      p.assigned i = (label, message) :: assigned ∧ message ≠ [] ∧
      (p.workers i).sinkSocket = frame message ++ sink ∧
      sink ++ (p.workers i).sourceSocket = Multipart.stream (assigned.map Prod.snd) ∧
      fan.rxSocket.queue = [] ∧
      fan.messagesReceived = (if label.kind = .header then 1 else p.fan.messagesReceived) ∧
      p' = { p with
        workers := Function.update p.workers i { p.workers i with sinkSocket := sink }
        assigned := Function.update p.assigned i assigned
        fan := fan
        handled := p.handled ++
          [⟨label, message, fan.currentAcquisitionID, fan.currentOffset⟩] } := by
  obtain ⟨label, part1, rest, read, sink, assigned, fan, hGuard, hAssigned, hSink, hRest, hRead,
    hKinds, hReturned, rfl⟩ := Pipeline.receive_cases hReads (h.known i) (h.links i) h.queue hStep
  obtain ⟨u, rfl, _, _, _, _, _, _, _, _, _, rfl⟩ := receive_handled rfl hRead hReturned
  refine ⟨label, part1 :: rest, sink, assigned, _, hGuard, hAssigned, List.cons_ne_nil _ _, hSink,
    hRest, rfl, ?_, rfl⟩
  cases read with
  | header members series detail =>
      rw [if_pos (hKinds.mpr ⟨_, _, _, rfl⟩)]
      rfl
  | _ =>
      have hOther : label.kind ≠ .header := fun hHeader => by
        obtain ⟨_, _, _, hFirst⟩ := hKinds.mp hHeader
        cases hFirst
      rw [if_neg hOther]
      rfl

theorem Carried.initial (config : EigerFanConfig) :
    Carried threadCount acquisitions (.initial config acquisitions) where
  pending := fun _ hm => hm
  known := fun _ _ hm => absurd hm List.not_mem_nil
  links := fun _ => rfl
  queue := rfl
  total := by simp [Pipeline.initial]

theorem Balanced.initial (config : EigerFanConfig) :
    Balanced threadCount 0 (.initial config acquisitions) := by
  simp [Balanced, Pipeline.initial, Worker.owing, Worker.waiting, Worker.initial]

/-- The main thread, the start of the rx thread and the shutdown leave the links and
the counter alone. -/
theorem beside_cases {event : PipelineEvent}
    (hEvent : (∃ main, event = .main main) ∨ event = .startRx ∨ event = .shutdown)
    (hStep : p.step env threadCount event = some p') :
    ∃ fan shutdownRequested, fan.rxSocket = p.fan.rxSocket ∧
      fan.messagesReceived = p.fan.messagesReceived ∧ event.isCount = false ∧
      p' = { p with fan := fan, shutdownRequested := shutdownRequested } := by
  rcases hEvent with ⟨main, rfl⟩ | rfl | rfl
  · obtain ⟨fan, hFan, rfl⟩ := Option.map_eq_some_iff.mp hStep
    rw [operate] at hFan
    split at hFan
    · cases hFan
    · obtain ⟨_, _, _, _, _, _, _, _, _, _, _, _, _, _, rfl⟩ := mainStep_commanded hFan
      refine ⟨_, _, ?_, ?_, rfl, rfl⟩ <;> rfl
  · obtain ⟨fan, hFan, rfl⟩ := Option.map_eq_some_iff.mp hStep
    rw [operate] at hFan
    split at hFan
    · cases hFan
      refine ⟨_, _, ?_, ?_, rfl, rfl⟩ <;> rfl
    · cases hFan
  · rw [Pipeline.step] at hStep
    split at hStep
    · cases hStep
      refine ⟨_, _, ?_, ?_, rfl, rfl⟩ <;> rfl
    · cases hStep

theorem hand_cases {i : Nat} (hStep : p.step env threadCount (.hand i) = some p') :
    ∃ label message detector, i < threadCount ∧ p.detector = (label, message) :: detector ∧
      p' = { p with
        detector := detector
        workers := Function.update p.workers i { p.workers i with
          sourceSocket := (p.workers i).sourceSocket ++ frame message }
        assigned := Function.update p.assigned i (p.assigned i ++ [(label, message)]) } := by
  rw [Pipeline.step] at hStep
  split at hStep
  · cases hStep
  · next label message detector hDetector =>
      split at hStep
      · next hGuard =>
          cases hStep
          exact ⟨label, message, detector, hGuard.1, hDetector, rfl⟩
      · cases hStep

theorem worker_cases {i : Nat} {event : WorkerEvent}
    (hStep : p.step env threadCount (.worker i event) = some p') :
    ∃ worker counted, i < threadCount ∧
      (p.workers i).step p.shutdownRequested event = some (worker, counted) ∧
      p' = { p with
        workers := Function.update p.workers i worker
        fan := { p.fan with messagesReceived := p.fan.messagesReceived + counted } } := by
  rw [Pipeline.step] at hStep
  split at hStep
  · next hGuard =>
      obtain ⟨⟨worker, counted⟩, hWorker, rfl⟩ := Option.map_eq_some_iff.mp hStep
      exact ⟨worker, counted, hGuard, hWorker, rfl⟩
  · cases hStep

theorem Carried.step {event : PipelineEvent} (hReads : ∀ a ∈ acquisitions, a.Reads env)
    (h : Carried threadCount acquisitions p) (hStep : p.step env threadCount event = some p') :
    Carried threadCount acquisitions p' := by
  have hBeside : (∃ main, event = .main main) ∨ event = .startRx ∨ event = .shutdown →
      Carried threadCount acquisitions p' := by
    intro hEvent
    obtain ⟨fan, _, hSocket, _, _, rfl⟩ := beside_cases hEvent hStep
    exact { h with queue := hSocket ▸ h.queue }
  cases event with
  | main event => exact hBeside (.inl ⟨_, rfl⟩)
  | startRx => exact hBeside (.inr (.inl rfl))
  | shutdown => exact hBeside (.inr (.inr rfl))
  | hand i =>
      obtain ⟨label, message, detector, hi, hDetector, rfl⟩ := hand_cases hStep
      have hPending := h.pending
      have hTotal := h.total
      rw [hDetector] at hPending hTotal
      refine ⟨fun m hm => hPending m (List.mem_cons_of_mem _ hm), fun j m hm => ?_, fun j => ?_,
        h.queue, ?_⟩
      · rcases eq_or_ne j i with rfl | hOther
        · simp only [Function.update_self] at hm
          rcases List.mem_append.mp hm with hOld | hNew
          · exact h.known j m hOld
          · rw [List.mem_singleton.mp hNew]
            exact hPending _ List.mem_cons_self
        · simp only [Function.update_of_ne hOther] at hm
          exact h.known j m hm
      · rcases eq_or_ne j i with rfl | hOther
        · simp only [Function.update_self, List.map_append, List.map_cons, List.map_nil,
            stream_concat]
          rw [← List.append_assoc, h.links]
        · simp only [Function.update_of_ne hOther]
          exact h.links j
      · have hSum := sum_update List.length p.assigned hi (p.assigned i ++ [(label, message)])
        rw [List.length_append, List.length_singleton] at hSum
        rw [List.length_cons] at hTotal
        dsimp only
        omega
  | worker i event =>
      obtain ⟨worker, counted, hi, hWorker, rfl⟩ := worker_cases hStep
      refine { h with links := fun j => ?_ }
      rcases eq_or_ne j i with rfl | hOther
      · simp only [Function.update_self]
        rw [Worker.step_parts hWorker]
        exact h.links j
      · simp only [Function.update_of_ne hOther]
        exact h.links j
  | receive i =>
      obtain ⟨label, message, sink, assigned, fan, hi, hAssigned, _, _, hRest, hQueue, _, rfl⟩ :=
        h.receive_cases hReads hStep
      refine ⟨h.pending, fun j m hm => ?_, fun j => ?_, hQueue, ?_⟩
      · rcases eq_or_ne j i with rfl | hOther
        · simp only [Function.update_self] at hm
          exact h.known j m (by rw [hAssigned]; exact List.mem_cons_of_mem _ hm)
        · simp only [Function.update_of_ne hOther] at hm
          exact h.known j m hm
      · rcases eq_or_ne j i with rfl | hOther
        · simp only [Function.update_self]
          exact hRest
        · simp only [Function.update_of_ne hOther]
          exact h.links j
      · have hSum := sum_update List.length p.assigned hi assigned
        have hTotal := h.total
        rw [hAssigned, List.length_cons] at hSum
        dsimp only
        rw [List.length_append, List.length_singleton]
        omega

/-- One worker takes a step, and what it adds to either side is the same. -/
theorem Balanced.update {counts counts' i : Nat} {w : Worker} (h : Balanced threadCount counts p)
    (hi : i < threadCount) (hWorkers : p'.workers = Function.update p.workers i w)
    (hSides : counts' + w.owing + (p.workers i).waiting + p.handled.length =
      counts + (p.workers i).owing + w.waiting + p'.handled.length) :
    Balanced threadCount counts' p' := by
  have hOwing := sum_update Worker.owing p.workers hi w
  have hWaiting := sum_update Worker.waiting p.workers hi w
  rw [Balanced] at h ⊢
  rw [hWorkers]
  omega

/-- The increments made and owed are those for the messages sent on. -/
theorem Balanced.step {counts : Nat} {event : PipelineEvent}
    (hReads : ∀ a ∈ acquisitions, a.Reads env) (hCarried : Carried threadCount acquisitions p)
    (h : Balanced threadCount counts p) (hStep : p.step env threadCount event = some p') :
    Balanced threadCount (counts + if event.isCount then 1 else 0) p' := by
  have hBeside : (∃ main, event = .main main) ∨ event = .startRx ∨ event = .shutdown →
      Balanced threadCount (counts + if event.isCount then 1 else 0) p' := by
    intro hEvent
    obtain ⟨fan, _, _, _, hNoCount, rfl⟩ := beside_cases hEvent hStep
    rw [hNoCount]
    exact h
  cases event with
  | main event => exact hBeside (.inl ⟨_, rfl⟩)
  | startRx => exact hBeside (.inr (.inl rfl))
  | shutdown => exact hBeside (.inr (.inr rfl))
  | hand i =>
      obtain ⟨label, message, detector, hi, _, rfl⟩ := hand_cases hStep
      exact h.update hi rfl rfl
  | worker i event =>
      obtain ⟨worker, counted, hi, hWorker, rfl⟩ := worker_cases hStep
      have hStepped := Worker.step_owing hWorker
      rw [Worker.step_counted (i := i) hWorker] at hStepped
      refine h.update hi rfl ?_
      dsimp only
      omega
  | receive i =>
      obtain ⟨label, message, sink, assigned, fan, hi, _, hNonempty, hSink, _, _, _, rfl⟩ :=
        hCarried.receive_cases hReads hStep
      have hTaken : (p.workers i).waiting = (completed sink).length + 1 := by
        rw [Worker.waiting, hSink, completed_frame_append hNonempty, List.length_cons]
      refine h.update hi rfl ?_
      rw [hTaken, List.length_append, List.length_singleton]
      show counts + 0 + (p.workers i).owing + _ + _ =
        counts + (p.workers i).owing + (completed sink).length + _
      omega

/-- The counter rises with every increment, as long as no header is handled. -/
theorem Carried.step_counts {event : PipelineEvent} (hReads : ∀ a ∈ acquisitions, a.Reads env)
    (h : Carried threadCount acquisitions p) (hStep : p.step env threadCount event = some p') :
    ∃ later, p'.handled = p.handled ++ later ∧
      ((∀ m ∈ later, m.label.kind ≠ .header) → p'.fan.messagesReceived =
        p.fan.messagesReceived + if event.isCount then 1 else 0) := by
  have hBeside : (∃ main, event = .main main) ∨ event = .startRx ∨ event = .shutdown →
      ∃ later, p'.handled = p.handled ++ later ∧
        ((∀ m ∈ later, m.label.kind ≠ .header) → p'.fan.messagesReceived =
          p.fan.messagesReceived + if event.isCount then 1 else 0) := by
    intro hEvent
    obtain ⟨fan, _, _, hReceived, hNoCount, rfl⟩ := beside_cases hEvent hStep
    rw [hNoCount]
    exact ⟨[], (List.append_nil _).symm, fun _ => hReceived⟩
  cases event with
  | main event => exact hBeside (.inl ⟨_, rfl⟩)
  | startRx => exact hBeside (.inr (.inl rfl))
  | shutdown => exact hBeside (.inr (.inr rfl))
  | hand i =>
      obtain ⟨_, _, _, _, _, rfl⟩ := hand_cases hStep
      exact ⟨[], (List.append_nil _).symm, fun _ => rfl⟩
  | worker i event =>
      obtain ⟨worker, counted, _, hWorker, rfl⟩ := worker_cases hStep
      rw [← Worker.step_counted (i := i) hWorker]
      exact ⟨[], (List.append_nil _).symm, fun _ => rfl⟩
  | receive i =>
      obtain ⟨label, message, sink, assigned, fan, _, _, _, _, _, _, hReceived, rfl⟩ :=
        h.receive_cases hReads hStep
      refine ⟨_, rfl, fun hLater => ?_⟩
      rw [if_neg (hLater _ List.mem_cons_self)] at hReceived
      exact hReceived

end Steps

section Runs

variable {env : Environment} {threadCount : Nat} {acquisitions : List Acquisition}
  {p p' : Pipeline} {events : List PipelineEvent}

theorem Carried.run (hReads : ∀ a ∈ acquisitions, a.Reads env)
    (h : Carried threadCount acquisitions p)
    (hRun : Run (Pipeline.step env threadCount) always p events p') :
    Carried threadCount acquisitions p' :=
  hRun.invariant h fun _ _ _ hCarried _ hStep => hCarried.step hReads hStep

theorem Balanced.run {counts : Nat} (hReads : ∀ a ∈ acquisitions, a.Reads env)
    (hCarried : Carried threadCount acquisitions p) (h : Balanced threadCount counts p)
    (hRun : Run (Pipeline.step env threadCount) always p events p') :
    Balanced threadCount (counts + events.countP PipelineEvent.isCount) p' := by
  let stage := fun counts p => Carried threadCount acquisitions p ∧ Balanced threadCount counts p
  have hInit : stage counts p := ⟨hCarried, h⟩
  have hStaged := hRun.staged stage PipelineEvent.isCount _ hInit le_rfl
    (fun k s event t hStage _ hCount _ hStep => by
      have hNext := hStage.2.step hReads hStage.1 hStep
      rw [hCount] at hNext
      exact ⟨hStage.1.step hReads hStep, hNext⟩)
    (fun k s event t hStage hCount _ hStep => by
      have hNext := hStage.2.step hReads hStage.1 hStep
      rw [hCount] at hNext
      exact ⟨hStage.1.step hReads hStep, hNext⟩)
  exact hStaged.2

theorem Carried.run_counts (hReads : ∀ a ∈ acquisitions, a.Reads env)
    (h : Carried threadCount acquisitions p)
    (hRun : Run (Pipeline.step env threadCount) always p events p') :
    ∃ later, p'.handled = p.handled ++ later ∧
      ((∀ m ∈ later, m.label.kind ≠ .header) → p'.fan.messagesReceived =
        p.fan.messagesReceived + events.countP PipelineEvent.isCount) := by
  induction hRun with
  | nil p => exact ⟨[], (List.append_nil _).symm, fun _ => rfl⟩
  | @cons p middle p' event events _ hFirst _ ih =>
      obtain ⟨now, hNow, hCounted⟩ := h.step_counts hReads hFirst
      obtain ⟨later, hLater, hRest⟩ := ih (h.step hReads hFirst)
      refine ⟨now ++ later, by rw [hLater, hNow, List.append_assoc], fun hKinds => ?_⟩
      rw [hRest fun m hm => hKinds m (List.mem_append_right _ hm),
        hCounted fun m hm => hKinds m (List.mem_append_left _ hm), List.countP_cons]
      omega

/-- No message of an acquisition after its header is a header. -/
theorem tail_kinds {a : Acquisition} {number : Nat} {later : List HandledMessage}
    (h : later.map HandledMessage.label = ((a.messages number).map Prod.fst).tail) :
    ∀ m ∈ later, m.label.kind ≠ .header := by
  intro m hm
  have hLabel : m.label ∈ ((a.messages number).map Prod.fst).tail := by
    rw [← h]
    exact List.mem_map_of_mem hm
  simp only [Acquisition.messages, List.cons_append, List.map_cons, List.tail_cons, List.map_append,
    List.map_map, List.mem_append, List.mem_map, List.map_nil, List.mem_singleton] at hLabel
  rcases hLabel with ⟨_, _, hImage⟩ | hEnd
  · rw [← hImage]
    rintro ⟨⟩
  · rw [hEnd]
    rintro ⟨⟩

variable {config : EigerFanConfig} {before after : List PipelineEvent} {i number : Nat}
  {a : Acquisition} {q r : Pipeline}

theorem handled_length (hOrder : r.handled.map HandledMessage.label =
      p.handled.map HandledMessage.label ++ (a.messages number).map Prod.fst) :
    r.handled.length = p.handled.length + (a.images.length + 2) := by
  have hLength := congrArg List.length hOrder
  rw [List.length_map, List.length_append, List.length_map, List.length_map] at hLength
  rw [hLength, Acquisition.messages]
  simp

/-- With nothing left for the rx thread, no message waits for it. -/
theorem Carried.waiting_eq_zero (h : Carried threadCount acquisitions p)
    (hAll : p.handled.length = (detectorStream 0 acquisitions).length) :
    ∑ j ∈ Finset.range threadCount, (p.workers j).waiting = 0 := by
  refine Finset.sum_eq_zero fun j hj => ?_
  have hNone : (p.assigned j).length = 0 := by
    have hTotal := h.total
    have hLe := Finset.single_le_sum (f := fun j => (p.assigned j).length)
      (fun _ _ => Nat.zero_le _) hj
    omega
  have hLinks := h.links j
  rw [List.length_eq_zero_iff.mp hNone] at hLinks
  rw [Worker.waiting, (List.append_eq_nil_iff.mp hLinks).1]
  rfl

/-- The counter once an acquisition is handled and no increment is owed. -/
theorem counter_balance (hReads : ∀ a ∈ acquisitions, a.Reads env)
    (hBefore : exec (Pipeline.step env threadCount) (.initial config acquisitions) before = some p)
    (hHeader : p.step env threadCount (.receive i) = some q)
    (hAfter : exec (Pipeline.step env threadCount) q after = some r)
    (hOrder : r.handled.map HandledMessage.label =
      p.handled.map HandledMessage.label ++ (a.messages number).map Prod.fst)
    (hQuiet : ∀ j < threadCount, (r.workers j).position ≠ .counting) :
    r.fan.messagesReceived + before.countP PipelineEvent.isCount =
      p.handled.length + a.images.length + 3 +
        ∑ j ∈ Finset.range threadCount, (r.workers j).waiting := by
  have hFirst := run_always_iff.mpr hBefore
  have hSecond := run_always_iff.mpr hAfter
  have hInit : Carried threadCount acquisitions (.initial config acquisitions) := .initial config
  have hp := hInit.run hReads hFirst
  have hq := hp.step hReads hHeader
  obtain ⟨later, hLater, hCounted⟩ := hq.run_counts hReads hSecond
  obtain ⟨label, message, _, _, fan, _, _, _, _, _, _, hStarted, rfl⟩ :=
    hp.receive_cases hReads hHeader
  -- the message handled between the two runs is the header of the acquisition
  have hLabels : label :: later.map HandledMessage.label = (a.messages number).map Prod.fst := by
    rw [hLater, List.map_append, List.map_append, List.append_assoc] at hOrder
    exact List.append_cancel_left hOrder
  have hStart : label = ⟨number, .header⟩ := (List.cons.inj hLabels).1
  have hTail : later.map HandledMessage.label = ((a.messages number).map Prod.fst).tail :=
    (List.cons.inj hLabels).2
  rw [hStart, if_pos rfl] at hStarted
  have hSince := hCounted (tail_kinds hTail)
  rw [show fan.messagesReceived = 1 from hStarted] at hSince
  have hHandled := handled_length hOrder
  have hOwed : ∑ j ∈ Finset.range threadCount, (r.workers j).owing = 0 :=
    Finset.sum_eq_zero fun j hj =>
      Worker.owing_of_not_counting (hQuiet j (Finset.mem_range.mp hj))
  have hStep : Run (Pipeline.step env threadCount) always p [.receive i] _ :=
    .cons trivial hHeader (.nil _)
  have hAll : Balanced threadCount _ r :=
    (Balanced.initial config).run hReads hInit ((hFirst.append hStep).append hSecond)
  rw [Balanced, hOwed, hHandled, List.countP_append, List.countP_append] at hAll
  have hReceive : [PipelineEvent.receive i].countP PipelineEvent.isCount = 0 := rfl
  rw [hReceive] at hAll
  omega

/-- An acquisition is counted right if at its header the increments made are those
for what was handled before and for the header, and for what comes after it as far
as that waits for the rx thread already. Alone it is if its header is counted
before the rx thread handles it, and nothing else is. -/
theorem counted_iff_header_only (hReads : ∀ a ∈ acquisitions, a.Reads env)
    (hBefore : exec (Pipeline.step env threadCount) (.initial config acquisitions) before = some p)
    (hHeader : p.step env threadCount (.receive i) = some q)
    (hAfter : exec (Pipeline.step env threadCount) q after = some r)
    (hOrder : r.handled.map HandledMessage.label =
      p.handled.map HandledMessage.label ++ (a.messages number).map Prod.fst)
    (hQuiet : ∀ j < threadCount, (r.workers j).position ≠ .counting) :
    (r.fan.messagesReceived = a.images.length + 2 ↔
      before.countP PipelineEvent.isCount = p.handled.length + 1 +
        ∑ j ∈ Finset.range threadCount, (r.workers j).waiting) ∧
    (acquisitions = [a] → (r.fan.messagesReceived = a.images.length + 2 ↔
      before.countP PipelineEvent.isCount = 1)) := by
  have hBalance := counter_balance hReads hBefore hHeader hAfter hOrder hQuiet
  constructor
  · omega
  · rintro rfl
    have hInit : Carried threadCount [a] (.initial config [a]) := .initial config
    have hp := hInit.run hReads (run_always_iff.mpr hBefore)
    have hr := (hp.step hReads hHeader).run hReads (run_always_iff.mpr hAfter)
    have hHandled := handled_length hOrder
    have hStream : (detectorStream 0 [a]).length = a.images.length + 2 := by
      simp [detectorStream, Acquisition.messages]
    have hTotal := hr.total
    have hWaiting := hr.waiting_eq_zero (by omega)
    omega

end Runs

/-- A single worker sends the header on. -/
def headerSentOn : List PipelineEvent :=
  [.main (.monitor zmqEventAccepted 0), .startRx, .hand 0, .worker 0 .enter, .worker 0 .forward]

/-- The image and the end, each of them counted and then handled. -/
def imageAndEnd : List PipelineEvent :=
  [.hand 0, .worker 0 .enter] ++ List.replicate 4 (.worker 0 .forward) ++
    [.worker 0 .count, .receive 0, .hand 0, .worker 0 .enter, .worker 0 .forward,
      .worker 0 .count, .receive 0]

/-- Labels handled up to a header and in all, where the worker is, and the counter. -/
def observed (before after : List PipelineEvent) :
    Option (List Label × List Label × Position × Nat) :=
  let step := Pipeline.step pipelineEnvironment 1
  (exec step (.initial defaultConfig [sampleAcquisition]) before).bind fun p =>
    (step p (.receive 0)).bind fun q =>
      (exec step q after).map fun r =>
        (p.handled.map HandledMessage.label, r.handled.map HandledMessage.label,
          (r.workers 0).position, r.fan.messagesReceived)

/-- What such an observation says of a run with one worker. -/
theorem run_of_observed {before after : List PipelineEvent} {counter : Nat}
    (h : observed before after = some ([], (sampleAcquisition.messages 0).map Prod.fst, .outer,
      counter)) :
    ∃ p q r, exec (Pipeline.step pipelineEnvironment 1)
        (.initial defaultConfig [sampleAcquisition]) before = some p ∧
      p.step pipelineEnvironment 1 (.receive 0) = some q ∧
      exec (Pipeline.step pipelineEnvironment 1) q after = some r ∧
      r.handled.map HandledMessage.label = p.handled.map HandledMessage.label ++
        (sampleAcquisition.messages 0).map Prod.fst ∧
      (∀ j < 1, (r.workers j).position ≠ .counting) ∧ r.fan.messagesReceived = counter := by
  obtain ⟨p, hBefore, hHeader⟩ := Option.bind_eq_some_iff.mp h
  obtain ⟨q, hReceive, hAfter⟩ := Option.bind_eq_some_iff.mp hHeader
  obtain ⟨r, hRest, hSeen⟩ := Option.map_eq_some_iff.mp hAfter
  obtain ⟨hEarlier, hSeen⟩ := Prod.mk.inj hSeen
  obtain ⟨hAll, hSeen⟩ := Prod.mk.inj hSeen
  obtain ⟨hPosition, hCounter⟩ := Prod.mk.inj hSeen
  refine ⟨p, q, r, hBefore, hReceive, hRest, ?_, fun j hj => ?_, hCounter⟩
  · rw [hEarlier, hAll, List.nil_append]
  · rw [Nat.lt_one_iff.mp hj, hPosition]
    nofun

/-- The header is counted and then handled. -/
theorem header_counted_first : ∃ p q r,
    exec (Pipeline.step pipelineEnvironment 1) (.initial defaultConfig [sampleAcquisition])
      (headerSentOn ++ [PipelineEvent.worker 0 .count]) = some p ∧
    p.step pipelineEnvironment 1 (.receive 0) = some q ∧
    exec (Pipeline.step pipelineEnvironment 1) q imageAndEnd = some r ∧
    r.fan.messagesReceived = 3 ∧ (r.fan.messagesReceived = sampleAcquisition.images.length + 2 ↔
      (headerSentOn ++ [PipelineEvent.worker 0 .count]).countP PipelineEvent.isCount = 1) := by
  have hObserved : observed (headerSentOn ++ [PipelineEvent.worker 0 .count]) imageAndEnd =
      some ([], (sampleAcquisition.messages 0).map Prod.fst, .outer, 3) := by
    decide +kernel
  obtain ⟨p, q, r, hBefore, hHeader, hAfter, hOrder, hQuiet, hCounter⟩ := run_of_observed hObserved
  have hIff := counted_iff_header_only sample_reads hBefore hHeader hAfter hOrder hQuiet
  exact ⟨p, q, r, hBefore, hHeader, hAfter, hCounter, hIff.2 rfl⟩

/-- The header is handled while its worker has not counted it yet. -/
theorem header_counted_late : ∃ p q r,
    exec (Pipeline.step pipelineEnvironment 1) (.initial defaultConfig [sampleAcquisition])
      headerSentOn = some p ∧
    p.step pipelineEnvironment 1 (.receive 0) = some q ∧
    exec (Pipeline.step pipelineEnvironment 1) q (.worker 0 .count :: imageAndEnd) = some r ∧
    sampleAcquisition.Reads pipelineEnvironment ∧
    r.handled.map HandledMessage.label = p.handled.map HandledMessage.label ++
      (sampleAcquisition.messages 0).map Prod.fst ∧
    (∀ j < 1, (r.workers j).position ≠ .counting) ∧
    r.fan.messagesReceived = 4 ∧ r.fan.messagesReceived ≠ sampleAcquisition.images.length + 2 := by
  have hObserved : observed headerSentOn (.worker 0 .count :: imageAndEnd) =
      some ([], (sampleAcquisition.messages 0).map Prod.fst, .outer, 4) := by
    decide +kernel
  obtain ⟨p, q, r, hBefore, hHeader, hAfter, hOrder, hQuiet, hCounter⟩ := run_of_observed hObserved
  refine ⟨p, q, r, hBefore, hHeader, hAfter, sampleAcquisition_reads, hOrder, hQuiet, hCounter, ?_⟩
  rw [hCounter]
  decide

end Eiger.Broker
