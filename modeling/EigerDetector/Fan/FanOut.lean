import EigerDetector.Fan.Handling
import EigerDetector.Library.Transition

/-! What the fan is for: a router of whole multipart messages. The rx thread
implements the router as long as nothing changes inside a message and no write to
the cache throws. -/
namespace Eiger.Fan

open CharArrays Rapidjson FixedWidth Threads Multipart Transition EigerFan

/-- Where one stream message goes, and as which parts. -/
inductive Delivery where
  | nobody
  | everyone (parts : List Bytes)
  | one (rank : Nat) (parts : List Bytes)

/-- What routing depends on. -/
structure Router where
  connected : List Bool
  numConsumers : Int
  blockSize : Int
  configuredOffset : Int
  currentOffset : Int
  configuredAcquisitionID : Bytes
  currentAcquisitionID : Bytes

/-- What may change between two stream messages. -/
inductive Change where
  | connected (rank : Nat) (connected : Int)
  | numConnectedForwardingSockets (connected : Int)
  | forwardStream (value : Bool)
  | devShmCache (value : Bool)
  | blockSize (value : Int)
  | configuredOffset (value : Int)
  | configuredAcquisitionID (value : Bytes)

inductive Event where
  | receive
  | change (change : Change)

namespace Router

/-- The frame number in the numbering of the acquisition, as a 64-bit sum. -/
def frameIndex (r : Router) (frame : Int) : Int := toInt64 (frame + r.currentOffset)

/-- The rank an image belongs to. -/
def rank (r : Router) (frame : Int) : Nat :=
  ((r.frameIndex frame / r.blockSize) % r.numConsumers).toNat

/-- Headers go to everyone if their detail is known and all of its parts are
there, images of four parts and more to one rank, ends to everyone. At most one
appendix is sent along. -/
def route (env : Environment) (r : Router) (part1 : Bytes) (rest : List Bytes) : Delivery :=
  match readFirstPart env part1 with
  | some (.header members _ detail) =>
      let tagged := taggedPart env members r.configuredAcquisitionID
      if detail = headerDetailNone then .everyone (tagged :: rest.take 1)
      else if detail = headerDetailBasic ∧ 1 ≤ rest.length then .everyone (tagged :: rest.take 2)
      else if detail = headerDetailAll ∧ 7 ≤ rest.length then .everyone (tagged :: rest.take 8)
      else .nobody
  | some (.image members frame) =>
      if 3 ≤ rest.length then
        .one (r.rank frame) (taggedPart env members r.currentAcquisitionID :: rest.take 4)
      else .nobody
  | some (.endOfSeries members) => .everyone [taggedPart env members r.currentAcquisitionID]
  | _ => .nobody

/-- A header takes over what was configured; the offset is used up by it. -/
def after (env : Environment) (r : Router) (part1 : Bytes) : Router :=
  match readFirstPart env part1 with
  | some (.header _ _ _) =>
      { r with
        currentOffset := r.configuredOffset
        configuredOffset := 0
        currentAcquisitionID := r.configuredAcquisitionID }
  | _ => r

def change (r : Router) : Change → Router
  | .connected rank connected => { r with connected := r.connected.set rank (0 < connected) }
  | .blockSize value => { r with blockSize := value }
  | .configuredOffset value => { r with configuredOffset := value }
  | .configuredAcquisitionID value => { r with configuredAcquisitionID := value }
  | _ => r

def Connected (r : Router) (rank : Nat) : Prop := r.connected[rank]? = some true

instance (r : Router) (rank : Nat) : Decidable (r.Connected rank) :=
  inferInstanceAs (Decidable (_ = _))

end Router

/-- The messages a rank gets out of a delivery. -/
def Delivery.to (r : Router) (rank : Nat) : Delivery → List (List Bytes)
  | nobody => []
  | everyone parts => if r.Connected rank then [parts] else []
  | one target parts => if rank = target ∧ r.Connected rank then [parts] else []

/-- The router with the messages in front of it and those behind it. -/
structure FanOut where
  router : Router
  messages : List (List Bytes)
  delivered : Nat → List (List Bytes)

namespace FanOut

def step (env : Environment) (a : FanOut) : Event → Option FanOut
  | .change change => some { a with router := a.router.change change }
  | .receive =>
      match a.messages with
      | (part1 :: rest) :: messages => some {
          router := a.router.after env part1
          messages := messages
          delivered := fun rank =>
            a.delivered rank ++ (a.router.route env part1 rest).to a.router rank }
      | _ => none

/-- A first part which is not JSON or has the fields the handlers read, with a
frame number that counts from the offset without going below zero. -/
def Readable (env : Environment) (r : Router) (part1 : Bytes) : Prop :=
  ∃ first, readFirstPart env part1 = some first ∧
    ∀ members frame, first = .image members frame → 0 ≤ r.frameIndex frame

def Admissible (env : Environment) (a : FanOut) : Event → Prop
  | .receive => ∀ part1 rest messages, a.messages = (part1 :: rest) :: messages →
      Readable env a.router part1
  | .change (.blockSize value) => 1 ≤ value
  | .change _ => True

end FanOut

namespace EigerFan

/-- Everything sent to one rank. -/
def output (s : EigerFan) (rank : Nat) : List (Bytes × Bool) :=
  ((s.consumers[rank]?).map EigerConsumer.sendSocket).getD []

def router (s : EigerFan) : Router where
  connected := s.consumers.map fun c => decide (0 < c.connected)
  numConsumers := s.config.numConsumers
  blockSize := s.config.blockSize
  configuredOffset := s.configuredOffset
  currentOffset := s.currentOffset
  configuredAcquisitionID := s.configuredAcquisitionID
  currentAcquisitionID := s.currentAcquisitionID

def change (s : EigerFan) : Change → EigerFan
  | .connected rank connected =>
      { s with consumers := s.consumers.modify rank fun c => { c with connected := connected } }
  | .numConnectedForwardingSockets connected =>
      { s with numConnectedForwardingSockets := connected }
  | .forwardStream value => { s with forwardStream := value }
  | .devShmCache value => { s with devShmCache := value }
  | .blockSize value => { s with config := { s.config with blockSize := value } }
  | .configuredOffset value => { s with configuredOffset := value }
  | .configuredAcquisitionID value => { s with configuredAcquisitionID := value }

/-- The rx thread alone: each message is handled before the next change. -/
def step (env : Environment) (s : EigerFan) : Event → Option EigerFan
  | .change change => some (s.change change)
  | .receive =>
      match receive env s with
      | .returned t _ => some t
      | _ => none

/-- Every write to the cache goes through for a message of these parts. -/
def Caches (env : Environment) (part1 : Bytes) (rest : List Bytes) (s : EigerFan) : Prop :=
  ∀ first, readFirstPart env part1 = some first → s.CacheWrites env (first.writes rest)

/-- The message in front is written to the cache, or nobody is to get it. -/
def Kept (env : Environment) (s : EigerFan) : Event → Prop
  | .receive => ∀ part1 rest tail, s.rxSocket.queue = frame (part1 :: rest) ++ tail →
      s.Caches env part1 rest ∨ ∀ rank, (s.router.route env part1 rest).to s.router rank = []
  | .change _ => True

end EigerFan

section Routing

/-- Being ready depends on the routing data alone. -/
theorem ready_of_router {s t : EigerFan} (hNum : t.router.numConsumers = s.router.numConsumers)
    (hBlock : t.router.blockSize = s.router.blockSize)
    (hConnected : t.router.connected = s.router.connected) (hReady : s.Ready) : t.Ready := by
  have hLength : t.consumers.length = s.consumers.length := by
    simpa [EigerFan.router] using congrArg List.length hConnected
  refine ⟨?_, ?_, ?_, ?_⟩
  · exact (hNum ▸ hReady.consumers_pos : 1 ≤ t.router.numConsumers)
  · exact (hNum ▸ hReady.consumers_int : t.router.numConsumers ≤ maxInt32)
  · rw [hLength, hReady.consumers_length]
    exact congrArg Int.toNat hNum.symm
  · exact (hBlock ▸ hReady.block_pos : 1 ≤ t.router.blockSize)

/-- A message leaves connections, ranks and block size as they are. -/
theorem Router.after_fixed (env : Environment) (r : Router) (part1 : Bytes) :
    (r.after env part1).numConsumers = r.numConsumers ∧
      (r.after env part1).blockSize = r.blockSize ∧
      (r.after env part1).connected = r.connected := by
  unfold Router.after
  split <;> exact ⟨rfl, rfl, rfl⟩

theorem connected_send (parts : List (Bytes × Bool)) :
    (fun c : EigerConsumer => decide (0 < c.connected)) ∘ EigerConsumer.send parts =
      fun c => decide (0 < c.connected) := by
  funext c
  rw [Function.comp_apply, EigerConsumer.send_connected]

theorem sent_router (s : EigerFan) (sends : Sends) : (s.sent sends).router = s.router := by
  cases sends with
  | nothing => rfl
  | broadcast parts =>
      rw [EigerFan.sent, EigerFan.broadcast, forward_eq, EigerFan.router, List.map_map,
        connected_send]
      rfl
  | image parts =>
      have hMap : (s.consumers.modify s.currentConsumerIndexToSendTo.toNat
          (EigerConsumer.send (frame parts))).map (fun c => decide (0 < c.connected)) =
          s.consumers.map fun c => decide (0 < c.connected) := by
        apply List.ext_getElem?
        intro i
        rw [List.getElem?_map, List.getElem?_modify, List.getElem?_map]
        cases s.consumers[i]? with
        | none => split <;> rfl
        | some c => split <;> simp [EigerConsumer.send_connected]
      rw [EigerFan.sent, EigerFan.single, forward_eq, EigerFan.router, hMap]
      rfl

theorem connected_iff (s : EigerFan) (rank : Nat) :
    s.router.Connected rank ↔ ∃ c, s.consumers[rank]? = some c ∧ 0 < c.connected := by
  rw [Router.Connected, EigerFan.router, List.getElem?_map, Option.map_eq_some_iff]
  simp only [decide_eq_true_eq]

theorem output_broadcast (s : EigerFan) (parts : List (Bytes × Bool)) (rank : Nat) :
    (s.broadcast parts).output rank =
      s.output rank ++ if s.router.Connected rank then parts else [] := by
  rw [EigerFan.output, EigerFan.broadcast, List.getElem?_map, EigerFan.output]
  have hConnected := connected_iff s rank
  cases hConsumer : s.consumers[rank]? with
  | none =>
      rw [if_neg (by simp [hConnected, hConsumer])]
      rfl
  | some c =>
      by_cases h : 0 < c.connected
      · rw [if_pos (hConnected.mpr ⟨c, hConsumer, h⟩)]
        simp [EigerConsumer.send, h]
      · rw [if_neg (by simpa [hConnected, hConsumer] using h)]
        simp [EigerConsumer.send, h]

theorem output_single (s : EigerFan) (parts : List (Bytes × Bool)) (rank : Nat) :
    (s.single parts).output rank =
      s.output rank ++
        if rank = s.currentConsumerIndexToSendTo.toNat ∧ s.router.Connected rank then parts
        else [] := by
  by_cases hRank : rank = s.currentConsumerIndexToSendTo.toNat
  · have hAll := output_broadcast s parts rank
    simp only [hRank, true_and] at hAll ⊢
    rw [← hAll]
    simp [EigerFan.output, EigerFan.single, EigerFan.broadcast]
  · have hOther : s.currentConsumerIndexToSendTo.toNat ≠ rank := fun h => hRank h.symm
    simp [EigerFan.output, EigerFan.single, hRank, hOther]

/-- A connection that comes or goes does not change what was sent. -/
theorem output_reconnect (s : EigerFan) (rank i : Nat) (change : Int → Int) :
    (((s.consumers.modify rank fun c => { c with connected := change c.connected })[i]?).map
      EigerConsumer.sendSocket).getD [] = s.output i := by
  rw [List.getElem?_modify, EigerFan.output]
  by_cases hi : rank = i
  · subst hi
    cases s.consumers[rank]? <;> simp
  · simp [hi]

/-- Carrying out a plan changes nothing that routing depends on, and sends what the
plan says. -/
theorem apply_routing {env : Environment} {first : FirstPart} {s₀ : EigerFan} {rest : List Bytes}
    (s : EigerFan) :
    ((first.plan env s₀ rest).apply s).router = s.router ∧
      ∀ rank, ((first.plan env s₀ rest).apply s).output rank =
        (s.sent (first.plan env s₀ rest).sends).output rank := by
  have hFold : ∀ (fs : List (EigerFan → EigerFan)) (t : EigerFan),
      (∀ f ∈ fs, f ∈ (first.plan env s₀ rest).updates) →
      (fs.foldl (fun u f => f u) t).router = t.router ∧
        ∀ rank, (fs.foldl (fun u f => f u) t).output rank = t.output rank := by
    intro fs
    induction fs with
    | nil => exact fun t _ => ⟨rfl, fun _ => rfl⟩
    | cons f fs ih =>
        intro t hfs
        have hRest := ih (f t) fun g hg => hfs g (List.mem_cons_of_mem _ hg)
        rcases plan_updates rest s₀ env first (hfs f List.mem_cons_self) with
          ⟨state, rfl⟩ | ⟨frame, rfl⟩
        · exact hRest
        · exact hRest
  have hSent := hFold (first.plan env s₀ rest).updates (s.sent (first.plan env s₀ rest).sends)
    fun f hf => hf
  exact ⟨hSent.1.trans (sent_router s _), hSent.2⟩

/-- No message is delivered without parts. -/
theorem route_parts_ne_nil {env : Environment} {r : Router} {part1 : Bytes} {rest : List Bytes}
    {rank : Nat} {message : List Bytes} (h : message ∈ (r.route env part1 rest).to r rank) :
    message ≠ [] := by
  rw [Router.route] at h
  have hEveryone : ∀ part parts, message ∈ (Delivery.everyone (part :: parts)).to r rank →
      message ≠ [] := by
    intro part parts hMessage
    rw [Delivery.to] at hMessage
    split at hMessage
    · rw [List.mem_singleton.mp hMessage]
      exact List.cons_ne_nil _ _
    · cases hMessage
  split at h
  · simp only at h
    split at h
    · exact hEveryone _ _ h
    · split at h
      · exact hEveryone _ _ h
      · split at h
        · exact hEveryone _ _ h
        · cases h
  · split at h
    · rw [Delivery.to] at h
      split at h
      · rw [List.mem_singleton.mp h]
        exact List.cons_ne_nil _ _
      · cases h
    · cases h
  · exact hEveryone _ _ h
  · cases h

end Routing

section Receiving

variable {env : Environment} {s : EigerFan} {part1 : Bytes} {rest : List Bytes}

/-- Counting from a nonnegative index, the dispatch finds the rank of the image. -/
theorem dispatch_eq (hReady : s.Ready) {frame : Int} (h : 0 ≤ s.router.frameIndex frame) :
    s.dispatch frame = some (s.router.rank frame : Int) ∧
      s.router.rank frame < s.consumers.length := by
  obtain ⟨hNum, hNumInt, hLength, hBlock⟩ := hReady
  have hQuotient : 0 ≤ s.router.frameIndex frame / s.config.blockSize :=
    Int.ediv_nonneg h (by omega)
  have hLow := Int.emod_nonneg (s.router.frameIndex frame / s.config.blockSize)
    (by omega : s.config.numConsumers ≠ 0)
  have hHigh := Int.emod_lt_of_pos (s.router.frameIndex frame / s.config.blockSize)
    (by omega : 0 < s.config.numConsumers)
  have hRank : (s.router.rank frame : Int) =
      (s.router.frameIndex frame / s.config.blockSize) % s.config.numConsumers :=
    Int.toNat_of_nonneg hLow
  have hDiv : int64Div (s.router.frameIndex frame) s.config.blockSize =
      some (s.router.frameIndex frame / s.config.blockSize) := by
    rw [int64Div, if_neg (by omega), Int.tdiv_eq_ediv_of_nonneg h]
  have hRem : int64Rem (s.router.frameIndex frame / s.config.blockSize) s.config.numConsumers =
      some ((s.router.frameIndex frame / s.config.blockSize) % s.config.numConsumers) := by
    rw [int64Rem, if_neg (by omega), Int.tmod_eq_emod_of_nonneg hQuotient]
  have hDivState : int64Div (toInt64 (frame + s.currentOffset)) s.config.blockSize =
      some (s.router.frameIndex frame / s.config.blockSize) := hDiv
  constructor
  · rw [EigerFan.dispatch, dispatchIndex, hDivState, Option.bind_eq_bind, Option.bind_some, hRem,
      Option.bind_some, ← hRank,
      toInt32_of_range (by unfold minInt32; omega) (by omega)]
    rfl
  · rw [hLength]
    omega

/-- The preparation changes the routing data only by the latching of a header. -/
theorem entered_routing {first : FirstPart} (hFirst : readFirstPart env part1 = some first)
    {s₁ : EigerFan} (hScratch : Scratch (first.entered s) s₁) :
    s₁.router = s.router.after env part1 ∧ s₁.consumers = s.consumers := by
  obtain ⟨_, _, _, rfl⟩ := hScratch
  rw [Router.after, hFirst]
  cases first <;> exact ⟨rfl, rfl⟩

/-- What the plan of a message sends to a rank is what the router delivers. -/
theorem sent_output {first : FirstPart} (hReady : s.Ready)
    (hFirst : readFirstPart env part1 = some first)
    (hFrame : ∀ members frame, first = .image members frame → 0 ≤ s.router.frameIndex frame)
    {s₁ : EigerFan} (hScratch : Scratch (first.entered s) s₁) (rank : Nat) :
    (s₁.sent (first.plan env s rest).sends).output rank =
      s.output rank ++ stream ((s.router.route env part1 rest).to s.router rank) := by
  obtain ⟨hRouter, hConsumers⟩ := entered_routing hFirst hScratch
  have hOutput : s₁.output rank = s.output rank := by
    rw [EigerFan.output, hConsumers, EigerFan.output]
  have hConnected : s₁.router.Connected rank ↔ s.router.Connected rank := by
    rw [connected_iff, connected_iff, hConsumers]
  have hNothing : (s₁.sent .nothing).output rank = s.output rank ++ stream [] := by
    rw [EigerFan.sent, hOutput, stream_nil, List.append_nil]
  have hBroadcast : ∀ parts, (s₁.sent (.broadcast parts)).output rank =
      s.output rank ++ stream ((Delivery.everyone parts).to s.router rank) := by
    intro parts
    rw [EigerFan.sent, output_broadcast, hOutput, Delivery.to]
    by_cases h : s.router.Connected rank
    · rw [if_pos (hConnected.mpr h), if_pos h, stream_cons, stream_nil, List.append_nil]
    · rw [if_neg (fun h' => h (hConnected.mp h')), if_neg h, stream_nil]
  cases first with
  | unreadable => rw [Router.route, hFirst]; exact hNothing
  | unknown => rw [Router.route, hFirst]; exact hNothing
  | endOfSeries members => rw [Router.route, hFirst]; exact hBroadcast _
  | header members series detail =>
      rw [Router.route, hFirst, FirstPart.plan, headerPlan]
      simp only
      by_cases hNone : detail = headerDetailNone
      · rw [if_pos hNone, if_pos hNone]
        exact hBroadcast _
      · rw [if_neg hNone, if_neg hNone]
        by_cases hBasic : detail = headerDetailBasic
        · have hAll : detail ≠ headerDetailAll := fun h =>
            headerDetails_distinct.2.2 (hBasic.symm.trans h)
          by_cases hLength : 1 ≤ rest.length
          · rw [if_pos hBasic, if_pos hLength, if_pos ⟨hBasic, hLength⟩]
            exact hBroadcast _
          · rw [if_pos hBasic, if_neg hLength, if_neg (fun h => hLength h.2),
              if_neg (fun h => hAll h.1)]
            exact hNothing
        · simp only [hBasic, false_and, if_false]
          by_cases hAll : detail = headerDetailAll
          · by_cases hLength : 7 ≤ rest.length
            · rw [if_pos hAll, if_pos hLength, if_pos ⟨hAll, hLength⟩]
              exact hBroadcast _
            · rw [if_pos hAll, if_neg hLength, if_neg (fun h => hLength h.2)]
              exact hNothing
          · rw [if_neg hAll, if_neg (fun h => hAll h.1)]
            exact hNothing
  | image members frame =>
      have hIndex : s₁.currentConsumerIndexToSendTo.toNat = s.router.rank frame := by
        obtain ⟨_, _, _, rfl⟩ := hScratch
        simp only [FirstPart.entered, (dispatch_eq hReady (hFrame members frame rfl)).1,
          Option.getD_some, Int.toNat_natCast]
      rw [Router.route, hFirst, FirstPart.plan, imagePlan]
      simp only
      by_cases hLength : 3 ≤ rest.length
      · rw [if_pos hLength, if_pos hLength]
        show (s₁.single _).output rank = _
        rw [output_single, hOutput, hIndex, Delivery.to]
        by_cases h : rank = s.router.rank frame ∧ s.router.Connected rank
        · rw [if_pos ⟨h.1, hConnected.mpr h.2⟩, if_pos h, stream_cons, stream_nil,
            List.append_nil]
          rfl
        · rw [if_neg (fun h' => h ⟨h'.1, hConnected.mp h'.2⟩), if_neg h, stream_nil]
      · rw [if_neg hLength, if_neg hLength]
        exact hNothing

/-- No send of a readable message throws. -/
theorem plan_deliverable {first : FirstPart} (hReady : s.Ready)
    (hFrame : ∀ members frame, first = .image members frame → 0 ≤ s.router.frameIndex frame) :
    first.Dispatches s ∧ (first.plan env s rest).sends.Deliverable (first.entered s) := by
  cases first with
  | unreadable => exact ⟨trivial, trivial⟩
  | unknown => exact ⟨trivial, trivial⟩
  | endOfSeries members => exact ⟨trivial, hReady⟩
  | header members series detail =>
      refine ⟨trivial, ?_⟩
      have hLatched : ((FirstPart.header members series detail).entered s).Ready :=
        hReady.congr rfl rfl
      rw [FirstPart.plan, headerPlan]
      split
      · exact hLatched
      · split
        · split
          · exact hLatched
          · trivial
        · split
          · split
            · exact hLatched
            · trivial
          · trivial
  | image members frame =>
      obtain ⟨hDispatch, hRank⟩ := dispatch_eq hReady (hFrame members frame rfl)
      refine ⟨by rw [FirstPart.Dispatches, hDispatch]; rfl, ?_⟩
      rw [FirstPart.plan, imagePlan]
      split
      · simp only [Plan.andThen, imageSent, Sends.Deliverable, FirstPart.entered, hDispatch,
          Option.getD_some]
        exact ⟨Int.natCast_nonneg _, by simpa using hRank⟩
      · trivial

end Receiving

/-- The fan and the router agree about everything but what was sent. -/
structure Agrees (a : FanOut) (s : EigerFan) : Prop where
  ready : s.Ready
  router : s.router = a.router
  queue : s.rxSocket.queue = stream a.messages

/-- Each rank was sent what it had at the start followed by the messages delivered
to it. -/
def SentAll (before : Nat → List (Bytes × Bool)) (a : FanOut) (s : EigerFan) : Prop :=
  ∀ rank, s.output rank = before rank ++ stream (a.delivered rank)

/-- No rank was sent more parts than that. -/
def SentAtMost (before : Nat → List (Bytes × Bool)) (a : FanOut) (s : EigerFan) : Prop :=
  ∀ rank, (s.output rank).length ≤ (before rank ++ stream (a.delivered rank)).length

structure Refines (before : Nat → List (Bytes × Bool)) (a : FanOut) (s : EigerFan) : Prop
    extends Agrees a s where
  output : SentAll before a s

section Refinement

variable {env : Environment} {before : Nat → List (Bytes × Bool)} {a : FanOut} {s : EigerFan}
  {part1 : Bytes} {rest : List Bytes} {messages : List (List Bytes)}

theorem change_agrees (change : Change) (hAdmissible : a.Admissible env (.change change))
    (h : Agrees a s) : Agrees { a with router := a.router.change change } (s.change change) := by
  obtain ⟨hReady, hRouter, hQueue⟩ := h
  cases change with
  | connected rank connected =>
      refine ⟨hReady.congr rfl (List.length_modify ..), ?_, hQueue⟩
      rw [← hRouter, EigerFan.router, EigerFan.change, EigerFan.router, Router.change]
      congr 1
      apply List.ext_getElem?
      intro i
      rw [List.getElem?_map, List.getElem?_modify, List.getElem?_set, List.length_map,
        List.getElem?_map]
      by_cases hi : rank = i
      · subst hi
        by_cases hLength : rank < s.consumers.length
        · simp [hLength]
        · simp [hLength]
      · simp [hi]
  | blockSize value =>
      refine ⟨?_, by rw [← hRouter]; rfl, hQueue⟩
      exact ⟨hReady.consumers_pos, hReady.consumers_int, hReady.consumers_length, hAdmissible⟩
  | devShmCache value => exact ⟨hReady.congr rfl rfl, hRouter, hQueue⟩
  | numConnectedForwardingSockets connected => exact ⟨hReady.congr rfl rfl, hRouter, hQueue⟩
  | forwardStream value => exact ⟨hReady.congr rfl rfl, hRouter, hQueue⟩
  | configuredOffset value => exact ⟨hReady.congr rfl rfl, by rw [← hRouter]; rfl, hQueue⟩
  | configuredAcquisitionID value =>
      exact ⟨hReady.congr rfl rfl, by rw [← hRouter]; rfl, hQueue⟩

/-- A change sends nothing. -/
theorem change_output (change : Change) (rank : Nat) :
    (s.change change).output rank = s.output rank := by
  cases change with
  | connected changed connected => exact output_reconnect s changed rank fun _ => connected
  | _ => rfl

theorem change_refines (change : Change) (hAdmissible : a.Admissible env (.change change))
    (h : Refines before a s) :
    Refines before { a with router := a.router.change change } (s.change change) :=
  ⟨change_agrees change hAdmissible h.toAgrees,
    fun rank => (change_output change rank).trans (h.output rank)⟩

/-- One stream message: all of its parts are consumed, and each rank gets what the router
delivers to it, or nothing if a cache write throws. -/
theorem receive_agrees (hMessages : a.messages = (part1 :: rest) :: messages)
    (hReadable : FanOut.Readable env a.router part1) (h : Agrees a s) :
    ∃ t, receive env s = .returned t () ∧
      (∀ delivered, Agrees ⟨a.router.after env part1, messages, delivered⟩ t) ∧
      ((s.Caches env part1 rest ∧ ∀ rank, t.output rank =
          s.output rank ++ stream ((a.router.route env part1 rest).to a.router rank)) ∨
        (¬ s.Caches env part1 rest ∧ ∀ rank, t.output rank = s.output rank)) := by
  obtain ⟨hReady, hRouter, hQueue⟩ := h
  obtain ⟨first, hFirst, hFrame⟩ := hReadable
  rw [← hRouter] at hFrame ⊢
  have hParts : s.rxSocket.queue = frame (part1 :: rest) ++ stream messages := by
    rw [hQueue, hMessages, stream_cons]
  have hCaches : s.Caches env part1 rest ↔ s.CacheWrites env (first.writes rest) := by
    constructor
    · exact fun hAll => hAll first hFirst
    · intro hWrites same hSame
      cases hFirst.symm.trans hSame
      exact hWrites
  have hAgrees : ∀ t, t.router = s.router.after env part1 → ∀ delivered,
      Agrees ⟨s.router.after env part1, messages, delivered⟩
        (EigerFan.reading [] (stream messages) 0 t) := by
    intro t hAfter delivered
    obtain ⟨hNum, hBlock, hConnected⟩ := Router.after_fixed env s.router part1
    refine ⟨Ready.congr (s := t) ?_ rfl rfl, hAfter, rfl⟩
    exact ready_of_router ((congrArg Router.numConsumers hAfter).trans hNum)
      ((congrArg Router.blockSize hAfter).trans hBlock)
      ((congrArg Router.connected hAfter).trans hConnected) hReady
  obtain ⟨hDispatch, hDeliver⟩ := plan_deliverable hReady hFrame
  obtain ⟨s₁, hScratch, ⟨hWrites, hReceive⟩ | ⟨hThrows, hReceive⟩⟩ :=
    receive_returns env hParts hFirst hDispatch hDeliver
  · obtain ⟨hAfter, _⟩ := entered_routing hFirst hScratch
    obtain ⟨hApplyRouter, hApplyOutput⟩ := apply_routing s₁
    refine ⟨_, hReceive, hAgrees _ (hApplyRouter.trans hAfter),
      .inl ⟨hCaches.mpr hWrites, fun rank => ?_⟩⟩
    rw [← sent_output hReady hFirst hFrame hScratch rank]
    exact hApplyOutput rank
  · obtain ⟨hAfter, hConsumers⟩ := entered_routing hFirst hScratch
    refine ⟨_, hReceive, hAgrees _ hAfter, .inr ⟨fun h => hThrows (hCaches.mp h), fun rank => ?_⟩⟩
    exact congrArg (fun cs => ((cs[rank]?).map EigerConsumer.sendSocket).getD []) hConsumers

theorem receive_refines (hMessages : a.messages = (part1 :: rest) :: messages)
    (hReadable : FanOut.Readable env a.router part1) (hCaches : s.Caches env part1 rest)
    (h : Refines before a s) :
    ∃ t, receive env s = .returned t () ∧
      Refines before
        { router := a.router.after env part1
          messages := messages
          delivered := fun rank =>
            a.delivered rank ++ (a.router.route env part1 rest).to a.router rank } t := by
  obtain ⟨t, hReceive, hAgrees, ⟨_, hOutput⟩ | ⟨hThrows, _⟩⟩ :=
    receive_agrees hMessages hReadable h.toAgrees
  · refine ⟨t, hReceive, hAgrees _, fun rank => ?_⟩
    rw [hOutput rank, h.output rank, stream_append, List.append_assoc]
  · exact absurd hCaches hThrows

/-- Nothing is written while the cache is off. -/
theorem EigerFan.caches_of_off (hOff : s.devShmCache = false) : s.Caches env part1 rest := by
  intro first _ hOn
  rw [hOff] at hOn
  cases hOn

/-- For the message in front, being kept is a matter of its own parts. -/
theorem kept_receive_iff {tail : List (Bytes × Bool)}
    (hQueue : s.rxSocket.queue = frame (part1 :: rest) ++ tail) :
    s.Kept env .receive ↔ s.Caches env part1 rest ∨
      ∀ rank, (s.router.route env part1 rest).to s.router rank = [] := by
  constructor
  · exact fun hKept => hKept part1 rest tail hQueue
  · intro h other others tail' hQueue'
    obtain ⟨hSame, _⟩ := frame_append_inj (List.cons_ne_nil _ _) (List.cons_ne_nil _ _)
      (hQueue.symm.trans hQueue')
    cases hSame
    exact h

/-- What was all sent, although no more was sent than before, was nothing. -/
theorem nothing_due (hAtMost : SentAtMost before a s)
    (hAll : ∀ rank, s.output rank = before rank ++ stream (a.delivered rank) ++
      stream ((a.router.route env part1 rest).to a.router rank)) (rank : Nat) :
    (a.router.route env part1 rest).to a.router rank = [] := by
  have hBefore := hAtMost rank
  rw [hAll rank, List.length_append] at hBefore
  have hEmpty : stream ((a.router.route env part1 rest).to a.router rank) = [] :=
    List.eq_nil_of_length_eq_zero (by omega)
  refine List.eq_nil_iff_forall_not_mem.mpr fun message hMessage => ?_
  have hParts := List.flatMap_eq_nil_iff.mp hEmpty message hMessage
  have hLength := congrArg List.length hParts
  rw [frame_length] at hLength
  exact route_parts_ne_nil hMessage (List.eq_nil_of_length_eq_zero hLength)

/-- One event of either kind: each rank was sent everything after it exactly if it was
before and the message is kept. -/
theorem step_agrees {event : Event} {b : FanOut} (hAdmissible : a.Admissible env event)
    (hStep : a.step env event = some b) (h : Agrees a s) (hAtMost : SentAtMost before a s) :
    ∃ t, s.step env event = some t ∧ Agrees b t ∧ SentAtMost before b t ∧
      (SentAll before b t ↔ SentAll before a s ∧ s.Kept env event) := by
  cases event with
  | change change =>
      cases hStep
      have hOutput := change_output (s := s) change
      refine ⟨s.change change, rfl, change_agrees change hAdmissible h, ?_, ?_⟩
      · exact fun rank => (congrArg List.length (hOutput rank)).trans_le (hAtMost rank)
      · constructor
        · exact fun hAll => ⟨fun rank => (hOutput rank).symm.trans (hAll rank), trivial⟩
        · exact fun ⟨hAll, _⟩ rank => (hOutput rank).trans (hAll rank)
  | receive =>
      rw [FanOut.step] at hStep
      split at hStep
      · next part1 rest messages hMessages =>
          cases hStep
          have hQueue : s.rxSocket.queue = frame (part1 :: rest) ++ stream messages := by
            rw [h.queue, hMessages, stream_cons]
          have hKept : s.Kept env .receive ↔ s.Caches env part1 rest ∨
              ∀ rank, (s.router.route env part1 rest).to s.router rank = [] :=
            kept_receive_iff hQueue
          rw [h.router] at hKept
          obtain ⟨t, hReceive, hAgrees, hSent⟩ :=
            receive_agrees hMessages (hAdmissible part1 rest messages hMessages) h
          refine ⟨t, by rw [EigerFan.step, hReceive], hAgrees _, ?_, ?_⟩
          · intro rank
            have hBefore := hAtMost rank
            rcases hSent with ⟨_, hOutput⟩ | ⟨_, hOutput⟩
            · simp only [hOutput rank, stream_append, List.length_append] at hBefore ⊢
              omega
            · simp only [hOutput rank, stream_append, List.length_append] at hBefore ⊢
              omega
          · rw [hKept]
            rcases hSent with ⟨hCaches, hOutput⟩ | ⟨hThrows, hOutput⟩
            · simp only [SentAll, hOutput, stream_append, ← List.append_assoc,
                List.append_left_inj, hCaches, true_or, and_true]
            · -- Nothing was sent, so what is to be delivered must be nothing.
              simp only [SentAll, hOutput, stream_append, ← List.append_assoc, hThrows, false_or]
              constructor
              · intro hAll
                have hNothing := nothing_due hAtMost hAll
                refine ⟨fun rank => ?_, hNothing⟩
                rw [hAll rank, hNothing rank, stream_nil, List.append_nil]
              · intro hBoth rank
                rw [hBoth.1 rank, hBoth.2 rank, stream_nil, List.append_nil]
      · cases hStep

/-- Every sequence of events. -/
theorem run_agrees {events : List Event} {b : FanOut}
    (hRun : Run (FanOut.step env) (FanOut.Admissible env) a events b) (h : Agrees a s)
    (hAtMost : SentAtMost before a s) :
    ∃ t, exec (EigerFan.step env) s events = some t ∧ Agrees b t ∧
      (SentAll before b t ↔
        SentAll before a s ∧ Run (EigerFan.step env) (EigerFan.Kept env) s events t) := by
  induction hRun generalizing s with
  | nil => exact ⟨s, rfl, h, fun hAll => ⟨hAll, .nil s⟩, fun hBoth => hBoth.1⟩
  | @cons a middle b event events guard first rest ih =>
      obtain ⟨s', hStep, hAgrees, hAtMost', hOne⟩ := step_agrees guard first h hAtMost
      obtain ⟨t, hExec, hFinal, hRest⟩ := ih hAgrees hAtMost'
      refine ⟨t, by rw [exec, hStep, Option.bind_some, hExec], hFinal, ?_⟩
      rw [hRest, hOne, and_assoc]
      refine and_congr_right fun _ => ?_
      constructor
      · exact fun hBoth => .cons hBoth.1 hStep hBoth.2
      · intro hKept
        cases hKept with
        | cons guard' hStep' rest' =>
            cases hStep.symm.trans hStep'
            exact ⟨guard', rest'⟩

end Refinement

/-- Sequential fan-out: over every sequence of messages, with changes between them, the fan
takes whole messages off its socket. Each rank is sent exactly the messages the router
delivers to it, in order and framed one by one, if and only if each message that anybody is
to get goes through the cache. -/
theorem fan_out_refines_router_iff {env : Environment} {s : EigerFan}
    {messages : List (List Bytes)} {events : List Event} {b : FanOut} (hReady : s.Ready)
    (hQueue : s.rxSocket.queue = stream messages)
    (hRun : Run (FanOut.step env) (FanOut.Admissible env) ⟨s.router, messages, fun _ => []⟩
      events b) :
    ∃ t, exec (EigerFan.step env) s events = some t ∧ t.rxSocket.queue = stream b.messages ∧
      ((∀ rank, t.output rank = s.output rank ++ stream (b.delivered rank)) ↔
        Run (EigerFan.step env) (EigerFan.Kept env) s events t) := by
  have hStart : Agrees ⟨s.router, messages, fun _ => []⟩ s := ⟨hReady, rfl, hQueue⟩
  have hSent : SentAll s.output ⟨s.router, messages, fun _ => []⟩ s := fun rank =>
    (List.append_nil _).symm
  obtain ⟨t, hExec, hFinal, hAll⟩ :=
    run_agrees hRun hStart fun rank => (congrArg List.length (hSent rank)).le
  exact ⟨t, hExec, hFinal.queue, hAll.trans (and_iff_right hSent)⟩

def sampleHeader : Value :=
  .object [(headerTypeKey, .string globalHeaderType), (seriesKey, .int 7),
    (headerDetailKey, .string headerDetailNone)]

def sampleImage : Value :=
  .object [(headerTypeKey, .string imageHeaderType), (frameKey, .int 0)]

def sampleEnvironment : Environment :=
  .ofTexts [(objectText sampleHeader, sampleHeader), (objectText sampleImage, sampleImage)]

def sampleMessages : List (List Bytes) :=
  [[objectText sampleHeader], [objectText sampleImage, [1], [2], [3]]]

/-- Two connected consumers, with a header and an image on the way. -/
def sampleFan : EigerFan :=
  { initial { defaultConfig with numConsumers := 2 } with
    consumers := [⟨1, []⟩, ⟨1, []⟩]
    configuredAcquisitionID := bytes "acq"
    rxSocket := ⟨stream sampleMessages, false⟩ }

def sampleHeaderSent : List Bytes :=
  [bytes "\x7b\"htype\":\"dheader-1.0\",\"series\":7,\"header_detail\":\"none\",\"acqID\":\"acq\"\x7d"]

def sampleImageSent : List Bytes :=
  [bytes "\x7b\"htype\":\"dimage-1.0\",\"frame\":0,\"acqID\":\"acq\"\x7d", [1], [2], [3]]

/-- An offset of one sends the first image to the second of two consumers, with every
part written to the cache before. -/
theorem fan_out_two_consumers :
    ∃ t, exec (EigerFan.step sampleEnvironment) sampleFan
        [.change (.devShmCache true), .change (.configuredOffset 1), .receive, .receive] =
          some t ∧
      t.rxSocket.queue = [] ∧ t.output 0 = stream [sampleHeaderSent] ∧
      t.output 1 = stream [sampleHeaderSent, sampleImageSent] := by
  have hReady : sampleFan.Ready := ⟨by decide, by decide, by decide, by decide⟩
  have hRun : ∃ b, Run (FanOut.step sampleEnvironment) (FanOut.Admissible sampleEnvironment)
      ⟨sampleFan.router, sampleMessages, fun _ => []⟩
      [.change (.devShmCache true), .change (.configuredOffset 1), .receive, .receive] b ∧
      b.messages = [] ∧ b.delivered 0 = [sampleHeaderSent] ∧
      b.delivered 1 = [sampleHeaderSent, sampleImageSent] := by
    refine ⟨_, .cons trivial rfl (.cons trivial rfl (.cons ?_ rfl (.cons ?_ rfl (.nil _)))),
      rfl, ?_, ?_⟩
    · rintro part1 rest messages h
      cases h
      exact ⟨.header _ 7 headerDetailNone, rfl, fun _ _ h => by cases h⟩
    · rintro part1 rest messages h
      cases h
      refine ⟨.image _ 0, rfl, fun _ _ h => ?_⟩
      cases h
      decide
    · decide
    · decide
  have hKept : ∀ (u : EigerFan) (event : Event), u.Kept sampleEnvironment event := by
    intro u event
    cases event with
    | change change => trivial
    | receive => exact fun _ _ _ _ => .inl fun _ _ _ _ _ => rfl
  obtain ⟨b, hRun, hMessages, hZero, hOne⟩ := hRun
  obtain ⟨t, hExec, hQueue, hOutput⟩ := fan_out_refines_router_iff hReady rfl hRun
  have hAll := hOutput.mpr ((run_always_iff.mpr hExec).mono fun u event _ => hKept u event)
  refine ⟨t, hExec, ?_, ?_, ?_⟩
  · rw [hQueue, hMessages, stream_nil]
  · rw [hAll, hZero]
    rfl
  · rw [hAll, hOne]
    rfl

/-- No directory can be created. -/
def fullEnvironment : Environment :=
  { sampleEnvironment with fileSystem := fun _ => ⟨false, false, none, false⟩ }

/-- With the cache on and no room for its directory, the header that goes to both consumers
is lost on the way. -/
theorem header_lost_to_cache :
    sampleFan.Ready ∧ sampleFan.rxSocket.queue = stream sampleMessages ∧
      ∃ b t, Run (FanOut.step fullEnvironment) (FanOut.Admissible fullEnvironment)
          ⟨sampleFan.router, sampleMessages, fun _ => []⟩
          [.change (.devShmCache true), .receive] b ∧
        exec (EigerFan.step fullEnvironment) sampleFan [.change (.devShmCache true), .receive] =
          some t ∧
        sampleFan.output 0 = [] ∧ b.delivered 0 = [sampleHeaderSent] ∧ t.output 0 = [] := by
  refine ⟨⟨by decide, by decide, by decide, by decide⟩, rfl, _, _,
    .cons trivial rfl (.cons ?_ rfl (.nil _)), rfl, rfl, ?_, ?_⟩
  · rintro part1 rest messages h
    cases h
    exact ⟨.header _ 7 headerDetailNone, rfl, fun _ _ h => by cases h⟩
  · decide
  · decide +kernel

end Eiger.Fan
