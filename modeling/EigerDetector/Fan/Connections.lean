import EigerDetector.Fan.Sockets

/-! The connections that the monitors count. A socket is bound before its monitor is attached,
so that a monitor may tell of the disconnection of a peer it never told of. -/
namespace Eiger.Fan

open CharArrays Transition EigerFan

/-- The peers of a socket: those accepted before the monitor was attached which are still
connected, how many of these have left, and the connected ones that were accepted since. -/
structure Peers where
  early : Nat
  departed : Nat
  later : Nat

inductive PeerEvent where
  | accept
  | leaveEarly
  | leaveLater

/-- The event code the monitor sends for it. -/
def PeerEvent.code : PeerEvent → Nat
  | accept => zmqEventAccepted
  | leaveEarly => zmqEventDisconnected
  | leaveLater => zmqEventDisconnected

namespace Peers

def step (p : Peers) : PeerEvent → Option Peers
  | .accept => some { p with later := p.later + 1 }
  | .leaveEarly =>
      if 0 < p.early then some { p with early := p.early - 1, departed := p.departed + 1 } else none
  | .leaveLater => if 0 < p.later then some { p with later := p.later - 1 } else none

/-- No early peer has left, or more later ones are connected than early ones have left, or
equally many while another early one is still there. -/
def Covered (p : Peers) : Prop :=
  p.departed = 0 ∨ p.departed < p.later ∨ (p.departed = p.later ∧ 0 < p.early)

instance (p : Peers) : Decidable p.Covered := inferInstanceAs (Decidable (_ ∨ _))

/-- Peers are covered exactly if their difference is a count that is not negative and is
positive whenever all that are connected are later ones. -/
theorem covered_iff (p : Peers) :
    p.Covered ↔ 0 ≤ (p.later : Int) - p.departed ∧
      (p.early = 0 → 0 < p.later → 0 < (p.later : Int) - p.departed) := by
  unfold Covered
  omega

end Peers

/-- What `HandleMonitorMessage` makes of a count. -/
def counted (code : Nat) (count : Int) : Int :=
  if code = zmqEventAccepted then count + 1
  else if code = zmqEventDisconnected then if count - 1 < 0 then 0 else count - 1
  else count

/-- What `HandleForwardMonitorMessage` makes of a count. -/
def forwardCounted (code : Nat) (count : Int) : Int :=
  if code = zmqEventAccepted then count + 1
  else if code = zmqEventDisconnected then count - 1
  else count

/-- The event the main thread handles when the monitor of the socket sends the code. -/
def Socket.monitored (code : Nat) : Socket → MainEvent
  | .forward => .forwardMonitor code
  | .consumer rank => .monitor code rank

/-- The event is not from a monitor. -/
def FanEvent.Unmonitored : FanEvent → Prop
  | .main (.monitor _ _) => False
  | .main (.forwardMonitor _) => False
  | _ => True

instance : DecidablePred FanEvent.Unmonitored
  | .main (.monitor _ _) => .isFalse id
  | .main (.forwardMonitor _) => .isFalse id
  | .main (.control _ _) => .isTrue trivial
  | .startRx => .isTrue trivial
  | .arrive _ => .isTrue trivial
  | .receive => .isTrue trivial

/-- The fan, the peers of its sockets, and the codes each monitor has sent, latest first. -/
structure Connections where
  fan : EigerFan
  peers : Socket → Peers
  told : Socket → List Nat

inductive ConnectionEvent where
  | peer (socket : Socket) (event : PeerEvent)
  | other (event : FanEvent)

namespace Connections

/-- No monitor has told anything yet, whatever peers are already connected. -/
def initial (config : EigerFanConfig) (early : Socket → Nat) : Connections :=
  ⟨Fan.initial config, fun socket => ⟨early socket, 0, 0⟩, fun _ => []⟩

/-- A peer comes or goes and the main thread handles the event, or anything else happens. -/
def step (env : Environment) (w : Connections) : ConnectionEvent → Option Connections
  | .peer socket event => do
      let peers ← (w.peers socket).step event
      let fan ← operate env w.fan (.main (socket.monitored event.code))
      pure ⟨fan, Function.update w.peers socket peers,
        Function.update w.told socket (event.code :: w.told socket)⟩
  | .other event =>
      if event.Unmonitored then (operate env w.fan event).map fun fan => { w with fan := fan }
      else none

/-- The counts are not negative, are the same for sockets of which the same was told, and
let forwarded parts through if all the connected peers were told of. -/
structure Meaningful (w : Connections) : Prop where
  consumers : ∀ c ∈ w.fan.consumers, 0 ≤ c.connected
  forwarding : 0 ≤ w.fan.numConnectedForwardingSockets
  same : ∀ rank c, w.fan.consumers[rank]? = some c → w.told (.consumer rank) = w.told .forward →
    c.connected = w.fan.numConnectedForwardingSockets
  gate : (w.peers .forward).early = 0 → 0 < (w.peers .forward).later →
    0 < w.fan.numConnectedForwardingSockets

/-- A disconnection leaves the peers of the forwarding socket covered. -/
def LeavesCovered (w : Connections) : ConnectionEvent → Prop
  | .peer .forward event => ∀ peers ∈ (w.peers .forward).step event, peers.Covered
  | _ => True

instance (w : Connections) (event : ConnectionEvent) : Decidable (w.LeavesCovered event) :=
  match event with
  | .peer .forward event => inferInstanceAs (Decidable (∀ peers ∈ (w.peers .forward).step event, _))
  | .peer (.consumer _) _ => .isTrue trivial
  | .other _ => .isTrue trivial

end Connections

section Counts

variable {env : Environment} {s t : EigerFan}

/-- The fans have counted the same connections. -/
structure EigerFan.SameCounts (s t : EigerFan) : Prop where
  connected : t.consumers.map EigerConsumer.connected = s.consumers.map EigerConsumer.connected
  forwarding : t.numConnectedForwardingSockets = s.numConnectedForwardingSockets

theorem RxFrame.sameCounts (h : RxFrame s t) : s.SameCounts t :=
  ⟨h.connected, h.numConnectedForwardingSockets⟩

theorem handleControlMessage_sameCounts {message idMessage : Bytes}
    (h : handleControlMessage env message idMessage s = some t) : s.SameCounts t := by
  obtain ⟨u, replies, rfl, ⟨rfl, _⟩ | ⟨params, reply, _, hConfigure⟩⟩ := handleControlMessage_cases h
  · exact ⟨rfl, rfl⟩
  · obtain ⟨closed, hClosed, _, _, _, _, _, _, _, rfl⟩ := configure_cases hConfigure
    rcases configureShutdown_cases hClosed with ⟨rfl, _⟩ | ⟨rfl, _⟩ | ⟨ended, _, _, hEnded, rfl⟩
    · exact ⟨rfl, rfl⟩
    · exact ⟨rfl, rfl⟩
    · have hFrame := (closeStream_frame hEnded).sameCounts
      exact ⟨hFrame.connected, hFrame.forwarding⟩

/-- Only the events of the monitors change what was counted. -/
theorem operate_sameCounts {event : FanEvent} (hEvent : event.Unmonitored)
    (h : operate env s event = some t) : s.SameCounts t := by
  cases event with
  | main event =>
      rw [operate] at h
      split at h
      · cases h
      · cases event with
        | control message idMessage => exact handleControlMessage_sameCounts h
        | monitor code rank => exact hEvent.elim
        | forwardMonitor code => exact hEvent.elim
  | startRx =>
      rw [operate] at h
      split at h
      · cases h
        exact ⟨rfl, rfl⟩
      · cases h
  | arrive message =>
      rw [operate] at h
      split at h
      · cases h
      · cases h
        exact ⟨rfl, rfl⟩
  | receive =>
      rw [operate] at h
      split at h
      · cases h
      · have hFrame := (receive_frame env s).sameCounts
        split at h
        · next u result hReceive =>
            cases h
            rw [hReceive] at hFrame
            exact hFrame
        · cases h

theorem handleMonitorMessage_counts (code rank : Nat) (s : EigerFan) :
    (handleMonitorMessage code rank s).consumers =
        s.consumers.modify rank (fun c => { c with connected := counted code c.connected }) ∧
      (handleMonitorMessage code rank s).numConnectedForwardingSockets =
        s.numConnectedForwardingSockets := by
  unfold handleMonitorMessage counted
  simp only
  split
  · exact ⟨rfl, rfl⟩
  · split
    · exact ⟨rfl, rfl⟩
    · exact ⟨(List.modify_id rank s.consumers).symm, rfl⟩

theorem handleForwardMonitorMessage_counts (code : Nat) (s : EigerFan) :
    (handleForwardMonitorMessage code s).consumers = s.consumers ∧
      (handleForwardMonitorMessage code s).numConnectedForwardingSockets =
        forwardCounted code s.numConnectedForwardingSockets := by
  unfold handleForwardMonitorMessage forwardCounted
  split
  · exact ⟨rfl, rfl⟩
  · split <;> exact ⟨rfl, rfl⟩

end Counts

/-- The count of `HandleMonitorMessage` after it was told the codes. -/
def countOf (codes : List Nat) : Int := codes.foldr counted 0

theorem counted_nonneg (code : Nat) {count : Int} (h : 0 ≤ count) : 0 ≤ counted code count := by
  unfold counted
  split
  · omega
  · split
    · split <;> omega
    · exact h

theorem countOf_nonneg (codes : List Nat) : 0 ≤ countOf codes := by
  induction codes with
  | nil => exact le_refl 0
  | cons code codes ih => exact counted_nonneg code ih

/-- The two counts differ only where a peer leaves of whom neither was told. -/
theorem forwardCounted_eq_counted {code : Nat} {count : Int}
    (h : 0 ≤ forwardCounted code count) : forwardCounted code count = counted code count := by
  unfold forwardCounted counted at *
  split
  · rfl
  · next hNotAccepted =>
      rw [if_neg hNotAccepted] at h
      split
      · next hDisconnected =>
          rw [if_pos hDisconnected] at h
          rw [if_neg (by omega)]
      · rfl

/-- What comes and goes at a socket is what its monitor counts without the clamp. -/
theorem forwardCounted_of_step {p q : Peers} {event : PeerEvent} (h : p.step event = some q) :
    forwardCounted event.code ((p.later : Int) - p.departed) = (q.later : Int) - q.departed := by
  cases event with
  | accept =>
      cases h
      show (p.later : Int) - p.departed + 1 = ((p.later + 1 : Nat) : Int) - p.departed
      omega
  | leaveEarly =>
      rw [Peers.step] at h
      split at h
      · cases h
        show (p.later : Int) - p.departed - 1 = (p.later : Int) - ((p.departed + 1 : Nat) : Int)
        omega
      · cases h
  | leaveLater =>
      rw [Peers.step] at h
      split at h
      · next hLater =>
          cases h
          show (p.later : Int) - p.departed - 1 = ((p.later - 1 : Nat) : Int) - p.departed
          omega
      · cases h

namespace Connections

/-- The counts are those of what was told, and the forwarding one is the difference of
the peers. -/
structure Tallied (w : Connections) : Prop where
  consumers : ∀ rank c, w.fan.consumers[rank]? = some c →
    c.connected = countOf (w.told (.consumer rank))
  forwarding : w.fan.numConnectedForwardingSockets =
    ((w.peers .forward).later : Int) - (w.peers .forward).departed
  told : w.fan.numConnectedForwardingSockets = countOf (w.told .forward)
  covered : (w.peers .forward).Covered

variable {env : Environment} {w w' : Connections} {event : ConnectionEvent}

theorem tallied_initial (config : EigerFanConfig) (early : Socket → Nat) :
    Tallied (initial config early) := by
  refine ⟨fun rank c hConsumer => ?_, rfl, rfl, .inl rfl⟩
  have hReplicate : (List.replicate config.numConsumers.toNat (EigerConsumer.mk 0 []))[rank]? =
      some c := hConsumer
  rw [List.getElem?_replicate] at hReplicate
  split at hReplicate
  · cases hReplicate
    rfl
  · cases hReplicate

theorem Tallied.meaningful (h : Tallied w) : w.Meaningful := by
  obtain ⟨hNonneg, hGate⟩ := (Peers.covered_iff _).mp h.covered
  rw [← h.forwarding] at hNonneg hGate
  refine ⟨fun c hc => ?_, hNonneg, fun rank c hConsumer hSame => ?_, hGate⟩
  · obtain ⟨rank, hConsumer⟩ := List.mem_iff_getElem?.mp hc
    rw [h.consumers rank c hConsumer]
    exact countOf_nonneg _
  · rw [h.consumers rank c hConsumer, hSame, h.told]

/-- A step that is not from the forwarding monitor keeps the tally. -/
theorem Tallied.step_other {event : FanEvent} (h : Tallied w)
    (hStep : w.step env (.other event) = some w') : Tallied w' := by
  rw [step] at hStep
  split at hStep
  · next hEvent =>
      obtain ⟨fan, hFan, rfl⟩ := Option.map_eq_some_iff.mp hStep
      obtain ⟨hConnected, hForwarding⟩ := operate_sameCounts hEvent hFan
      refine ⟨fun rank c hConsumer => ?_, hForwarding.trans h.forwarding,
        hForwarding.trans h.told, h.covered⟩
      have hSame : (fan.consumers[rank]?).map EigerConsumer.connected =
          (w.fan.consumers[rank]?).map EigerConsumer.connected := by
        rw [← List.getElem?_map, hConnected, List.getElem?_map]
      rw [hConsumer] at hSame
      obtain ⟨d, hOld, hCount⟩ := Option.map_eq_some_iff.mp hSame.symm
      rw [← hCount]
      exact h.consumers rank d hOld
  · cases hStep

/-- What a step of a peer does. -/
theorem step_peer {socket : Socket} {event : PeerEvent}
    (hStep : w.step env (.peer socket event) = some w') :
    ∃ peers fan, (w.peers socket).step event = some peers ∧
      mainStep env w.fan (socket.monitored event.code) = some fan ∧
      w' = ⟨fan, Function.update w.peers socket peers,
        Function.update w.told socket (event.code :: w.told socket)⟩ := by
  obtain ⟨peers, hPeers, hStep⟩ := Option.bind_eq_some_iff.mp hStep
  obtain ⟨fan, hFan, hStep⟩ := Option.bind_eq_some_iff.mp hStep
  cases hStep
  rw [operate] at hFan
  split at hFan
  · cases hFan
  · exact ⟨peers, fan, hPeers, hFan, rfl⟩

theorem Tallied.step_consumer {rank : Nat} {event : PeerEvent} (h : Tallied w)
    (hStep : w.step env (.peer (.consumer rank) event) = some w') : Tallied w' := by
  obtain ⟨peers, fan, hPeers, hFan, rfl⟩ := step_peer hStep
  cases hFan
  obtain ⟨hConsumers, hForwarding⟩ := handleMonitorMessage_counts event.code rank w.fan
  have hOther : Socket.forward ≠ .consumer rank := nofun
  refine ⟨fun other c hConsumer => ?_, ?_, ?_, ?_⟩
  · rw [hConsumers, List.getElem?_modify] at hConsumer
    obtain ⟨d, hOld, rfl⟩ := Option.map_eq_some_iff.mp hConsumer
    have hCount := h.consumers other d hOld
    by_cases hSame : rank = other
    · subst hSame
      rw [if_pos rfl]
      simp only [Function.update_self]
      show counted event.code d.connected = counted event.code _
      rw [hCount]
      rfl
    · have hNe : Socket.consumer other ≠ .consumer rank := by
        rintro ⟨⟩
        exact hSame rfl
      simp only [Function.update_of_ne hNe]
      rw [if_neg hSame, hCount]
  · simp only [Function.update_of_ne hOther]
    exact hForwarding.trans h.forwarding
  · simp only [Function.update_of_ne hOther]
    exact hForwarding.trans h.told
  · simp only [Function.update_of_ne hOther]
    exact h.covered

/-- An event of the forwarding monitor, whether it leaves the peers covered or not. -/
theorem Tallied.step_forward {event : PeerEvent} (h : Tallied w)
    (hStep : w.step env (.peer .forward event) = some w') :
    (w.peers .forward).step event = some (w'.peers .forward) ∧
      w'.fan.numConnectedForwardingSockets =
        ((w'.peers .forward).later : Int) - (w'.peers .forward).departed ∧
      ((w'.peers .forward).Covered → Tallied w') := by
  obtain ⟨peers, fan, hPeers, hFan, rfl⟩ := step_peer hStep
  cases hFan
  obtain ⟨hConsumers, hForwarding⟩ := handleForwardMonitorMessage_counts event.code w.fan
  have hPeersNow : Function.update w.peers .forward peers .forward = peers := Function.update_self ..
  have hCount : (handleForwardMonitorMessage event.code w.fan).numConnectedForwardingSockets =
      (peers.later : Int) - peers.departed := by
    rw [hForwarding, h.forwarding]
    exact forwardCounted_of_step hPeers
  simp only [hPeersNow]
  refine ⟨hPeers, hCount, fun hCovered => ⟨fun rank c hConsumer => ?_, ?_, ?_, ?_⟩⟩
  · have hNe : Socket.consumer rank ≠ .forward := nofun
    simp only [Function.update_of_ne hNe]
    rw [hConsumers] at hConsumer
    exact h.consumers rank c hConsumer
  · simp only [hPeersNow]
    exact hCount
  · have hNonneg : 0 ≤ forwardCounted event.code w.fan.numConnectedForwardingSockets := by
      rw [← hForwarding, hCount]
      exact ((Peers.covered_iff peers).mp hCovered).1
    simp only [Function.update_self]
    rw [hForwarding, forwardCounted_eq_counted hNonneg, h.told]
    rfl
  · simp only [hPeersNow]
    exact hCovered

theorem Tallied.step (h : Tallied w) (hCovered : w.LeavesCovered event)
    (hStep : w.step env event = some w') : Tallied w' := by
  cases event with
  | other event => exact h.step_other hStep
  | peer socket event =>
      cases socket with
      | consumer rank => exact h.step_consumer hStep
      | forward =>
          obtain ⟨hPeers, _, hTallied⟩ := h.step_forward hStep
          exact hTallied (hCovered _ hPeers)

theorem Tallied.step_uncovered (h : Tallied w) (hUncovered : ¬ w.LeavesCovered event)
    (hStep : w.step env event = some w') : ¬ w'.Meaningful := by
  cases event with
  | other event => exact absurd trivial hUncovered
  | peer socket event =>
      cases socket with
      | consumer rank => exact absurd trivial hUncovered
      | forward =>
          obtain ⟨hPeers, hCount, _⟩ := h.step_forward hStep
          intro hMeaningful
          refine hUncovered fun peers hStepped => ?_
          cases hPeers.symm.trans hStepped
          rw [Peers.covered_iff, ← hCount]
          exact ⟨hMeaningful.forwarding, hMeaningful.gate⟩

/-- The counts keep their meaning all along exactly if every disconnection leaves the peers of
the forwarding socket covered. -/
theorem meaningful_iff_covered {config : EigerFanConfig} {early : Socket → Nat}
    {events : List ConnectionEvent}
    (hExec : exec (Connections.step env) (initial config early) events = some w) :
    Along (Connections.step env) Meaningful (initial config early) events ↔
      Run (Connections.step env) LeavesCovered (initial config early) events w :=
  along_iff_run Tallied (tallied_initial config early) (fun _ => Tallied.meaningful)
    (fun _ _ _ => Tallied.step) (fun _ _ _ => Tallied.step_uncovered) hExec

/-- One peer on the forwarding socket before its monitor, none on the others. -/
def oneForwarded : Socket → Nat
  | .forward => 1
  | .consumer _ => 0

/-- Two more peers come before the early one leaves. -/
theorem early_peer_leaves_covered :
    ∃ w, exec (step sampleEnvironment) (initial defaultConfig oneForwarded)
        [.peer .forward .accept, .peer .forward .accept, .peer .forward .leaveEarly] = some w ∧
      w.fan.numConnectedForwardingSockets = 1 ∧
      Along (step sampleEnvironment) Meaningful (initial defaultConfig oneForwarded)
        [.peer .forward .accept, .peer .forward .accept, .peer .forward .leaveEarly] := by
  have hExec : (exec (guarded (step sampleEnvironment) LeavesCovered)
      (initial defaultConfig oneForwarded)
      [.peer .forward .accept, .peer .forward .accept, .peer .forward .leaveEarly]).map
      (fun w => w.fan.numConnectedForwardingSockets) = some 1 := by decide +kernel
  obtain ⟨w, hGuarded, hCount⟩ := Option.map_eq_some_iff.mp hExec
  have hRun := run_iff_exec_guarded.mpr hGuarded
  have hTaken := hRun.executes
  exact ⟨w, hTaken, hCount, (meaningful_iff_covered hTaken).mpr hRun⟩

/-- The early peer leaves and the count is -1; a peer that comes then is connected while the
count is 0. -/
theorem early_peer_closes_gate :
    ∃ v w, Run (step sampleEnvironment) always (initial defaultConfig oneForwarded)
        [.peer .forward .leaveEarly] v ∧
      v.fan.numConnectedForwardingSockets = -1 ∧
      Run (step sampleEnvironment) always v [.peer .forward .accept] w ∧
      ((w.peers .forward).early, (w.peers .forward).later) = (0, 1) ∧
      w.fan.numConnectedForwardingSockets = 0 ∧ ¬ v.Meaningful ∧ ¬ w.Meaningful := by
  have hExec : ((exec (step sampleEnvironment) (initial defaultConfig oneForwarded)
      [.peer .forward .leaveEarly]).bind fun v =>
        (exec (step sampleEnvironment) v [.peer .forward .accept]).map fun w =>
          (v.fan.numConnectedForwardingSockets, (w.peers .forward).early,
            (w.peers .forward).later, w.fan.numConnectedForwardingSockets)) =
      some (-1, 0, 1, 0) := by decide +kernel
  obtain ⟨v, hFirst, hRest⟩ := Option.bind_eq_some_iff.mp hExec
  obtain ⟨w, hSecond, hSeen⟩ := Option.map_eq_some_iff.mp hRest
  obtain ⟨hNegative, hSeen⟩ := Prod.mk.inj hSeen
  obtain ⟨hEarly, hSeen⟩ := Prod.mk.inj hSeen
  obtain ⟨hLater, hZero⟩ := Prod.mk.inj hSeen
  refine ⟨v, w, run_always_iff.mpr hFirst, hNegative, run_always_iff.mpr hSecond,
    by rw [hEarly, hLater], hZero, fun hMeaningful => ?_, fun hMeaningful => ?_⟩
  · have hNonneg := hMeaningful.forwarding
    omega
  · have hOpen := hMeaningful.gate hEarly (by omega)
    omega

end Connections

end Eiger.Fan
