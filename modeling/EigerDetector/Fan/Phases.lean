import EigerDetector.Fan.Threads
import EigerDetector.Library.Tracking

/-! What the main thread does in its handlers, by how far a shutdown has come. -/
namespace Eiger.Fan

open CharArrays Rapidjson Threads Rx Multipart EigerFan
open Main (shared attempt)

/-- What the handlers of the main thread do beside a shutdown. -/
inductive MainAction.Plain (env : Environment) : MainAction → Prop where
  | recv (channel : Channel) : Plain env (.recv channel)
  | getsockopt (channel : Channel) : Plain env (.getsockopt channel)
  | members : Plain env (.shared .members)
  | monitor (code rank : Nat) :
      Plain env (.shared (.assign (keepingMore (handleMonitorMessage code rank))))
  | forwardMonitor (code : Nat) :
      Plain env (.shared (.assign (keepingMore (handleForwardMonitorMessage code))))
  | finishConfigure (message idMessage : Bytes) (params : Value) :
      Plain env (.attempt (finishConfigure env message idMessage params))
  | finishControl {message : Bytes} (idMessage : Bytes)
      (h : (env.parse (cString message)).bind configureParams = none) :
      Plain env (.attempt (finishControl env message idMessage))

/-- What plain actions leave alone. -/
structure EigerFan.Attended (s t : EigerFan) : Prop where
  killRequested : t.killRequested = s.killRequested
  state : t.state = s.state
  log : ∀ socket, t.log socket = s.log socket
  rxSocket : t.rxSocket = s.rxSocket
  more : t.more = s.more

section Plain

variable {env : Environment}

theorem EigerFan.Attended.refl (s : EigerFan) : s.Attended s := ⟨rfl, rfl, fun _ => rfl, rfl, rfl⟩

theorem sendReply_attended {idMessage : Bytes} {doc reply : Value} {s t : EigerFan}
    (h : sendReply env idMessage doc reply s = some t) : s.Attended t := by
  obtain ⟨_, _, h⟩ := Option.bind_eq_some_iff.mp h
  obtain ⟨_, _, h⟩ := Option.bind_eq_some_iff.mp h
  obtain ⟨_, _, h⟩ := Option.bind_eq_some_iff.mp h
  cases h
  exact ⟨rfl, rfl, fun socket => SameSockets.log ⟨rfl, rfl⟩ socket, rfl, rfl⟩

theorem finishConfigure_attended {message idMessage : Bytes} {params : Value} {s t : EigerFan}
    (h : finishConfigure env message idMessage params s = some t) : s.Attended t := by
  obtain ⟨doc, _, h⟩ := Option.bind_eq_some_iff.mp h
  obtain ⟨⟨u, reply⟩, hSettings, hReply⟩ := Option.bind_eq_some_iff.mp h
  have hSent := sendReply_attended hReply
  have hConfigured : Configured s u := configureSettings_configured hSettings
  obtain ⟨_, _, _, _, _, _, _, rfl⟩ := hConfigured
  exact ⟨hSent.killRequested, hSent.state,
    fun socket => (hSent.log socket).trans (SameSockets.log ⟨rfl, rfl⟩ socket), hSent.rxSocket,
    hSent.more⟩

theorem finishControl_attended {message idMessage : Bytes} {s t : EigerFan}
    (hParams : (env.parse (cString message)).bind configureParams = none)
    (h : finishControl env message idMessage s = some t) : s.Attended t := by
  obtain ⟨⟨doc, u, reply⟩, hInterpret, hReply⟩ := Option.bind_eq_some_iff.mp h
  have hSame : u = s := by
    unfold interpretControl at hInterpret
    split at hInterpret
    · cases hInterpret
      rfl
    · next parsed hParse =>
        obtain ⟨next, hCommand, hNext⟩ := Option.map_eq_some_iff.mp hInterpret
        cases hNext
        rw [hParse, Option.bind_some] at hParams
        rcases controlCommand_cases hCommand with ⟨hSame, _⟩ | ⟨params, hSome, _⟩
        · exact hSame
        · rw [hParams] at hSome
          cases hSome
  subst hSame
  exact sendReply_attended hReply

/-- The counting leaves the logs alone. -/
theorem monitor_attended (event : MainEvent) {s t : EigerFan}
    (h : mainStep env s event = some t)
    (hMonitor : ∀ message idMessage, event ≠ .control message idMessage) :
    s.Attended { t with more := s.more } := by
  have hSame : t.killRequested = s.killRequested ∧ t.state = s.state := by
    cases event with
    | monitor code rank =>
        cases h
        unfold handleMonitorMessage
        simp only
        split
        · exact ⟨rfl, rfl⟩
        · split <;> exact ⟨rfl, rfl⟩
    | forwardMonitor code =>
        cases h
        unfold handleForwardMonitorMessage
        split
        · exact ⟨rfl, rfl⟩
        · split <;> exact ⟨rfl, rfl⟩
    | control message idMessage => exact absurd rfl (hMonitor message idMessage)
  refine ⟨hSame.1, hSame.2, fun socket => ?_, (mainStep_reception h).1, rfl⟩
  have hLog : t.log socket = s.log socket := (mainStep_log h socket).resolve_right
    fun ⟨_, _, message, idMessage, hEvent, _⟩ => hMonitor message idMessage hEvent
  exact (SameSockets.log ⟨rfl, rfl⟩ socket).trans hLog

/-- A plain action keeps the fan as it is for the rx thread, but for the flag it may fetch. -/
theorem MainAction.Plain.attended {action : MainAction} {p p' : Process} {reply : action.Reply}
    (h : action.Plain env) (hFetches : ∀ channel, action ≠ .getsockopt channel)
    (hAnswer : answerMain env action p = some (p', reply)) : p.fan.Attended p'.fan := by
  cases h with
  | recv channel =>
      rw [answerMain] at hAnswer
      split at hAnswer
      · cases hAnswer
      · cases hAnswer
        exact .refl _
  | getsockopt channel => exact absurd rfl (hFetches channel)
  | members =>
      cases hAnswer
      exact .refl _
  | monitor code rank =>
      cases hAnswer
      have hStep : mainStep env p.fan (.monitor code rank) = some _ := rfl
      exact monitor_attended _ hStep fun _ _ hEvent => by cases hEvent
  | forwardMonitor code =>
      cases hAnswer
      have hStep : mainStep env p.fan (.forwardMonitor code) = some _ := rfl
      exact monitor_attended _ hStep fun _ _ hEvent => by cases hEvent
  | finishConfigure message idMessage params =>
      rw [answerMain] at hAnswer
      split at hAnswer
      · cases hAnswer
        exact .refl _
      · next fan hUse =>
          cases hAnswer
          exact finishConfigure_attended hUse
  | finishControl idMessage hParams =>
      rw [answerMain] at hAnswer
      split at hAnswer
      · cases hAnswer
        exact .refl _
      · next fan hUse =>
          cases hAnswer
          exact finishControl_attended hParams hUse

theorem Main.moreParts_plain (channel : Channel) :
    (Main.moreParts channel).Uses (MainAction.Plain env) anything :=
  .seq (.perform (.getsockopt channel)) fun _ => .seq (.perform .members) fun _ => trivial

theorem Main.drainSurplusParts_plain (channel : Channel) (fuel : Nat) :
    (Main.drainSurplusParts channel fuel).Uses (MainAction.Plain env) anything := by
  induction fuel with
  | zero => trivial
  | succ fuel ih =>
      refine .seq (Main.moreParts_plain channel) fun more => ?_
      cases more with
      | false => trivial
      | true => exact .seq (.perform (.recv channel)) fun _ => ih

theorem attempt_plain {use : EigerFan → Option EigerFan}
    (h : MainAction.Plain env (.attempt use)) :
    (attempt use).Uses (MainAction.Plain env) anything := by
  refine .seq (.perform h) fun returned => ?_
  cases returned <;> trivial

theorem handleMonitored_plain {channel : Channel} {count : Nat → EigerFan → EigerFan} (fuel : Nat)
    (hCount : ∀ code, MainAction.Plain env (.shared (.assign (count code)))) :
    (handleMonitored channel count fuel).Uses (MainAction.Plain env) anything := by
  refine .seq (.perform (.recv channel)) fun message => ?_
  refine .seq (Main.moreParts_plain channel) fun more => ?_
  cases more with
  | false => exact .seq (.perform (hCount _)) fun _ => Main.drainSurplusParts_plain _ _
  | true =>
      exact .seq (.perform (.recv channel)) fun _ => .seq (.perform (hCount _)) fun _ =>
        Main.drainSurplusParts_plain _ _

/-- The handlers of the monitors are plain. -/
theorem handler_plain {channel : Channel} (fuel : Nat) (hMonitor : channel ≠ .control) :
    (handler env fuel channel).Uses (MainAction.Plain env) anything := by
  cases channel with
  | control => exact absurd rfl hMonitor
  | monitor rank => exact handleMonitored_plain fuel fun code => .monitor code rank
  | forwardMonitor => exact handleMonitored_plain fuel fun code => .forwardMonitor code

end Plain

/-- How far the main thread is with a shutdown. While a fabricated end goes out, `offered` are
the ranks it has been offered to. -/
inductive Phase where
  | serving
  | ending (parts : List (Bytes × Bool)) (offered : List Int)
  | ended
  | killing
  | stopped

/-- The actions of the main thread, with how far they bring the shutdown. -/
inductive Moves (env : Environment) : Phase → MainAction → Phase → Prop where
  | serve {action : MainAction} (h : action.Plain env) : Moves env .serving action .serving
  | begin (series : Int) (acquisitionID : Bytes) :
      Moves env .serving
        (.shared (.forward [(env.write (fabricatedEnd series acquisitionID), false)]))
        (.ending [(env.write (fabricatedEnd series acquisitionID), false)] [])
  | offer {parts : List (Bytes × Bool)} {offered : List Int} {rank : Int}
      (h : rank ∉ offered) :
      Moves env (.ending parts offered) (.shared (.sendTo rank parts))
        (.ending parts (rank :: offered))
  | mark (parts : List (Bytes × Bool)) (offered : List Int) :
      Moves env (.ending parts offered) (.shared (.assign (markState .dstrEnd))) .ended
  | kill : Moves env .serving (.shared (.assign fun s => { s with killRequested := true })) .killing
  | killEnded :
      Moves env .ended (.shared (.assign fun s => { s with killRequested := true })) .killing
  | stop : Moves env .killing (.shared (.assign (markState .killRequested))) .stopped
  | after {action : MainAction} (h : action.Plain env) : Moves env .stopped action .stopped

/-- Between two messages a shutdown is over or has not begun. -/
def Phase.Settled (phase : Phase) : Prop := phase = .serving ∨ phase = .stopped

section Main

variable {env : Environment}

theorem shared_phased {A : Type} {p : Rx A} {phase : Phase} {post : Phase → A → Prop}
    (h : p.Phased (fun g action g' => Moves env g (.shared action) g') post phase) :
    (Main.shared p).Phased (Moves env) post phase := by
  induction p generalizing phase with
  | done a => exact h
  | fail e => trivial
  | act action next ih =>
      obtain ⟨g', hMoves, hNext⟩ := h
      exact ⟨g', hMoves, fun reply => ih reply (hNext reply)⟩

/-- Each rank is offered the end once. -/
theorem sendToRanks_phased {parts : List (Bytes × Bool)} {ranks offered : List Int}
    (hNodup : ranks.Nodup) (hApart : ∀ rank ∈ ranks, rank ∉ offered) :
    (sendToRanks parts ranks).Phased (fun g action g' => Moves env g (.shared action) g')
      (fun g _ => ∃ offered, g = .ending parts offered) (.ending parts offered) := by
  induction ranks generalizing offered with
  | nil => exact ⟨offered, rfl⟩
  | cons rank ranks ih =>
      obtain ⟨hFirst, hRest⟩ := List.nodup_cons.mp hNodup
      refine ⟨_, .offer (hApart rank List.mem_cons_self), fun returned => ?_⟩
      cases returned with
      | false => trivial
      | true =>
          refine ih hRest fun other hOther hMem => ?_
          rcases List.mem_cons.mp hMem with rfl | hOld
          · exact hFirst hOther
          · exact hApart other (List.mem_cons_of_mem _ hOther) hOld

theorem sendFabricatedEnd_phased :
    (sendFabricatedEnd env).Phased (fun g action g' => Moves env g (.shared action) g')
      (fun g _ => g = .ended) .serving := by
  refine ⟨_, .serve .members, fun s => ⟨_, .serve .members, fun t => ?_⟩⟩
  refine ⟨_, .begin s.currentSeries s.currentAcquisitionID, fun _ => ?_⟩
  refine (sendToRanks_phased (sendOrder_nodup _) fun _ _ => List.not_mem_nil).bind
    fun g _ hEnding => ?_
  obtain ⟨offered, rfl⟩ := hEnding
  exact ⟨_, .mark _ offered, fun _ => rfl⟩

theorem stopping_phased {phase : Phase} (h : phase = .serving ∨ phase = .ended) :
    stopping.Phased (fun g action g' => Moves env g (.shared action) g')
      (fun g _ => g.Settled) phase := by
  have hStop : (assign (markState .killRequested)).Phased
      (fun g action g' => Moves env g (.shared action) g') (fun g _ => g.Settled) .killing :=
    ⟨_, .stop, fun _ => .inr rfl⟩
  rcases h with rfl | rfl
  · exact ⟨_, .kill, fun _ => hStop⟩
  · exact ⟨_, .killEnded, fun _ => hStop⟩

theorem shutdown_phased (params : Value) :
    (shutdown env params).Phased (fun g action g' => Moves env g (.shared action) g')
      (fun g _ => g.Settled) .serving := by
  rw [shutdown]
  cases params.hasMember controlKill with
  | none => trivial
  | some kill =>
      cases kill with
      | true => exact stopping_phased (.inl rfl)
      | false =>
          cases params.hasMember controlClose with
          | none => trivial
          | some close =>
              cases close with
              | false => exact .inl rfl
              | true =>
                  refine ⟨_, .serve .members, fun s => ?_⟩
                  show (if s.state = .dstrHeader ∨ s.state = .dstrImage then
                    sendFabricatedEnd env >>= fun _ => stopping else stopping).Phased _ _ _
                  split
                  · exact sendFabricatedEnd_phased.bind fun g _ hEnded =>
                      stopping_phased (.inr hEnded)
                  · exact stopping_phased (.inl rfl)

/-- Plain actions do not move a settled phase. -/
theorem plain_phased {A : Type} {p : Main A} {phase : Phase}
    (h : p.Uses (MainAction.Plain env) anything) (hSettled : phase.Settled) :
    p.Phased (Moves env) (fun g _ => g.Settled) phase := by
  rcases hSettled with rfl | rfl
  · exact h.phased (fun _ => .serve) fun _ => .inl rfl
  · exact h.phased (fun _ => .after) fun _ => .inr rfl

theorem handleControl_phased (fuel : Nat) :
    (handleControl env fuel).Phased (Moves env) (fun g _ => g.Settled) .serving := by
  unfold handleControl
  have hRecv : (Main.recv .control).Phased (Moves env) (fun g _ => g = .serving) .serving :=
    Program.phased_perform (.serve (.recv .control)) fun _ => rfl
  refine hRecv.bind fun g idMessage hServing => ?_
  subst hServing
  refine hRecv.bind fun g message hServing => ?_
  subst hServing
  split
  · next params hParams =>
      refine (shared_phased (shutdown_phased params)).bind fun g _ hSettled => ?_
      have hFinish : (attempt (finishConfigure env message idMessage params)).Uses _ anything :=
        attempt_plain (.finishConfigure message idMessage params)
      exact plain_phased (hFinish.seq fun _ => Main.drainSurplusParts_plain _ _) hSettled
  · next hParams =>
      have hFinish : (attempt (finishControl env message idMessage)).Uses _ anything :=
        attempt_plain (.finishControl idMessage hParams)
      exact plain_phased (hFinish.seq fun _ => Main.drainSurplusParts_plain _ _) (.inl rfl)

/-- What the main thread can do when it serves a socket. -/
theorem handler_phased {phase : Phase} {channel : Channel} (fuel : Nat) (hSettled : phase.Settled)
    (hControl : channel = .control → phase = .serving) :
    (handler env fuel channel).Phased (Moves env) (fun g _ => g.Settled) phase := by
  by_cases hMonitor : channel = .control
  · obtain rfl := hControl hMonitor
    subst hMonitor
    exact handleControl_phased fuel
  · exact plain_phased (handler_plain fuel hMonitor) hSettled

end Main

end Eiger.Fan
