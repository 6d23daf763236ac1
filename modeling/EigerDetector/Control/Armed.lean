import EigerDetector.Control.Acquisition

/-! Whether `_armed` says what the detector was last told. -/
namespace Eiger.Acquisition

open Transition

/-- The arms since the last disarm are counted, so there is one if the count is not empty. -/
theorem open_iff {commands : List Command} : Open commands ↔ sinceArm commands ≠ [] := by
  refine ⟨Open.sinceArm_ne_nil, ?_⟩
  induction commands using List.reverseRecOn with
  | nil => simp [sinceArm]
  | append_singleton commands c ih =>
      intro hCounts
      have hLater : c.isDisarm = false → Open commands → Open (commands ++ [c]) := by
        rintro hOther ⟨before, between, rfl, hBetween⟩
        refine ⟨before, between ++ [c], by simp, fun c' hMember => ?_⟩
        rcases List.mem_append.mp hMember with hOld | hLast
        · exact hBetween c' hOld
        · rw [List.mem_singleton.mp hLast]
          exact hOther
      cases c with
      | nimages value =>
          rw [sinceArm_nimages] at hCounts
          exact hLater rfl (ih hCounts)
      | arm => exact ⟨commands, [], rfl, by simp⟩
      | trigger value =>
          rw [sinceArm_trigger] at hCounts
          exact hLater rfl (ih fun hNil => hCounts (by simp [hNil]))
      | disarm caller => simp at hCounts

instance (commands : List Command) : Decidable (Open commands) :=
  decidable_of_iff _ open_iff.symm

@[simp] theorem open_nimages (commands : List Command) (value : Nat) :
    Open (commands ++ [.nimages value]) ↔ Open commands := by
  simp [open_iff]

@[simp] theorem open_arm (commands : List Command) : Open (commands ++ [.arm]) := by
  simp [open_iff]

@[simp] theorem open_trigger (commands : List Command) (value : Option UInt64) :
    Open (commands ++ [.trigger value]) ↔ Open commands := by
  simp [open_iff]

@[simp] theorem not_open_disarm (commands : List Command) (caller : Caller) :
    ¬ Open (commands ++ [.disarm caller]) := by
  simp [open_iff]

namespace EigerDetector

/-- A step, with the settings it finds. They may be others at each step. -/
def change (d : EigerDetector) (label : Settings × Event) : Option EigerDetector :=
  d.step label.1 label.2

/-- No call is in progress, and the thread waits for its event, which is clear. -/
def Settled (d : EigerDetector) : Prop :=
  d.call = .idle ∧ d.point = .wait ∧ d.acquisitionEvent = false

instance (d : EigerDetector) : Decidable d.Settled := inferInstanceAs (Decidable (_ ∧ _ ∧ _))

/-- The promise: the flag says whether the last of the arms and disarms was an arm. -/
def Faithful (d : EigerDetector) : Prop := d.Settled → (d.armed = true ↔ Open d.commands)

/-- The call sets the flag last. By then the thread has not disarmed the detector and gone
back to its event. The thread clears the flag last. By then no call has armed the detector
again and left the event clear. -/
def Timely (d : EigerDetector) (label : Settings × Event) : Prop :=
  (label.2 = .call → d.call = .armed → d.point = .wait → d.acquisitionEvent = false →
    Open d.commands) ∧
  (label.2 = .thread → d.point = .disarmed → d.call = .idle → d.acquisitionEvent = false →
    ¬ Open d.commands)

instance (d : EigerDetector) (label : Settings × Event) : Decidable (d.Timely label) :=
  inferInstanceAs (Decidable (_ ∧ _))

/-- Between its disarm and its end a stop finds no arm. -/
structure Mirrored (d : EigerDetector) : Prop where
  faithful : d.Faithful
  stopping : d.call = .complete ∨ d.call = .notArmed → ¬ Open d.commands

variable {settings : Settings} {d d' : EigerDetector}

theorem Mirrored.initial : Mirrored initial where
  faithful _ := by simp [EigerDetector.initial, open_iff, sinceArm]
  stopping := by simp [EigerDetector.initial]

theorem Mirrored.call (h : d.Mirrored) (hTimely : d.Timely (settings, .call))
    (hStep : d.callStep settings = some d') : d'.Mirrored := by
  have hArmed := hTimely.1 rfl
  have hStopping := h.stopping
  cases hCall : d.call with
  | idle =>
      simp only [callStep, hCall] at hStep
      cases hStep
  | fetchStale | notComplete | arm =>
      simp only [callStep, hCall] at hStep
      cases hStep
      constructor <;> simp [Faithful, Settled]
  | setNimages | setEvent =>
      simp only [callStep, hCall] at hStep
      split at hStep <;> cases hStep <;> constructor <;> simp [Faithful, Settled]
  | armed =>
      simp only [callStep, hCall] at hStep
      cases hStep
      constructor
      · intro hSettled
        simp [hArmed hCall hSettled.2.1 hSettled.2.2]
      · simp
  | disarm | complete =>
      simp only [callStep, hCall] at hStep
      cases hStep
      constructor
      · simp [Faithful, Settled]
      · simp_all
  | notArmed =>
      simp only [callStep, hCall] at hStep
      cases hStep
      constructor
      · intro _
        simp [hStopping (.inr hCall)]
      · simp

theorem Mirrored.thread (h : d.Mirrored) (hTimely : d.Timely (settings, .thread))
    (hStep : d.threadStep settings = some d') : d'.Mirrored := by
  have hDisarmed := hTimely.2 rfl
  have hStopping := h.stopping
  cases hPoint : d.point with
  | wait =>
      simp only [threadStep, hPoint] at hStep
      split at hStep
      · split at hStep
        · cases hStep
          exact ⟨by simp [Faithful, Settled], hStopping⟩
        · cases hStep
          exact h
      · cases hStep
        exact ⟨by simp [Faithful, Settled], hStopping⟩
  | clearEvent | zeroTriggers | clearTriggerEvent | sleep | increment | clearAgain | complete =>
      simp only [threadStep, hPoint] at hStep
      cases hStep
      exact ⟨by simp [Faithful, Settled], hStopping⟩
  | test =>
      simp only [threadStep, hPoint] at hStep
      split at hStep <;> cases hStep <;> exact ⟨by simp [Faithful, Settled], hStopping⟩
  | awaitTrigger =>
      simp only [threadStep, hPoint] at hStep
      cases hStep
      constructor
      · rintro ⟨_, hWait, _⟩
        dsimp only at hWait
        split_ifs at hWait
      · exact hStopping
  | trigger =>
      simp only [threadStep, hPoint] at hStep
      split at hStep <;> cases hStep <;>
        exact ⟨by simp [Faithful, Settled], by simpa using hStopping⟩
  | disarm =>
      simp only [threadStep, hPoint] at hStep
      cases hStep
      exact ⟨by simp [Faithful, Settled], by simp⟩
  | disarmed =>
      simp only [threadStep, hPoint] at hStep
      cases hStep
      refine ⟨fun hSettled => ?_, hStopping⟩
      simp [hDisarmed hPoint hSettled.1 hSettled.2.2]
  | finished =>
      simp only [threadStep, hPoint] at hStep
      cases hStep

theorem Mirrored.change {label : Settings × Event} (h : d.Mirrored) (hTimely : d.Timely label)
    (hStep : d.change label = some d') : d'.Mirrored := by
  obtain ⟨settings, event⟩ := label
  rw [EigerDetector.change] at hStep
  cases event with
  | startAcquisition | stopAcquisition =>
      rw [step] at hStep
      split at hStep
      · cases hStep
        constructor <;> simp [Faithful, Settled]
      · cases hStep
  | sendTrigger =>
      cases hStep
      exact ⟨h.faithful, h.stopping⟩
  | call => exact h.call hTimely hStep
  | thread => exact h.thread hTimely hStep

/-- A step that is not timely leaves the flag wrong in a settled state. -/
theorem not_faithful_of_not_timely {label : Settings × Event} (hLate : ¬ d.Timely label)
    (hStep : d.change label = some d') : ¬ d'.Faithful := by
  obtain ⟨settings, event⟩ := label
  rw [Timely, not_and_or] at hLate
  rcases hLate with hLate | hLate
  · simp only [Classical.not_imp] at hLate
    obtain ⟨rfl, hCall, hPoint, hEvent, hClosed⟩ := hLate
    rw [EigerDetector.change, step, callStep, hCall] at hStep
    cases hStep
    intro hFaithful
    exact hClosed ((hFaithful ⟨rfl, hPoint, hEvent⟩).mp rfl)
  · simp only [Classical.not_imp, not_not] at hLate
    obtain ⟨rfl, hPoint, hCall, hEvent, hOpen⟩ := hLate
    rw [EigerDetector.change, step, threadStep, hPoint] at hStep
    cases hStep
    intro hFaithful
    exact absurd ((hFaithful ⟨hCall, rfl, hEvent⟩).mpr hOpen) (by simp)

end EigerDetector

/-- The flag follows the detector all along a run exactly if each of its writes comes in
time. -/
theorem armed_follows_iff {labels : List (Settings × Event)} {d : EigerDetector}
    (hExec : exec EigerDetector.change .initial labels = some d) :
    Along EigerDetector.change EigerDetector.Faithful .initial labels ↔
      Run EigerDetector.change EigerDetector.Timely .initial labels d :=
  along_iff_run EigerDetector.Mirrored .initial (fun _ h => h.faithful)
    (fun _ _ _ h hTimely hStep => h.change hTimely hStep)
    (fun _ _ _ _ hLate hStep => EigerDetector.not_faithful_of_not_timely hLate hStep) hExec

/-- A whole acquisition of two triggers. -/
def wholeAcquisition : List (Settings × Event) :=
  (startCall ++ List.replicate 18 Event.thread).map fun event => (sampleSettings, event)

theorem wholeAcquisition_follows :
    Along EigerDetector.change EigerDetector.Faithful .initial wholeAcquisition := by
  have hExec : (exec (guarded EigerDetector.change EigerDetector.Timely) .initial
      wholeAcquisition).map (fun d => d.armed) = some false := by
    decide +kernel
  obtain ⟨d, hRun, _⟩ := Option.map_eq_some_iff.mp hExec
  have hTimely := run_iff_exec_guarded.mpr hRun
  exact (armed_follows_iff hTimely.executes).mpr hTimely

/-- The thread does the whole acquisition before the call comes to its last statement. -/
def lateFlag : List (Settings × Event) :=
  (startCall.dropLast ++ List.replicate 18 Event.thread ++ [Event.call]).map fun event =>
    (sampleSettings, event)

theorem lateFlag_armed : (exec EigerDetector.change .initial lateFlag).map
    (fun d => (decide d.Settled, d.armed, d.commands)) =
      some (true, true, [.arm, .trigger none, .trigger none, .disarm .acquisition]) := by
  decide +kernel

theorem armed_not_always_follows : ¬ ∀ (labels : List (Settings × Event)) (d : EigerDetector),
    exec EigerDetector.change .initial labels = some d → d.Faithful := by
  intro hClaim
  obtain ⟨d, hExec, hEnd⟩ := Option.map_eq_some_iff.mp lateFlag_armed
  simp only [Prod.mk.injEq, decide_eq_true_eq] at hEnd
  obtain ⟨hSettled, hArmed, hCommands⟩ := hEnd
  have hOpen := (hClaim lateFlag d hExec hSettled).mp hArmed
  rw [hCommands] at hOpen
  revert hOpen
  decide

end Eiger.Acquisition
