import EigerDetector.Control.Detector

/-! Which actions the calls of the server perform. -/
namespace Eiger.Server

open Threads

/-- The actions that are about more than parameters. -/
def Action.touches : Action → Bool
  | getFlag _ | setFlag _ _ | assignEvent _ _ | setSequenceID _ => true
  | _ => false

/-- The actions of calls which read and write parameters, and of commands. -/
def Action.Quiet (action : Action) : Prop := action.touches = false

/-- The actions of calls which read and write parameters. -/
def Action.Plain (action : Action) : Prop :=
  action.Quiet ∧ ∀ command data, action ≠ .request (.put .detectorCommand command data)

theorem Action.Plain.quiet {action : Action} (h : action.Plain) : action.Quiet := h.1

variable {A : Type} {allowed : Action → Prop}

theorem uses_liftExcept (outcome : Except PyException A) :
    (liftExcept outcome).Uses allowed fun _ => True := by
  cases outcome <;> trivial

theorem uses_request {r : Request} (h : allowed (.request r)) :
    (request r).Uses allowed fun _ => True := by
  refine ⟨h, fun response => ?_⟩
  cases response <;> trivial

theorem uses_getattr (name : String) : (getattr name).Uses Action.Plain fun _ => True := by
  refine ⟨⟨rfl, by simp⟩, fun value => ?_⟩
  cases value <;> trivial

theorem uses_setattr (name : String) (value : Json) :
    (setattr name value).Uses Action.Plain fun _ => True :=
  ⟨⟨rfl, by simp⟩, fun _ => trivial⟩

theorem uses_readConfig (uri : Uri) (item : String) :
    (readConfig uri item).Uses Action.Plain fun _ => True := by
  apply (uses_request ⟨rfl, by simp⟩).seq
  intro response
  exact uses_liftExcept _

theorem uses_readValue (item : String) : (readValue item).Uses Action.Plain fun _ => True := by
  rw [readValue]
  split_ifs
  · exact uses_readConfig _ _
  · exact uses_readConfig _ _
  · exact uses_readConfig _ _
  · exact (uses_request ⟨rfl, by simp⟩).seq fun _ => trivial
  · trivial

theorem uses_writeValue (item : String) (value : Json) :
    (writeValue item value).Uses Action.Plain fun _ => True := by
  rw [writeValue]
  split_ifs
  · exact (uses_request ⟨rfl, by simp⟩).seq fun _ => trivial
  · exact (uses_request ⟨rfl, by simp⟩).seq fun _ => trivial
  · exact (uses_request ⟨rfl, by simp⟩).seq fun _ => trivial
  · trivial

theorem uses_setValue (item : String) (value : Json) :
    (setValue item value).Uses Action.Plain fun _ => True := by
  apply (uses_liftExcept _).seq
  intro value
  apply (uses_writeValue item value).seq
  intro response
  split
  · exact (uses_readValue item).seq fun _ => uses_setattr _ _
  · exact ⟨⟨rfl, by simp⟩, fun _ => trivial⟩
  · trivial

theorem uses_setParameter (name : String) (value : Json) :
    (setParameter name value).Uses Action.Plain fun _ => True := by
  refine ⟨⟨rfl, by simp⟩, fun accepted => ?_⟩
  cases accepted with
  | false => trivial
  | true => exact uses_setValue name value

theorem uses_setImages (triggerMode : String) :
    (setImages triggerMode).Uses Action.Plain fun _ => True := by
  rw [setImages]
  split_ifs
  · exact uses_setParameter _ _
  · trivial

theorem uses_getTriggerMode : getTriggerMode.Uses Action.Plain fun _ => True :=
  (uses_getattr _).seq fun _ => uses_liftExcept _

theorem uses_writeDetectorCommand (command : String) (value : Json) :
    (writeDetectorCommand command value).Uses Action.Quiet fun _ => True := by
  have hRequest : ∀ data, (request (.put .detectorCommand command data)).Uses Action.Quiet
      fun _ => True := fun _ => uses_request rfl
  exact (hRequest _).seq fun _ => trivial

theorem uses_fetchParameters (cfgs : List String) :
    (fetchParameters cfgs).Uses Action.Plain fun _ => True := by
  induction cfgs with
  | nil => trivial
  | cons cfg cfgs ih =>
      have hFetch : (fetchParameter cfg).Uses Action.Plain fun _ => True := by
        rw [fetchParameter]
        split_ifs
        · exact (uses_readConfig _ _).seq fun _ => uses_setattr _ _
        · exact (uses_readConfig _ _).seq fun _ => uses_setattr _ _
        · trivial
      exact hFetch.seq fun _ => ih

theorem uses_fetchStaleParameters (blocking : Bool) (depth : Nat) :
    (fetchStaleParameters blocking depth).Uses Action.Plain fun _ => True := by
  induction depth with
  | zero => trivial
  | succ depth ih =>
      refine ⟨⟨rfl, by simp⟩, fun previous => ⟨⟨rfl, by simp⟩, fun cfgs => ?_⟩⟩
      apply (uses_fetchParameters cfgs).seq
      intro _
      refine ⟨⟨rfl, by simp⟩, fun _ => ?_⟩
      have hAgain : ∀ stale : Bool, (if stale then fetchStaleParameters blocking depth
          else pure ()).Uses Action.Plain fun _ => True := by
        intro stale
        cases stale with
        | false => trivial
        | true => exact ih
      cases blocking with
      | false => exact hAgain false
      | true => exact ⟨⟨rfl, by simp⟩, hAgain⟩

end Eiger.Server
