import EigerDetector.Control.Workers

/-! Which replies the worker threads survive, over every run of the server. -/
namespace Eiger.Server

open Threads Transition

/-- What is known of a thread in a phase: what holds of its flags and events, the phases that are
still to come, and at which replies it fails. -/
structure Stage.Tracked (t : Thread) (d : EigerDetector) (stage : Stage) (g : Phase) :
    Prop where
  holds : g.Holds t d
  phased : Phased t Phase.Ends g (stage.code t)
  sound : Sound (stage.code t)
  starts : ∀ point, stage = .start point → g = point.phase

/-- Each thread is in a phase. -/
def System.Tracked (s : System) : Prop :=
  ∀ t, ∃ g, (s.stage t).Tracked t s.detector g

section Steps

variable {t : Thread} {env : Environment} {d d' : EigerDetector} {g : Phase} {s s' : System}

/-- An iteration begins in its own phase. -/
theorem tracked_start {point : Point} (h : point.phase.Holds t d) :
    (Stage.start point).Tracked t d point.phase where
  holds := h
  phased := phased_code t point
  sound := sound_code t point
  starts := by
    rintro _ ⟨rfl⟩
    rfl

/-- A phase in which an iteration may end leaves what the next one begins with. -/
theorem Phase.Holds.next {point : Point} (h : g.Holds t d) (hEnds : g.Ends point) :
    point.phase.Holds t d := by
  cases point with
  | top =>
      rcases hEnds with rfl | rfl
      · exact h
      · exact fun _ => h
  | triggers count => trivial
  | ended =>
      rw [show g = .stopping from hEnds] at h
      exact h

theorem tracked_of {rest : Code Point} (hHolds : g.Holds t d)
    (hPhased : Phased t Phase.Ends g rest) (hSound : Sound rest) :
    ∃ g', (Stage.of rest).Tracked t d g' := by
  cases rest with
  | done point => exact ⟨point.phase, tracked_start (hHolds.next hPhased)⟩
  | fail e => exact False.elim hSound
  | act action next => exact ⟨g, hHolds, hPhased, hSound, by rintro _ ⟨⟩⟩

/-- What is known of a thread does not depend on what others do. -/
theorem Stage.Tracked.unheeded {stage : Stage} (h : stage.Tracked t d g)
    (hSame : Unheeded t d d') : stage.Tracked t d' g :=
  { h with holds := h.holds.unheeded hSame }

/-- A step of a thread is the next action of its code. -/
theorem threadStep_cases (hStep : s.threadStep t env = some s') :
    ∃ (action : Action) (next : action.Reply → Code Point) (d' : EigerDetector)
      (reply : action.Reply), (s.stage t).code t = .act action next ∧
        answer env action s.detector = some (d', reply) ∧
        s' = ⟨d', Function.update s.stage t (.of (next reply))⟩ := by
  rw [System.threadStep] at hStep
  cases hCode : (s.stage t).code t with
  | done point => simp [hCode] at hStep
  | fail e => simp [hCode] at hStep
  | act action next =>
      rw [hCode] at hStep
      obtain ⟨⟨d', reply⟩, hAnswer, rfl⟩ := Option.map_eq_some_iff.mp hStep
      exact ⟨action, next, d', reply, rfl, hAnswer, rfl⟩

theorem healthy_iff {action : Action} {next : action.Reply → Code Point} {reply : action.Reply}
    (hCode : (s.stage t).code t = .act action next)
    (hAnswer : answer env action s.detector = some (d', reply)) :
    Healthy s (.thread t env) ↔ benign action reply = true := by
  rw [Healthy, hCode, benignNext, hAnswer]
  rfl

theorem System.Tracked.thread (h : s.Tracked) (hHealthy : Healthy s (.thread t env))
    (hStep : s.threadStep t env = some s') : s'.Tracked := by
  obtain ⟨action, next, d', reply, hCode, hAnswer, rfl⟩ := threadStep_cases hStep
  obtain ⟨g, hTracked⟩ := h t
  have hPhased := hTracked.phased
  have hSound := hTracked.sound
  rw [hCode] at hPhased hSound
  intro u
  by_cases hSame : u = t
  · subst hSame
    have hBenign := (healthy_iff hCode hAnswer).mp hHealthy
    simp only [Function.update_self]
    exact tracked_of (hTracked.holds.own hPhased.1 hAnswer) (hPhased.2 reply _ rfl)
      ((hSound reply).1 hBenign)
  · obtain ⟨g', hOther⟩ := h u
    simp only [Function.update_of_ne hSame]
    exact ⟨g', hOther.unheeded (unheeded_of_other (Ne.symm hSame) hPhased.1 hAnswer)⟩

theorem System.Tracked.request (h : s.Tracked) (hStep : s.requestStep t = some s') :
    s'.Tracked := by
  rw [System.requestStep] at hStep
  split at hStep
  · next hStage =>
      cases hStep
      intro u
      by_cases hSame : u = t
      · subst hSame
        rw [hStage]
        exact ⟨_, tracked_start (untouched_request u s.detector)⟩
      · obtain ⟨g, hTracked⟩ := h u
        exact ⟨g, hTracked.unheeded (unheeded_request s.detector (Ne.symm hSame))⟩
  · cases hStep

/-- What goes on outside the threads keeps each of them in its phase. -/
theorem System.Tracked.around (h : s.Tracked)
    (hHolds : ∀ t (g : Phase), g.Holds t s.detector → g.Holds t d') :
    System.Tracked { s with detector := d' } := by
  intro t
  obtain ⟨g, hTracked⟩ := h t
  exact ⟨g, { hTracked with holds := hHolds t g hTracked.holds }⟩

theorem System.Tracked.step {event : SystemEvent} (h : s.Tracked) (hHealthy : Healthy s event)
    (hStep : s.step event = some s') : s'.Tracked := by
  cases event with
  | thread t env => exact h.thread hHealthy hStep
  | request t => exact h.request hStep
  | stop =>
      cases hStep
      exact h.around fun _ _ hHolds => hHolds.stopped
  | outside other shutdown =>
      cases hStep
      exact h.around fun t _ hHolds =>
        hHolds.unheeded (unheeded_surrounded t s.detector other shutdown)

end Steps

end Eiger.Server
