import EigerDetector.Library.Program

/-! Programs whose state other threads change between two actions. What a thread knows then
is a ghost state, which permits actions and moves with their replies. How far a thread has come
is a phase, which the actions move. -/
namespace Threads

variable {Action : Type} {Reply : Action → Type} {Failure Ghost A B : Type}

/-- Which actions a ghost state permits, and which ghost states may follow a reply. -/
structure Tracker (Action : Type) (Reply : Action → Type) (Ghost : Type) where
  permits : Ghost → Action → Prop
  follows : Ghost → (action : Action) → Reply action → Ghost → Prop

namespace Program

variable (tracker : Tracker Action Reply Ghost)

/-- Whatever replies come, only permitted actions are performed, and the program ends in a
ghost state as promised. -/
def Tracked (post : Ghost → A → Prop) (failed : Ghost → Failure → Prop) :
    Ghost → Program Action Reply Failure A → Prop
  | g, done a => post g a
  | g, fail e => failed g e
  | g, act action next => tracker.permits g action ∧
      ∀ reply g', tracker.follows g action reply g' → Tracked post failed g' (next reply)

variable {tracker} {post : Ghost → A → Prop} {failed : Ghost → Failure → Prop}

/-- An action on its own. -/
theorem tracked_perform {g : Ghost} {action : Action}
    {post : Ghost → Reply action → Prop} (hPermits : tracker.permits g action)
    (hPost : ∀ reply g', tracker.follows g action reply g' → post g' reply) :
    (perform action : Program Action Reply Failure (Reply action)).Tracked tracker post failed g :=
  ⟨hPermits, hPost⟩

theorem Tracked.mono {post' : Ghost → A → Prop} {failed' : Ghost → Failure → Prop}
    {p : Program Action Reply Failure A} {g : Ghost} (h : p.Tracked tracker post failed g)
    (hPost : ∀ g a, post g a → post' g a) (hFailed : ∀ g e, failed g e → failed' g e) :
    p.Tracked tracker post' failed' g := by
  induction p generalizing g with
  | done a => exact hPost g a h
  | fail e => exact hFailed g e h
  | act action next ih =>
      exact ⟨h.1, fun reply g' hFollows => ih reply (h.2 reply g' hFollows)⟩

theorem Tracked.bind {post' : Ghost → B → Prop} {p : Program Action Reply Failure A}
    {f : A → Program Action Reply Failure B} {g : Ghost} (h : p.Tracked tracker post failed g)
    (hf : ∀ g a, post g a → (f a).Tracked tracker post' failed g) :
    (p >>= f).Tracked tracker post' failed g := by
  induction p generalizing g with
  | done a => exact hf g a h
  | fail e => exact h
  | act action next ih =>
      exact ⟨h.1, fun reply g' hFollows => ih reply (h.2 reply g' hFollows)⟩

theorem Tracked.onFailure {failed' : Ghost → Failure → Prop} {p : Program Action Reply Failure A}
    {handler : Failure → Program Action Reply Failure A} {g : Ghost}
    (h : p.Tracked tracker post failed g)
    (hHandler : ∀ g e, failed g e → (handler e).Tracked tracker post failed' g) :
    (p.onFailure handler).Tracked tracker post failed' g := by
  induction p generalizing g with
  | done a => exact h
  | fail e => exact hHandler g e h
  | act action next ih =>
      exact ⟨h.1, fun reply g' hFollows => ih reply (h.2 reply g' hFollows)⟩

/-- A run ends in a ghost state as promised, when the ghost state follows the state. -/
theorem Tracked.run {State : Type}
    (answer : (action : Action) → State → Option (State × Reply action))
    (inv : Ghost → State → Prop) {p : Program Action Reply Failure A} {g : Ghost} {s : State}
    (h : p.Tracked tracker post failed g) (hInv : inv g s)
    (hStep : ∀ g action s s' reply, tracker.permits g action → inv g s →
      answer action s = some (s', reply) → ∃ g', tracker.follows g action reply g' ∧ inv g' s') :
    match p.run answer s with
    | .returned s' a => ∃ g', post g' a ∧ inv g' s'
    | .failed s' e => ∃ g', failed g' e ∧ inv g' s'
    | .blocked _ => True := by
  induction p generalizing g s with
  | done a => exact ⟨g, h, hInv⟩
  | fail e => exact ⟨g, h, hInv⟩
  | act action next ih =>
      rw [Program.run]
      cases hAnswer : answer action s with
      | none => trivial
      | some result =>
          obtain ⟨g', hFollows, hNext⟩ := hStep g action s result.1 result.2 h.1 hInv hAnswer
          exact ih result.2 (h.2 result.2 g' hFollows) hNext

/-- Actions that are always permitted and keep a property of the ghost state keep it to the
end of a program. -/
theorem Uses.tracked {allowed : Action → Prop} {keeps : Ghost → Prop} {any : A → Prop}
    {p : Program Action Reply Failure A} {g : Ghost} (h : p.Uses allowed any) (hGhost : keeps g)
    (hPermits : ∀ g action, allowed action → keeps g → tracker.permits g action)
    (hFollows : ∀ g action reply g', allowed action → keeps g →
      tracker.follows g action reply g' → keeps g') :
    p.Tracked tracker (fun g' a => keeps g' ∧ any a) (fun g' _ => keeps g') g := by
  induction p generalizing g with
  | done a => exact ⟨hGhost, h⟩
  | fail e => exact hGhost
  | act action next ih =>
      refine ⟨hPermits g action h.1 hGhost, fun reply g' hStep => ?_⟩
      exact ih reply (h.2 reply) (hFollows g action reply g' h.1 hGhost hStep)

/-- The program fails at a reply that is not benign, and nowhere else. -/
def FailsExactly (benign : (action : Action) → Reply action → Prop) :
    Program Action Reply Failure A → Prop
  | done _ => True
  | fail _ => False
  | act action next => ∀ reply, (benign action reply → FailsExactly benign (next reply)) ∧
      (¬ benign action reply → ∃ e, next reply = fail e)

section FailsExactly

variable {benign : (action : Action) → Reply action → Prop}

theorem FailsExactly.bind {p : Program Action Reply Failure A}
    {f : A → Program Action Reply Failure B} (h : p.FailsExactly benign)
    (hf : ∀ a, (f a).FailsExactly benign) : (p >>= f).FailsExactly benign := by
  induction p with
  | done a => exact hf a
  | fail e => exact False.elim h
  | act action next ih =>
      intro reply
      refine ⟨fun hBenign => ih reply ((h reply).1 hBenign), fun hBad => ?_⟩
      obtain ⟨e, hFails⟩ := (h reply).2 hBad
      exact ⟨e, congrArg (· >>= f) hFails⟩

/-- An action after which nothing can fail at once. -/
theorem FailsExactly.perform {action : Action} (h : ∀ reply, benign action reply) :
    (perform action : Program Action Reply Failure (Reply action)).FailsExactly benign :=
  fun reply => ⟨fun _ => trivial, fun hBad => absurd (h reply) hBad⟩

end FailsExactly

section Phases

variable {Phase : Type} {moves : Phase → Action → Phase → Prop} {post : Phase → A → Prop}

/-- Whatever replies come, each action moves the program from one phase to another, and it ends
in a phase as promised. -/
def Phased (moves : Phase → Action → Phase → Prop) (post : Phase → A → Prop) :
    Phase → Program Action Reply Failure A → Prop
  | g, done a => post g a
  | _, fail _ => True
  | g, act action next => ∃ g', moves g action g' ∧ ∀ reply, Phased moves post g' (next reply)

theorem phased_perform {g g' : Phase} {action : Action} {post : Phase → Reply action → Prop}
    (hMoves : moves g action g') (hPost : ∀ reply, post g' reply) :
    (perform action : Program Action Reply Failure (Reply action)).Phased moves post g :=
  ⟨g', hMoves, hPost⟩

theorem Phased.bind {post' : Phase → B → Prop} {p : Program Action Reply Failure A}
    {f : A → Program Action Reply Failure B} {g : Phase} (h : p.Phased moves post g)
    (hf : ∀ g a, post g a → (f a).Phased moves post' g) : (p >>= f).Phased moves post' g := by
  induction p generalizing g with
  | done a => exact hf g a h
  | fail e => trivial
  | act action next ih =>
      obtain ⟨g', hMoves, hNext⟩ := h
      exact ⟨g', hMoves, fun reply => ih reply (hNext reply)⟩

/-- Actions that may be performed in a phase without leaving it. -/
theorem Uses.phased {allowed : Action → Prop} {any : A → Prop}
    {p : Program Action Reply Failure A} {g : Phase} (h : p.Uses allowed any)
    (hMoves : ∀ action, allowed action → moves g action g) (hPost : ∀ a, post g a) :
    p.Phased moves post g := by
  induction p with
  | done a => exact hPost a
  | fail e => trivial
  | act action next ih => exact ⟨g, hMoves action h.1, fun reply => ih reply (h.2 reply)⟩

/-- What holds of every move holds of every action. -/
theorem Phased.uses {allowed : Action → Prop} {p : Program Action Reply Failure A} {g : Phase}
    (h : p.Phased moves post g) (hMoves : ∀ g action g', moves g action g' → allowed action) :
    p.Uses allowed fun _ => True := by
  induction p generalizing g with
  | done a => trivial
  | fail e => trivial
  | act action next ih =>
      obtain ⟨g', hMove, hNext⟩ := h
      exact ⟨hMoves g action g' hMove, fun reply => ih reply (hNext reply)⟩

end Phases

end Program

end Threads
