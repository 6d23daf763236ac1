import EigerDetector.Library.Tracking
import EigerDetector.Library.Transition

/-! Any number of threads over one state, which new threads may join at any time. What a
thread relies on is its ghost state, which the actions of the others must leave in agreement
with the state. -/
namespace Threads

open Transition

variable {State Action Failure Ghost Env Work : Type} {Reply : Action → Type}

/-- The state, and what each thread has still to do. -/
structure Pool (State : Type) (Action : Type) (Reply : Action → Type) (Failure : Type) where
  state : State
  threads : List (Program Action Reply Failure Unit)

inductive PoolEvent (Env Work : Type) where
  | act (i : Nat) (env : Env)
  | spawn (work : Work)

namespace Pool

variable (answer : Env → (action : Action) → State → Option (State × Reply action))
variable (code : Work → Program Action Reply Failure Unit)

/-- One of the threads performs its next action, or another thread begins. -/
def step (p : Pool State Action Reply Failure) :
    PoolEvent Env Work → Option (Pool State Action Reply Failure)
  | .spawn work => some { p with threads := p.threads ++ [code work] }
  | .act i env =>
      match p.threads[i]? with
      | some (.act action next) =>
          (answer env action p.state).map fun answered =>
            ⟨answered.1, p.threads.set i (next answered.2)⟩
      | _ => none

/-- The event begins work of this kind, if it begins any. -/
def Begins (begins : Work → Prop) : PoolEvent Env Work → Prop
  | .spawn work => begins work
  | .act _ _ => True

/-- The state is as it should be, and each thread does only what its ghost state permits. -/
structure Orderly (tracker : Tracker Action Reply Ghost) (inv : State → Prop)
    (agrees : Ghost → State → Prop) (p : Pool State Action Reply Failure) : Prop where
  state : inv p.state
  threads : ∀ thread ∈ p.threads, ∃ g, agrees g p.state ∧
    thread.Tracked tracker (fun _ _ => True) (fun _ _ => True) g

variable {answer code} {tracker : Tracker Action Reply Ghost} {inv : State → Prop}
variable {agrees : Ghost → State → Prop} {begins : Work → Prop}
variable {p p' : Pool State Action Reply Failure}

theorem Orderly.step {event : PoolEvent Env Work} (h : p.Orderly tracker inv agrees)
    (hAct : ∀ g env action s s' reply, tracker.permits g action → agrees g s → inv s →
      answer env action s = some (s', reply) →
      inv s' ∧ (∃ g', tracker.follows g action reply g' ∧ agrees g' s') ∧
        ∀ other, agrees other s → agrees other s')
    (hSpawn : ∀ work s, begins work → inv s → ∃ g, agrees g s ∧
      (code work).Tracked tracker (fun _ _ => True) (fun _ _ => True) g)
    (hBegins : Begins begins event) (hStep : p.step answer code event = some p') :
    p'.Orderly tracker inv agrees := by
  cases event with
  | spawn work =>
      cases hStep
      refine ⟨h.state, fun thread hMember => ?_⟩
      rcases List.mem_append.mp hMember with hOld | hNew
      · exact h.threads thread hOld
      · rw [List.mem_singleton.mp hNew]
        exact hSpawn work p.state hBegins h.state
  | act i env =>
      rw [Pool.step] at hStep
      cases hThread : p.threads[i]? with
      | none => simp [hThread] at hStep
      | some thread =>
          cases thread with
          | done a => simp [hThread] at hStep
          | fail e => simp [hThread] at hStep
          | act action next =>
              simp only [hThread] at hStep
              obtain ⟨⟨s', reply⟩, hAnswer, rfl⟩ := Option.map_eq_some_iff.mp hStep
              obtain ⟨g, hAgrees, hPermits, hNext⟩ :=
                h.threads _ (List.mem_of_getElem? hThread)
              obtain ⟨hInv, ⟨g', hFollows, hAgrees'⟩, hOthers⟩ :=
                hAct g env action p.state s' reply hPermits hAgrees h.state hAnswer
              refine ⟨hInv, fun thread hMember => ?_⟩
              rcases List.mem_or_eq_of_mem_set hMember with hOld | rfl
              · obtain ⟨other, hOther, hTracked⟩ := h.threads thread hOld
                exact ⟨other, hOthers other hOther, hTracked⟩
              · exact ⟨g', hAgrees', hNext reply g' hFollows⟩

/-- Whatever order the threads act in, they keep the state as it should be, if each action
that a ghost state permits does. -/
theorem orderly_of_run {events : List (PoolEvent Env Work)} (h : p.Orderly tracker inv agrees)
    (hAct : ∀ g env action s s' reply, tracker.permits g action → agrees g s → inv s →
      answer env action s = some (s', reply) →
      inv s' ∧ (∃ g', tracker.follows g action reply g' ∧ agrees g' s') ∧
        ∀ other, agrees other s → agrees other s')
    (hSpawn : ∀ work s, begins work → inv s → ∃ g, agrees g s ∧
      (code work).Tracked tracker (fun _ _ => True) (fun _ _ => True) g)
    (hRun : Run (Pool.step answer code) (fun _ event => Begins begins event) p events p') :
    p'.Orderly tracker inv agrees :=
  hRun.invariant h fun _ _ _ hOrderly hBegins hStep =>
    hOrderly.step hAct hSpawn hBegins hStep

/-- An execution all of whose work may begin is a run. -/
theorem run_of_exec {events : List (PoolEvent Env Work)}
    (hBegins : ∀ event ∈ events, Begins begins event)
    (hExec : exec (Pool.step answer code) p events = some p') :
    Run (Pool.step answer code) (fun _ event => Begins begins event) p events p' := by
  induction events generalizing p with
  | nil =>
      cases hExec
      exact .nil _
  | cons event events ih =>
      rw [List.forall_mem_cons] at hBegins
      obtain ⟨q, hFirst, hRest⟩ := Option.bind_eq_some_iff.mp hExec
      exact .cons hBegins.1 hFirst (ih hBegins.2 hRest)

end Pool

end Threads
