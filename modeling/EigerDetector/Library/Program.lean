import Mathlib.Logic.Basic

/-! The code of one thread as a tree of atomic actions. The same tree is run to
its end when nothing interferes, and is advanced action by action when other
threads change the state in between. -/
namespace Threads

/-- A thread has finished, has failed, or performs an atomic action and
continues with what the action answered. -/
inductive Program (Action : Type) (Reply : Action → Type) (Failure Result : Type) where
  | done (result : Result)
  | fail (failure : Failure)
  | act (action : Action) (next : Reply action → Program Action Reply Failure Result)

/-- How an uninterrupted run ended, with the state it left behind. -/
inductive Outcome (State Failure Result : Type) where
  | returned (state : State) (result : Result)
  | failed (state : State) (failure : Failure)
  | blocked (state : State)

namespace Outcome

variable {State Failure Result : Type}

/-- The state in which the run stopped, however it stopped. -/
def state : Outcome State Failure Result → State
  | returned s _ => s
  | failed s _ => s
  | blocked s => s

/-- What was returned, if the run returned. -/
def result : Outcome State Failure Result → Option (State × Result)
  | returned s a => some (s, a)
  | failed _ _ => none
  | blocked _ => none

end Outcome

namespace Program

variable {Action : Type} {Reply : Action → Type} {Failure : Type} {A B C State : Type}

protected def bind : Program Action Reply Failure A →
    (A → Program Action Reply Failure B) → Program Action Reply Failure B
  | done a, f => f a
  | fail e, _ => fail e
  | act action next, f => act action fun reply => (next reply).bind f

instance : Monad (Program Action Reply Failure) where
  pure := done
  bind := Program.bind

/-- Run `handler` when the program fails; what was done before stays done. -/
def onFailure : Program Action Reply Failure A →
    (Failure → Program Action Reply Failure A) → Program Action Reply Failure A
  | done a, _ => done a
  | fail e, handler => handler e
  | act action next, handler => act action fun reply => (next reply).onFailure handler

/-- One action as a program. -/
def perform (action : Action) : Program Action Reply Failure (Reply action) :=
  act action done

@[simp] theorem pure_eq (a : A) :
    (pure a : Program Action Reply Failure A) = done a := rfl

@[simp] theorem done_bind (a : A) (f : A → Program Action Reply Failure B) :
    (done a >>= f) = f a := rfl

@[simp] theorem act_bind (action : Action)
    (next : Reply action → Program Action Reply Failure A)
    (f : A → Program Action Reply Failure B) :
    (act action next >>= f) = act action fun reply => next reply >>= f := rfl

theorem bind_assoc (p : Program Action Reply Failure A)
    (f : A → Program Action Reply Failure B) (g : B → Program Action Reply Failure C) :
    (p >>= f >>= g) = (p >>= fun a => f a >>= g) := by
  induction p with
  | done a => rfl
  | fail e => rfl
  | act action next ih => exact congrArg (act action) (funext ih)

@[simp] theorem onFailure_act (action : Action)
    (next : Reply action → Program Action Reply Failure A)
    (handler : Failure → Program Action Reply Failure A) :
    (act action next).onFailure handler =
      act action fun reply => (next reply).onFailure handler := rfl

section Run

variable (answer : (action : Action) → State → Option (State × Reply action))

/-- Run without interference. An action that cannot be answered blocks. -/
def run : Program Action Reply Failure A → State → Outcome State Failure A
  | done a, s => .returned s a
  | fail e, s => .failed s e
  | act action next, s =>
      match answer action s with
      | none => .blocked s
      | some (s', reply) => (next reply).run s'

theorem run_act_some {action : Action} {s s' : State} {reply : Reply action}
    (h : answer action s = some (s', reply))
    (next : Reply action → Program Action Reply Failure A) :
    (act action next).run answer s = (next reply).run answer s' := by
  rw [run, h]

/-- Sequencing runs the second program from the state the first one left. -/
theorem run_bind (p : Program Action Reply Failure A)
    (f : A → Program Action Reply Failure B) (s : State) :
    (p >>= f).run answer s =
      match p.run answer s with
      | .returned s' a => (f a).run answer s'
      | .failed s' e => .failed s' e
      | .blocked s' => .blocked s' := by
  induction p generalizing s with
  | done a => rfl
  | fail e => rfl
  | act action next ih =>
      rw [act_bind, run, run]
      cases answer action s with
      | none => rfl
      | some result => exact ih result.2 result.1

theorem run_bind_returned {p : Program Action Reply Failure A} {s s' : State} {a : A}
    (h : p.run answer s = .returned s' a) (f : A → Program Action Reply Failure B) :
    (p >>= f).run answer s = (f a).run answer s' := by
  rw [run_bind, h]

theorem run_bind_failed {p : Program Action Reply Failure A} {s s' : State} {e : Failure}
    (h : p.run answer s = .failed s' e) (f : A → Program Action Reply Failure B) :
    (p >>= f).run answer s = .failed s' e := by
  rw [run_bind, h]

/-- Sequencing as far as results go. -/
theorem result_bind (p : Program Action Reply Failure A)
    (f : A → Program Action Reply Failure B) (s : State) :
    ((p >>= f).run answer s).result =
      (p.run answer s).result.bind fun (t, a) => ((f a).run answer t).result := by
  rw [run_bind]
  cases p.run answer s <;> rfl

theorem run_onFailure (p : Program Action Reply Failure A)
    (handler : Failure → Program Action Reply Failure A) (s : State) :
    (p.onFailure handler).run answer s =
      match p.run answer s with
      | .returned s' a => .returned s' a
      | .failed s' e => (handler e).run answer s'
      | .blocked s' => .blocked s' := by
  induction p generalizing s with
  | done a => rfl
  | fail e => rfl
  | act action next ih =>
      rw [onFailure_act, run, run]
      cases answer action s with
      | none => rfl
      | some result => exact ih result.2 result.1

/-- The actions of a run, each with the state it is performed in. -/
def trace : Program Action Reply Failure A → State → List (Action × State)
  | done _, _ => []
  | fail _, _ => []
  | act action next, s =>
      (action, s) ::
        match answer action s with
        | none => []
        | some (s', reply) => (next reply).trace s'

/-- Sequencing performs the actions of the second program after those of the first. -/
theorem trace_bind (p : Program Action Reply Failure A)
    (f : A → Program Action Reply Failure B) (s : State) :
    (p >>= f).trace answer s = p.trace answer s ++
      match p.run answer s with
      | .returned s' a => (f a).trace answer s'
      | _ => [] := by
  induction p generalizing s with
  | done a => rfl
  | fail e => rfl
  | act action next ih =>
      rw [act_bind, trace, trace, run]
      cases answer action s with
      | none => rfl
      | some result => exact congrArg ((action, s) :: ·) (ih result.2 result.1)

/-- The states that a run goes through. -/
def states : Program Action Reply Failure A → State → List State
  | done _, s => [s]
  | fail _, s => [s]
  | act action next, s =>
      s :: match answer action s with
        | none => []
        | some (s', reply) => (next reply).states s'

theorem mem_states_start (p : Program Action Reply Failure A) (s : State) :
    s ∈ p.states answer s := by
  cases p <;> simp [states]

/-- What relates the states before and after each action relates each state of a run to the
first and to the last. -/
theorem states_related {rel : State → State → Prop} (hRefl : ∀ s, rel s s)
    (hTrans : ∀ s t u, rel s t → rel t u → rel s u)
    (hStep : ∀ action s s' reply, answer action s = some (s', reply) → rel s s')
    (p : Program Action Reply Failure A) (s : State) :
    ∀ t ∈ p.states answer s, rel s t ∧ rel t (p.run answer s).state := by
  induction p generalizing s with
  | done a | fail e =>
      intro t hMember
      rw [states, List.mem_singleton] at hMember
      rw [hMember]
      exact ⟨hRefl s, hRefl s⟩
  | act action next ih =>
      intro t hMember
      rw [states, List.mem_cons] at hMember
      rw [run]
      cases hAnswer : answer action s with
      | none =>
          rw [hAnswer] at hMember
          simp only [List.not_mem_nil, or_false] at hMember
          rw [hMember]
          exact ⟨hRefl s, hRefl s⟩
      | some result =>
          rw [hAnswer] at hMember
          have hFirst := hStep action s result.1 result.2 hAnswer
          rcases hMember with rfl | hLater
          · have hRest := ih result.2 result.1 result.1 (mem_states_start answer _ _)
            exact ⟨hRefl t, hTrans _ _ _ hFirst hRest.2⟩
          · have hRest := ih result.2 result.1 t hLater
            exact ⟨hTrans _ _ _ hFirst hRest.1, hRest.2⟩

/-- Perform the actions no other thread can observe, up to the first that can
be observed. A blocked action stays at the head. -/
def settle (hidden : Action → Bool) :
    Program Action Reply Failure A → State → State × Program Action Reply Failure A
  | done a, s => (s, done a)
  | fail e, s => (s, fail e)
  | act action next, s =>
      if hidden action then
        match answer action s with
        | none => (s, act action next)
        | some (s', reply) => (next reply).settle hidden s'
      else (s, act action next)

theorem settle_hidden {hidden : Action → Bool} {action : Action} {s s' : State}
    {reply : Reply action} (hHidden : hidden action = true)
    (h : answer action s = some (s', reply))
    (next : Reply action → Program Action Reply Failure A) :
    (act action next).settle answer hidden s = (next reply).settle answer hidden s' := by
  rw [settle, if_pos hHidden, h]

theorem settle_visible {hidden : Action → Bool} {action : Action} (s : State)
    (hVisible : hidden action = false)
    (next : Reply action → Program Action Reply Failure A) :
    (act action next).settle answer hidden s = (s, act action next) := by
  rw [settle, if_neg (by simp [hVisible])]

end Run

/-- Every action the program may come to perform is allowed and every result it
may return meets `post`, whatever its actions are answered. -/
def Uses (allowed : Action → Prop) (post : A → Prop) : Program Action Reply Failure A → Prop
  | done a => post a
  | fail _ => True
  | act action next => allowed action ∧ ∀ reply, (next reply).Uses allowed post

section Uses

variable {allowed : Action → Prop} {post : A → Prop}

theorem Uses.perform {action : Action} (h : allowed action) :
    (perform action : Program Action Reply Failure (Reply action)).Uses allowed fun _ => True :=
  ⟨h, fun _ => trivial⟩

theorem Uses.mono {allowed' : Action → Prop} {p : Program Action Reply Failure A}
    (hp : p.Uses allowed post) (h : ∀ action, allowed action → allowed' action) :
    p.Uses allowed' post := by
  induction p with
  | done a => exact hp
  | fail e => trivial
  | act action next ih => exact ⟨h action hp.1, fun reply => ih reply (hp.2 reply)⟩

theorem Uses.bind {post' : B → Prop} {p : Program Action Reply Failure A}
    {f : A → Program Action Reply Failure B} (hp : p.Uses allowed post)
    (hf : ∀ a, post a → (f a).Uses allowed post') : (p >>= f).Uses allowed post' := by
  induction p with
  | done a => exact hf a hp
  | fail e => trivial
  | act action next ih => exact ⟨hp.1, fun reply => ih reply (hp.2 reply)⟩

theorem Uses.seq {post' : B → Prop} {p : Program Action Reply Failure A}
    {f : A → Program Action Reply Failure B} (hp : p.Uses allowed fun _ => True)
    (hf : ∀ a, (f a).Uses allowed post') : (p >>= f).Uses allowed post' :=
  hp.bind fun a _ => hf a

theorem Uses.onFailure {p : Program Action Reply Failure A}
    {handler : Failure → Program Action Reply Failure A} (hp : p.Uses allowed post)
    (hHandler : ∀ e, (handler e).Uses allowed post) : (p.onFailure handler).Uses allowed post := by
  induction p with
  | done a => exact hp
  | fail e => exact hHandler e
  | act action next ih => exact ⟨hp.1, fun reply => ih reply (hp.2 reply)⟩

variable {answer : (action : Action) → State → Option (State × Reply action)}
  {inv : State → Prop}

/-- However a run ends, it keeps what all allowed actions keep. -/
theorem Uses.run {p : Program Action Reply Failure A} (hp : p.Uses allowed post)
    (hKeep : ∀ action s s' reply, allowed action → inv s →
      answer action s = some (s', reply) → inv s')
    {s : State} (h : inv s) : inv (p.run answer s).state := by
  induction p generalizing s with
  | done a => exact h
  | fail e => exact h
  | act action next ih =>
      rw [Program.run]
      cases hAnswer : answer action s with
      | none => exact h
      | some result =>
          exact ih result.2 (hp.2 result.2)
            (hKeep action s result.1 result.2 hp.1 h hAnswer)

/-- A run performs allowed actions only. -/
theorem Uses.trace {p : Program Action Reply Failure A} (hp : p.Uses allowed post) {s : State}
    {entry : Action × State} (h : entry ∈ p.trace answer s) : allowed entry.1 := by
  induction p generalizing s with
  | done a => cases h
  | fail e => cases h
  | act action next ih =>
      rw [Program.trace] at h
      rcases List.mem_cons.mp h with rfl | hLater
      · exact hp.1
      · cases hAnswer : answer action s with
        | none =>
            rw [hAnswer] at hLater
            cases hLater
        | some result =>
            rw [hAnswer] at hLater
            exact ih result.2 (hp.2 result.2) hLater

/-- A run that returns does so with a result of the promised kind. -/
theorem Uses.returned {p : Program Action Reply Failure A} (hp : p.Uses allowed post)
    {s s' : State} {a : A} (h : p.run answer s = .returned s' a) : post a := by
  induction p generalizing s with
  | done b =>
      cases h
      exact hp
  | fail e => cases h
  | act action next ih =>
      rw [Program.run] at h
      cases hAnswer : answer action s with
      | none =>
          rw [hAnswer] at h
          cases h
      | some result =>
          rw [hAnswer] at h
          exact ih result.2 (hp.2 result.2) h

variable (answer)

/-- Settling a program of hidden actions runs it; it is left at its end, or at
the action that blocks it. -/
theorem Uses.settle {hidden : Action → Bool} {p : Program Action Reply Failure A}
    (hp : p.Uses (fun action => hidden action = true) post) (s : State) :
    (p.settle answer hidden s).1 = (p.run answer s).state ∧
      ∀ action next, (p.settle answer hidden s).2 = act action next → hidden action = true := by
  induction p generalizing s with
  | done a => exact ⟨rfl, fun _ _ h => by cases h⟩
  | fail e => exact ⟨rfl, fun _ _ h => by cases h⟩
  | act action next ih =>
      rw [Program.settle, if_pos hp.1, Program.run]
      cases answer action s with
      | none =>
          refine ⟨rfl, fun _ _ h => ?_⟩
          cases h
          exact hp.1
      | some result => exact ih result.2 (hp.2 result.2) result.1

/-- Settling keeps what all allowed actions keep, and leaves allowed actions. -/
theorem Uses.settle_keep {p : Program Action Reply Failure A} (hp : p.Uses allowed post)
    (hKeep : ∀ action s s' reply, allowed action → inv s →
      answer action s = some (s', reply) → inv s')
    (hidden : Action → Bool) {s : State} (h : inv s) :
    inv (p.settle answer hidden s).1 ∧ (p.settle answer hidden s).2.Uses allowed post := by
  induction p generalizing s with
  | done a => exact ⟨h, hp⟩
  | fail e => exact ⟨h, hp⟩
  | act action next ih =>
      rw [Program.settle]
      split
      · cases hAnswer : answer action s with
        | none => exact ⟨h, hp⟩
        | some result =>
            exact ih result.2 (hp.2 result.2)
              (hKeep action s result.1 result.2 hp.1 h hAnswer)
      · exact ⟨h, hp⟩

/-- Settling past a program of hidden actions, with a handler around it and more
to do behind it. -/
theorem Uses.settle_guarded {hidden : Action → Bool} {p : Program Action Reply Failure A}
    (hp : p.Uses (fun action => hidden action = true) post)
    (f : A → Program Action Reply Failure B)
    (handler : Failure → Program Action Reply Failure B)
    (after : B → Program Action Reply Failure C) (s : State) :
    match p.run answer s with
    | .returned s' a =>
        ((p >>= f).onFailure handler >>= after).settle answer hidden s =
          ((f a).onFailure handler >>= after).settle answer hidden s'
    | .failed s' e =>
        ((p >>= f).onFailure handler >>= after).settle answer hidden s =
          (handler e >>= after).settle answer hidden s'
    | .blocked s' => ∃ action next,
        ((p >>= f).onFailure handler >>= after).settle answer hidden s = (s', act action next) ∧
          hidden action = true := by
  induction p generalizing s with
  | done a => rfl
  | fail e => rfl
  | act action next ih =>
      rw [Program.run, act_bind, onFailure_act, act_bind, Program.settle, if_pos hp.1]
      cases answer action s with
      | none => exact ⟨action, _, rfl, hp.1⟩
      | some result => exact ih result.2 (hp.2 result.2) result.1

end Uses

end Program

end Threads
