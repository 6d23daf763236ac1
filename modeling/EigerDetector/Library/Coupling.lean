import EigerDetector.Library.Program

/-! Two runs side by side. A relation between the states is carried through both
programs action by action, as long as they are answered alike. -/
namespace Threads

namespace Outcome

variable {State Failure Result : Type}

/-- Both runs ended in the same way and with the same result, in related states. -/
inductive Coupled (rel : State → State → Prop) :
    Outcome State Failure Result → Outcome State Failure Result → Prop where
  | returned {s t : State} (h : rel s t) (result : Result) :
      Coupled rel (.returned s result) (.returned t result)
  | failed {s t : State} (h : rel s t) (failure : Failure) :
      Coupled rel (.failed s failure) (.failed t failure)
  | blocked {s t : State} (h : rel s t) : Coupled rel (.blocked s) (.blocked t)

theorem Coupled.mono {rel rel' : State → State → Prop} {o o' : Outcome State Failure Result}
    (h : Coupled rel o o') (hWeaker : ∀ s t, rel s t → rel' s t) : Coupled rel' o o' := by
  cases h with
  | returned h result => exact .returned (hWeaker _ _ h) result
  | failed h failure => exact .failed (hWeaker _ _ h) failure
  | blocked h => exact .blocked (hWeaker _ _ h)

end Outcome

namespace Program

open Outcome

variable {Action : Type} {Reply : Action → Type} {Failure A B State : Type}
  (answer : (action : Action) → State → Option (State × Reply action))
  {rel rel' : State → State → Prop}

/-- The same action is answered alike in related states. -/
def AnswersAlike (rel : State → State → Prop) (action : Action) : Prop :=
  ∀ s t, rel s t → (answer action s = none ∧ answer action t = none) ∨
    ∃ s' t' reply, answer action s = some (s', reply) ∧ answer action t = some (t', reply) ∧
      rel s' t'

/-- The program cannot tell related states apart. -/
def Blind (rel : State → State → Prop) (p : Program Action Reply Failure A) : Prop :=
  ∀ s t, rel s t → Coupled rel (p.run answer s) (p.run answer t)

/-- Sequencing of coupled runs. What follows may rely on the result of the first. -/
theorem coupled_bind {p q : Program Action Reply Failure A}
    {f g : A → Program Action Reply Failure B} {s t : State}
    (h : Coupled rel (p.run answer s) (q.run answer t))
    (hStop : ∀ s' t', rel s' t' → rel' s' t')
    (hNext : ∀ a s' t', p.run answer s = .returned s' a → rel s' t' →
      Coupled rel' ((f a).run answer s') ((g a).run answer t')) :
    Coupled rel' ((p >>= f).run answer s) ((q >>= g).run answer t) := by
  rw [run_bind, run_bind]
  generalize hp : p.run answer s = left at h
  generalize q.run answer t = right at h
  cases h with
  | returned h a => exact hNext a _ _ hp h
  | failed h failure => exact .failed (hStop _ _ h) failure
  | blocked h => exact .blocked (hStop _ _ h)

/-- A handler that is coupled in itself keeps runs coupled. -/
theorem coupled_onFailure {p q : Program Action Reply Failure A}
    {handler : Failure → Program Action Reply Failure A} {s t : State}
    (h : Coupled rel (p.run answer s) (q.run answer t))
    (hHandler : ∀ e, Blind answer rel (handler e)) :
    Coupled rel ((p.onFailure handler).run answer s) ((q.onFailure handler).run answer t) := by
  rw [run_onFailure, run_onFailure]
  generalize p.run answer s = left at h
  generalize q.run answer t = right at h
  cases h with
  | returned h a => exact .returned h a
  | failed h failure => exact hHandler failure _ _ h
  | blocked h => exact .blocked h

theorem blind_done (a : A) :
    Blind answer rel (done a : Program Action Reply Failure A) := fun _ _ h => .returned h a

theorem blind_fail (e : Failure) :
    Blind answer rel (fail e : Program Action Reply Failure A) := fun _ _ h => .failed h e

theorem blind_perform {action : Action} (h : AnswersAlike answer rel action) :
    Blind answer rel (perform action : Program Action Reply Failure (Reply action)) := by
  intro s t hRel
  rcases h s t hRel with ⟨hs, ht⟩ | ⟨s', t', reply, hs, ht, hRel'⟩
  · rw [perform, run, run, hs, ht]
    exact .blocked hRel
  · rw [perform, run_act_some answer hs, run_act_some answer ht]
    exact .returned hRel' reply

variable {answer}

theorem Blind.bind {p : Program Action Reply Failure A}
    {f : A → Program Action Reply Failure B} (hp : Blind answer rel p)
    (hf : ∀ a, Blind answer rel (f a)) : Blind answer rel (p >>= f) :=
  fun s t h => coupled_bind answer (hp s t h) (fun _ _ h => h) fun a s' t' _ h => hf a s' t' h

end Program

end Threads
