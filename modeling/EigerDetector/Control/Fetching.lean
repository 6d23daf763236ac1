import EigerDetector.Control.Actions
import EigerDetector.Library.Tracking
import EigerDetector.Library.Transition

/-! One fetch of the stale parameters beside calls of `set_value`, which add to the list between
its two lock sections and after them. -/
namespace Eiger.Server

open Threads Transition
open Control (remainingStaleParameters)

/-- How far the fetch has come with its lock sections. What it has copied is recorded, and what
has been added since then, before the closing section and after it. -/
inductive LockSection where
  | before
  | between (previous added : List String)
  | after (added later : List String)

/-- A call adds to the list. -/
def LockSection.add (names : List String) : LockSection → LockSection
  | before => before
  | between previous added => between previous (added ++ names)
  | after added later => after added (later ++ names)

/-- The fetch copies the list, or removes what it has copied. -/
def LockSection.pass (stale : List String) (lock : LockSection) : Action → LockSection
  | .copyStaleParameters => between stale []
  | .removeStaleParameters _ =>
      match lock with
      | between _ added => after added []
      | lock => lock
  | _ => lock

structure Fetching where
  detector : EigerDetector
  rest : Code Unit
  lock : LockSection

inductive FetchEvent where
  | fetch (env : Environment)
  | setValue (names : List String)
  | outside (other : EigerDetector)

namespace Fetching

def initial (detector : EigerDetector) (blocking : Bool) (depth : Nat) : Fetching where
  detector := detector
  rest := fetchStaleParameters blocking depth
  lock := .before

/-- The next action of the fetch, in an environment of the moment. -/
def fetchStep (s : Fetching) (env : Environment) : Option Fetching :=
  match s.rest with
  | .act action next =>
      (answer env action s.detector).map fun (d, reply) =>
        ⟨d, next reply, s.lock.pass s.detector.staleParameters action⟩
  | _ => none

/-- The other threads change anything else at any moment. -/
def step (s : Fetching) : FetchEvent → Option Fetching
  | .fetch env => s.fetchStep env
  | .setValue names => some { s with
      detector := { s.detector with staleParameters := s.detector.staleParameters ++ names }
      lock := s.lock.add names }
  | .outside other => some { s with
      detector := { other with staleParameters := s.detector.staleParameters } }

end Fetching

/-- With nothing in the list the code comes to its end, and reads nothing. -/
def Ends (rest : Code Unit) : Prop :=
  ∀ (env : Environment) (d : EigerDetector), d.staleParameters = [] →
    rest.run (answer env) d = .returned d () ∧
      ∀ entry ∈ rest.trace (answer env) d, ∀ r, entry.1 ≠ .request r

/-- The promise: after the closing section the list is what has been added since the copy was
taken. If that is nothing, there is no further read. -/
def Fetching.Leaves (s : Fetching) : Prop :=
  match s.lock with
  | .after added later => s.detector.staleParameters = added ++ later ∧
      (added = [] → later = [] → Ends s.rest)
  | _ => True

/-- The loop takes out the copied entries, wherever the same names come again. -/
theorem remaining_of_perm {copied previous : List String} (h : copied.Perm previous)
    (added : List String) : remainingStaleParameters (copied ++ added) previous = added := by
  induction copied generalizing previous with
  | nil =>
      rw [List.nil_perm.mp h, List.nil_append]
      induction added with
      | nil => rfl
      | cons param added ih =>
          rw [remainingStaleParameters, if_neg List.not_mem_nil, ih]
  | cons param copied ih =>
      have hMember : param ∈ previous := h.subset List.mem_cons_self
      rw [List.cons_append, remainingStaleParameters, if_pos hMember]
      exact ih (List.cons_perm_iff_perm_erase.mp h).2

section Places

/-- Where the code of the fetch stands: in front of its first lock section, inside with a copy,
behind its closing section, or behind the test for more. -/
inductive Place where
  | outside
  | inside (previous : List String)
  | closed
  | ended

def Place.permits : Place → Action → Prop
  | outside, .copyStaleParameters => True
  | inside previous, .removeStaleParameters names => names = previous
  | inside _, .iterate _ | inside _, .request _ | inside _, .setattr _ _ => True
  | closed, .hasStaleParameters => True
  | _, _ => False

def Place.next (place : Place) : (action : Action) → action.Reply → Place
  | .copyStaleParameters, stale => inside stale
  | .removeStaleParameters _, _ => closed
  | .hasStaleParameters, stale => if stale then outside else ended
  | _, _ => place

def places : Tracker Action Action.Reply Place where
  permits := Place.permits
  follows place action reply place' := place' = place.next action reply

/-- The fetch is through, and has not failed. -/
def Place.Through (place : Place) : Prop := place = closed ∨ place = ended

/-- The code passes its lock sections in order, whatever replies come. -/
def Placed (place : Place) (rest : Code Unit) : Prop :=
  rest.Tracked places (fun place _ => place.Through) (fun place _ => ¬ place.Through) place

/-- Reads of parameters, and what stores them. -/
def Action.Reading : Action → Prop
  | .request _ | .setattr _ _ => True
  | _ => False

theorem uses_fetchParameter (cfg : String) :
    (fetchParameter cfg).Uses Action.Reading fun _ => True := by
  have hRead : ∀ uri, (readConfig uri cfg >>= fun param => setattr cfg param).Uses Action.Reading
      fun _ => True := by
    intro uri
    have hRequest : (request (.get uri cfg)).Uses Action.Reading fun _ => True :=
      uses_request trivial
    apply (hRequest.seq fun _ => uses_liftExcept _).seq
    exact fun _ => ⟨trivial, fun _ => trivial⟩
  rw [fetchParameter]
  split_ifs
  · exact hRead .detectorConfig
  · exact hRead .streamConfig
  · trivial

theorem uses_reading (cfgs : List String) :
    (fetchParameters cfgs).Uses Action.Reading fun _ => True := by
  induction cfgs with
  | nil => trivial
  | cons cfg cfgs ih => exact (uses_fetchParameter cfg).seq fun _ => ih

/-- The reads stay inside the lock sections. -/
theorem reading_placed (previous cfgs : List String) :
    (fetchParameters cfgs).Tracked places (fun place _ => place = .inside previous)
      (fun place _ => place = .inside previous) (.inside previous) := by
  have hTracked : (fetchParameters cfgs).Tracked places
      (fun place _ => .inside previous = place ∧ True) (fun place _ => .inside previous = place)
      (.inside previous) := by
    apply (uses_reading cfgs).tracked rfl
    · rintro _ action hReading rfl
      cases action with
      | request | setattr => trivial
      | _ => cases hReading
    · rintro _ action reply place hReading rfl hFollows
      cases action with
      | request | setattr => exact hFollows.symm
      | _ => cases hReading
  exact hTracked.mono (fun _ _ h => h.1.symm) fun _ _ h => h.symm

theorem placed_fetchStaleParameters (blocking : Bool) (depth : Nat) :
    Placed .outside (fetchStaleParameters blocking depth) := by
  have hOutside : ¬ Place.outside.Through := by simp [Place.Through]
  have hInside : ∀ previous, ¬ (Place.inside previous).Through := by simp [Place.Through]
  induction depth with
  | zero => exact hOutside
  | succ depth ih =>
      refine ⟨trivial, fun previous place hCopied => ?_⟩
      rw [hCopied]
      refine ⟨trivial, fun cfgs place hIterated => ?_⟩
      rw [hIterated]
      have hReading := (reading_placed previous cfgs).mono (fun _ _ h => h)
        fun place _ (h : place = .inside previous) => h ▸ hInside previous
      apply hReading.bind
      rintro _ _ rfl
      refine ⟨rfl, fun _ place hRemoved => ?_⟩
      rw [hRemoved]
      cases blocking with
      | false => exact Or.inl rfl
      | true =>
          refine ⟨trivial, fun stale place hTested => ?_⟩
          rw [hTested]
          cases stale with
          | false => exact Or.inr rfl
          | true => exact ih

/-- Behind the test nothing is left to do. -/
theorem Placed.ends_of_ended {rest : Code Unit} (h : Placed .ended rest) : Ends rest := by
  cases rest with
  | done _ => exact fun _ _ _ => ⟨rfl, by simp [Program.trace]⟩
  | fail e => exact absurd (Or.inr rfl) h
  | act action next => exact False.elim h.1

/-- Behind the closing section only the test is left, if the list is empty. -/
theorem Placed.ends_of_closed {rest : Code Unit} (h : Placed .closed rest) : Ends rest := by
  cases rest with
  | done _ => exact fun _ _ _ => ⟨rfl, by simp [Program.trace]⟩
  | fail e => exact absurd (Or.inl rfl) h
  | act action next =>
      cases action with
      | hasStaleParameters =>
          intro env d hEmpty
          have hAnswer : answer env .hasStaleParameters d = some (d, false) := by
            rw [answer, hEmpty]
            rfl
          have hEnded : Placed .ended (next false) := h.2 false _ rfl
          obtain ⟨hRun, hTrace⟩ := hEnded.ends_of_ended env d hEmpty
          rw [Program.run, Program.trace, hAnswer]
          refine ⟨hRun, ?_⟩
          intro entry hMember
          rcases List.mem_cons.mp hMember with rfl | hLater
          · simp
          · exact hTrace entry hLater
      | _ => exact False.elim h.1

end Places

/-- What the recorded lock sections say of the list, place by place. Between the sections the
copied entries are its front; behind the closing one they are gone. -/
def Place.Holds (lock : LockSection) (stale : List String) : Place → Prop
  | outside => lock = .before ∨
      ∃ added later, lock = .after added later ∧ stale = added ++ later ∧ stale ≠ []
  | inside previous => ∃ added, lock = .between previous added ∧ stale = previous ++ added
  | closed | ended => ∃ added later, lock = .after added later ∧ stale = added ++ later

/-- Adding to the list appends to the part which the calls have added so far. -/
theorem Place.Holds.add {lock : LockSection} {stale : List String} {place : Place}
    (h : place.Holds lock stale) (names : List String) :
    place.Holds (lock.add names) (stale ++ names) := by
  have hLater : (∃ added later, lock = .after added later ∧ stale = added ++ later) →
      ∃ added later, lock.add names = .after added later ∧ stale ++ names = added ++ later := by
    rintro ⟨added, later, rfl, rfl⟩
    exact ⟨added, later ++ names, rfl, List.append_assoc _ _ _⟩
  cases place with
  | outside =>
      rcases h with rfl | ⟨added, later, hLock, hStale, hSome⟩
      · exact Or.inl rfl
      · obtain ⟨added', later', hLock', hStale'⟩ := hLater ⟨added, later, hLock, hStale⟩
        exact Or.inr ⟨added', later', hLock', hStale', List.append_ne_nil_of_left_ne_nil hSome _⟩
  | inside previous =>
      obtain ⟨added, rfl, rfl⟩ := h
      exact ⟨added ++ names, rfl, List.append_assoc _ _ _⟩
  | closed => exact hLater h
  | ended => exact hLater h

/-- A lock section of the fetch, or an action between two of them, leads to the next place. -/
theorem Place.Holds.answer {env : Environment} {action : Action} {d d' : EigerDetector}
    {reply : action.Reply} {lock : LockSection} {place : Place}
    (h : place.Holds lock d.staleParameters) (hPermits : place.permits action)
    (hAnswer : answer env action d = some (d', reply)) :
    (place.next action reply).Holds (lock.pass d.staleParameters action) d'.staleParameters := by
  cases place with
  | outside =>
      cases action with
      | copyStaleParameters =>
          cases hAnswer
          exact ⟨[], rfl, (List.append_nil _).symm⟩
      | _ => cases hPermits
  | inside previous =>
      cases action with
      | removeStaleParameters names =>
          cases hPermits
          cases hAnswer
          obtain ⟨added, rfl, hStale⟩ := h
          refine ⟨added, [], rfl, ?_⟩
          rw [List.append_nil]
          simp only [hStale]
          exact remaining_of_perm (.refl _) added
      | iterate | request | setattr =>
          cases hAnswer
          exact h
      | _ => cases hPermits
  | closed =>
      cases action with
      | hasStaleParameters =>
          cases hAnswer
          obtain ⟨added, later, rfl, hStale⟩ := h
          by_cases hSome : d.staleParameters ≠ []
          · simp only [Place.next, decide_eq_true hSome, if_true]
            exact Or.inr ⟨added, later, rfl, hStale, hSome⟩
          · simp only [Place.next, decide_eq_false hSome, Bool.false_eq_true, if_false]
            exact ⟨added, later, rfl, hStale⟩
      | _ => cases hPermits
  | ended => cases action <;> cases hPermits

namespace Fetching

/-- The code stands at a place, and the list is as recorded. -/
def Kept (s : Fetching) : Prop :=
  ∃ place, Placed place s.rest ∧ place.Holds s.lock s.detector.staleParameters

theorem kept_initial (detector : EigerDetector) (blocking : Bool) (depth : Nat) :
    (initial detector blocking depth).Kept :=
  ⟨.outside, placed_fetchStaleParameters blocking depth, Or.inl rfl⟩

theorem Kept.step {s t : Fetching} {event : FetchEvent} (h : s.Kept)
    (hStep : s.step event = some t) : t.Kept := by
  obtain ⟨place, hPlaced, hHolds⟩ := h
  cases event with
  | fetch env =>
      obtain ⟨d, rest, lock⟩ := s
      cases rest with
      | done | fail => cases hStep
      | act action next =>
          obtain ⟨⟨d', reply⟩, hAnswer, hNext⟩ := Option.map_eq_some_iff.mp hStep
          subst hNext
          exact ⟨place.next action reply, hPlaced.2 reply _ rfl,
            hHolds.answer hPlaced.1 hAnswer⟩
  | setValue names =>
      cases hStep
      exact ⟨place, hPlaced, hHolds.add names⟩
  | outside other =>
      cases hStep
      exact ⟨place, hPlaced, hHolds⟩

theorem Kept.leaves {s : Fetching} (h : s.Kept) : s.Leaves := by
  obtain ⟨place, hPlaced, hHolds⟩ := h
  obtain ⟨d, rest, lock⟩ := s
  cases lock with
  | before | between => trivial
  | after added later =>
      have hAfter : ∀ {added' later' : List String} {stale : List String},
          LockSection.after added later = .after added' later' → stale = added' ++ later' →
          stale = added ++ later := by
        rintro _ _ _ ⟨⟩ hStale
        exact hStale
      cases place with
      | outside =>
          obtain hBefore | ⟨added', later', hLock, hStale, hSome⟩ := hHolds
          · cases hBefore
          · have hList := hAfter hLock hStale
            refine ⟨hList, ?_⟩
            rintro rfl rfl
            exact absurd hList hSome
      | inside previous =>
          obtain ⟨added', hLock, _⟩ := hHolds
          cases hLock
      | closed =>
          obtain ⟨added', later', hLock, hStale⟩ := hHolds
          exact ⟨hAfter hLock hStale, fun _ _ => hPlaced.ends_of_closed⟩
      | ended =>
          obtain ⟨added', later', hLock, hStale⟩ := hHolds
          exact ⟨hAfter hLock hStale, fun _ _ => hPlaced.ends_of_ended⟩

end Fetching

/-- Whatever is copied and whatever calls add meanwhile: the closing section of the fetch
leaves exactly what has been added between its sections, in its order, and with nothing added
the fetch reads nothing more and returns. -/
theorem fetch_leaves_added {d : EigerDetector} {blocking : Bool} {depth : Nat}
    {events : List FetchEvent} {s : Fetching}
    (hExec : exec Fetching.step (.initial d blocking depth) events = some s) : s.Leaves := by
  have run := run_always_iff.mpr hExec
  have hKept : s.Kept := run.invariant (Fetching.kept_initial d blocking depth)
    fun _ _ _ h _ hStep => Fetching.Kept.step h hStep
  exact hKept.leaves

/-- The copy holds a name twice, and a call adds the same name before the closing section. -/
def addedBetween : List FetchEvent :=
  let fetch := FetchEvent.fetch (.listing 1 [])
  [fetch, fetch, fetch, .setValue ["count_time", "frame_time"], fetch, fetch]

theorem addedBetween_leaves : ∃ s, exec Fetching.step
    (.initial (sampleServer ["count_time", "count_time"]) true 2) addedBetween = some s ∧
      s.lock = .after ["count_time", "frame_time"] [] ∧ s.Leaves := by
  have hExec : exec Fetching.step (.initial (sampleServer ["count_time", "count_time"]) true 2)
      addedBetween = some _ := rfl
  exact ⟨_, hExec, rfl, fetch_leaves_added hExec⟩

end Eiger.Server
