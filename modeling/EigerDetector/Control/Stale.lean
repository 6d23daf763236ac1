import EigerDetector.Library.Transition
import Mathlib.Data.List.Dedup
import Mathlib.Data.List.Perm.Basic
import Mathlib.Order.MinMax

/-! The list of stale parameters. Puts add to it; the status poller and the start of
an acquisition fetch what it holds and take that out again. -/
namespace Eiger.Control

open Transition

def DETECTOR_CONFIG : List String :=
  ["auto_summation", "beam_center_x", "beam_center_y", "bit_depth_image", "bit_depth_readout",
    "chi_increment", "chi_start", "compression", "count_time", "counting_mode",
    "countrate_correction_applied", "countrate_correction_count_cutoff", "data_collection_date",
    "description", "detector_distance", "detector_number", "detector_readout_time", "element",
    "flatfield_correction_applied", "frame_time", "kappa_increment", "kappa_start", "nimages",
    "ntrigger", "omega_increment", "omega_start", "phi_increment", "phi_start", "photon_energy",
    "pixel_mask_applied", "roi_mode", "sensor_material", "sensor_thickness", "software_version",
    "threshold_energy", "trigger_mode", "trigger_start_delay", "two_theta_increment",
    "two_theta_start", "wavelength", "x_pixel_size", "x_pixels_in_detector", "y_pixel_size",
    "y_pixels_in_detector"]

def STREAM_CONFIG : List String := ["mode", "header_detail", "header_appendix", "image_appendix"]

/-- The parameters which `fetch_stale_parameters` reads; it skips all others. -/
def Fetchable (param : String) : Prop := param ∈ DETECTOR_CONFIG ∨ param ∈ STREAM_CONFIG

instance (param : String) : Decidable (Fetchable param) :=
  inferInstanceAs (Decidable (_ ∨ _))

/-- A call of `fetch_stale_parameters`: its copy of the list, what of the set of it is
still to be iterated, and the value read but not stored yet. Beside the value stands
how often the parameter had been appended to the list when it was read. -/
structure Fetch (Value : Type) where
  previous : List String
  todo : List String
  param : Option (String × Value × Nat)

/-- The hardware, the attributes, the list, and the calls in progress: a put between
its write and its append, and fetches. Recorded beside them is whether the last change
in the hardware was by a put whose response listed the parameter, how often a parameter
has been appended, and how often it had been before the newest read stored. -/
structure EigerDetector (Value : Type) where
  hardware : String → Value
  attributes : String → Value
  staleParameters : List String
  puts : Nat → Option (List String)
  fetches : Nat → Option (Fetch Value)
  listed : String → Bool
  appended : String → Nat
  stored : String → Nat

/-- The closing section: remove the copied entries, each as often as it was copied. -/
def remainingStaleParameters : List String → List String → List String
  | [], _ => []
  | param :: stale, previous =>
      if param ∈ previous then remainingStaleParameters stale (previous.erase param)
      else param :: remainingStaleParameters stale previous

inductive StaleEvent (Value : Type) where
  | put (caller : Nat) (hardware : String → Value) (response : List String)
  | append (caller : Nat)
  | copy (caller : Nat) (order : List String)
  | read (caller : Nat)
  | store (caller : Nat)
  | close (caller : Nat)

namespace EigerDetector

variable {Value : Type} [DecidableEq Value]

/-- The hardware starts with any values, and so do the attributes. -/
def initial (hardware attributes : String → Value) : EigerDetector Value where
  hardware := hardware
  attributes := attributes
  staleParameters := []
  puts _ := none
  fetches _ := none
  listed _ := false
  appended _ := 0
  stored _ := 0

def step (s : EigerDetector Value) : StaleEvent Value → Option (EigerDetector Value)
  | .put i hardware response =>
      match s.puts i with
      | some _ => none
      | none => some { s with
          hardware := hardware
          puts := Function.update s.puts i (some response)
          listed := fun param =>
            if hardware param = s.hardware param then s.listed param
            else decide (param ∈ response) }
  | .append i =>
      match s.puts i with
      | none => none
      | some response => some { s with
          staleParameters := s.staleParameters ++ response
          puts := Function.update s.puts i none
          appended := fun param =>
            if param ∈ response then s.appended param + 1 else s.appended param }
  | .copy j order =>
      match s.fetches j with
      | some _ => none
      | none =>
          -- the iteration order of a set is any
          let fetch := some ⟨s.staleParameters, order, none⟩
          if order.Perm s.staleParameters.dedup then
            some { s with fetches := Function.update s.fetches j fetch }
          else none
  | .read j =>
      match s.fetches j with
      | some ⟨previous, cfg :: todo, none⟩ =>
          let param := if Fetchable cfg then some (cfg, s.hardware cfg, s.appended cfg) else none
          some { s with fetches := Function.update s.fetches j (some ⟨previous, todo, param⟩) }
      | _ => none
  | .store j =>
      match s.fetches j with
      | some ⟨previous, todo, some (cfg, param, appended)⟩ => some { s with
          attributes := Function.update s.attributes cfg param
          fetches := Function.update s.fetches j (some ⟨previous, todo, none⟩)
          stored := Function.update s.stored cfg (max (s.stored cfg) appended) }
      | _ => none
  | .close j =>
      match s.fetches j with
      | some ⟨previous, [], none⟩ => some { s with
          staleParameters := remainingStaleParameters s.staleParameters previous
          fetches := Function.update s.fetches j none }
      | _ => none

/-- No put and no fetch is in progress. -/
def Quiescent (s : EigerDetector Value) : Prop :=
  (∀ i, s.puts i = none) ∧ ∀ j, s.fetches j = none

/-- The promise: a parameter which a put has changed and listed stays in the list until
it is fetched, and an entry stays until a read made after it was appended is stored. -/
structure Coherent (s : EigerDetector Value) : Prop where
  quiescent : s.Quiescent → ∀ param, Fetchable param → param ≠ "mode" →
    s.hardware param ≠ s.attributes param → s.listed param = true → param ∈ s.staleParameters
  unread : ∀ param, Fetchable param → s.stored param < s.appended param →
    param ∈ s.staleParameters

/-- A fetch starts while no other one has any parameter of the list in its copy. -/
def Separate (s : EigerDetector Value) : StaleEvent Value → Prop
  | .copy _ _ => ∀ j f, s.fetches j = some f → ∀ param ∈ s.staleParameters, Fetchable param →
      param ∉ f.previous
  | _ => True

end EigerDetector

theorem remainingStaleParameters_count (param : String) (stale previous : List String) :
    (remainingStaleParameters stale previous).count param =
      stale.count param - previous.count param := by
  induction stale generalizing previous with
  | nil => simp [remainingStaleParameters]
  | cons first stale ih =>
      rw [remainingStaleParameters]
      split
      · next hMember =>
          rw [ih, List.count_cons, List.count_erase]
          have hPositive := List.count_pos_iff.mpr hMember
          by_cases hSame : first = param
          · subst hSame
            simp only [BEq.rfl, if_true]
            omega
          · have hOther : (first == param) = false := beq_false_of_ne hSame
            simp [hOther]
      · next hMember =>
          rw [List.count_cons, List.count_cons, ih]
          by_cases hSame : first = param
          · subst hSame
            rw [List.count_eq_zero_of_not_mem hMember]
            omega
          · have hOther : (first == param) = false := beq_false_of_ne hSame
            simp [hOther]

namespace EigerDetector

variable {Value : Type} {s s' : EigerDetector Value} {param : String}

/-- Some fetch has still to read the parameter, or to store what it read after the
last append. -/
def Refreshing (s : EigerDetector Value) (param : String) : Prop :=
  ∃ j f, s.fetches j = some f ∧
    (param ∈ f.todo ∨ ∃ value, f.param = some (param, value, s.appended param))

/-- The parameter is in the list more often than in the copy of any fetch. -/
def Kept (s : EigerDetector Value) (param : String) : Prop :=
  0 < s.staleParameters.count param ∧
    ∀ j f, s.fetches j = some f → f.previous.count param < s.staleParameters.count param

/-- At most one fetch holds the parameter in its copy, and the list holds it as often.
What has been appended since the newest read stored is going to be read, or stays in
the list whichever fetch ends. -/
structure Leased (s : EigerDetector Value) (param : String) : Prop where
  apart : ∀ j k f g, s.fetches j = some f → s.fetches k = some g →
    0 < f.previous.count param → 0 < g.previous.count param → j = k
  held : ∀ j f, s.fetches j = some f →
    f.previous.count param ≤ s.staleParameters.count param
  todo : ∀ j f, s.fetches j = some f → param ∈ f.todo → 0 < f.previous.count param
  bounded : s.stored param ≤ s.appended param
  reading : ∀ j f value n, s.fetches j = some f → f.param = some (param, value, n) →
    0 < f.previous.count param ∧ s.stored param ≤ n ∧ n ≤ s.appended param ∧
      (n < s.appended param → s.Kept param)
  unread : s.stored param < s.appended param → s.Refreshing param ∨ s.Kept param

theorem Leased.mem (h : s.Leased param) (hUnread : s.stored param < s.appended param) :
    param ∈ s.staleParameters := by
  rw [← List.count_pos_iff]
  rcases h.unread hUnread with ⟨j, f, hFetch, hTodo | ⟨value, hRead⟩⟩ | hKept
  · exact Nat.lt_of_lt_of_le (h.todo j f hFetch hTodo) (h.held j f hFetch)
  · exact Nat.lt_of_lt_of_le (h.reading j f value _ hFetch hRead).1 (h.held j f hFetch)
  · exact hKept.1

/-- A fetch goes on with its copy, and the list stays as it is. -/
theorem Leased.advance {j : Nat} {f f' : Fetch Value} (h : s.Leased param)
    (hFetch : s.fetches j = some f)
    (hFetches : s'.fetches = Function.update s.fetches j (some f'))
    (hPrevious : f'.previous = f.previous) (hStale : s'.staleParameters = s.staleParameters)
    (hAppended : s'.appended = s.appended) (hBounded : s'.stored param ≤ s.appended param)
    (hTodo : param ∈ f'.todo → param ∈ f.todo)
    (hReading : ∀ value n, f'.param = some (param, value, n) → 0 < f.previous.count param ∧
      s'.stored param ≤ n ∧ n ≤ s.appended param ∧ (n < s.appended param → s.Kept param))
    (hOthers : ∀ k g value n, k ≠ j → s.fetches k = some g → g.param = some (param, value, n) →
      s'.stored param ≤ n)
    (hUnread : s'.stored param < s.appended param →
      s.Kept param ∨ s'.Refreshing param) : s'.Leased param := by
  have hCases : ∀ k g, s'.fetches k = some g →
      (k = j ∧ g = f') ∨ (k ≠ j ∧ s.fetches k = some g) := by
    intro k g hGet
    rw [hFetches] at hGet
    by_cases hSame : k = j
    · rw [hSame, Function.update_self] at hGet
      exact .inl ⟨hSame, (Option.some.inj hGet).symm⟩
    · rw [Function.update_of_ne hSame] at hGet
      exact .inr ⟨hSame, hGet⟩
  -- every fetch has the copy of one that was there before
  have hOld : ∀ k g, s'.fetches k = some g → ∃ g', s.fetches k = some g' ∧
      g.previous = g'.previous := by
    intro k g hGet
    rcases hCases k g hGet with ⟨rfl, rfl⟩ | ⟨_, hGet⟩
    · exact ⟨f, hFetch, hPrevious⟩
    · exact ⟨g, hGet, rfl⟩
  have hKept : s.Kept param → s'.Kept param := by
    rintro ⟨hPositive, hBelow⟩
    rw [← hStale] at hPositive
    refine ⟨hPositive, fun k g hGet => ?_⟩
    obtain ⟨g', hGet', hSame⟩ := hOld k g hGet
    rw [hSame, hStale]
    exact hBelow k g' hGet'
  refine ⟨?_, ?_, ?_, ?_, ?_, ?_⟩
  · intro k l g g' hGet hGet'
    obtain ⟨_, hFirst, hSame⟩ := hOld k g hGet
    obtain ⟨_, hSecond, hSame'⟩ := hOld l g' hGet'
    rw [hSame, hSame']
    exact h.apart k l _ _ hFirst hSecond
  · intro k g hGet
    obtain ⟨g', hGet', hSame⟩ := hOld k g hGet
    rw [hSame, hStale]
    exact h.held k g' hGet'
  · intro k g hGet hMember
    rcases hCases k g hGet with ⟨rfl, rfl⟩ | ⟨_, hGet⟩
    · rw [hPrevious]
      exact h.todo k f hFetch (hTodo hMember)
    · exact h.todo k g hGet hMember
  · rw [hAppended]
    exact hBounded
  · intro k g value n hGet hRead
    rw [hAppended]
    rcases hCases k g hGet with ⟨rfl, rfl⟩ | ⟨hNe, hGet⟩
    · obtain ⟨hCopied, hLower, hUpper, hLess⟩ := hReading value n hRead
      rw [hPrevious]
      exact ⟨hCopied, hLower, hUpper, fun hN => hKept (hLess hN)⟩
    · obtain ⟨hCopied, _, hUpper, hLess⟩ := h.reading k g value n hGet hRead
      exact ⟨hCopied, hOthers k g value n hNe hGet hRead, hUpper, fun hN => hKept (hLess hN)⟩
  · intro hLess
    rw [hAppended] at hLess
    rcases hUnread hLess with hStays | hRefreshing
    · exact .inr (hKept hStays)
    · exact .inl hRefreshing

variable [DecidableEq Value]

theorem Leased.put {i : Nat} {hardware : String → Value} {response : List String}
    (h : s.Leased param) (hStep : s.step (.put i hardware response) = some s') :
    s'.Leased param := by
  rw [step] at hStep
  split at hStep
  · cases hStep
  · cases hStep
    exact ⟨h.apart, h.held, h.todo, h.bounded, h.reading, h.unread⟩

/-- An entry appended is one more than any copy holds. -/
theorem Leased.append {i : Nat} (h : s.Leased param)
    (hStep : s.step (.append i) = some s') : s'.Leased param := by
  rw [step] at hStep
  split at hStep
  · cases hStep
  · next response hPut =>
      have hCount : (s.staleParameters ++ response).count param =
          s.staleParameters.count param + response.count param := List.count_append
      have hFetches : s'.fetches = s.fetches := by cases hStep; rfl
      have hStale : s'.staleParameters = s.staleParameters ++ response := by cases hStep; rfl
      have hStored : s'.stored = s.stored := by cases hStep; rfl
      have hAppended : s'.appended param =
          if param ∈ response then s.appended param + 1 else s.appended param := by
        cases hStep
        rfl
      have hMore : s.Kept param → s'.Kept param := by
        rintro ⟨hPositive, hBelow⟩
        refine ⟨by rw [hStale, hCount]; omega, fun j f hFetch => ?_⟩
        rw [hFetches] at hFetch
        have hOld := hBelow j f hFetch
        rw [hStale, hCount]
        omega
      have hNew : param ∈ response → s'.Kept param := by
        intro hMember
        have hPositive := List.count_pos_iff.mpr hMember
        refine ⟨by rw [hStale, hCount]; omega, fun j f hFetch => ?_⟩
        rw [hFetches] at hFetch
        have hOld := h.held j f hFetch
        rw [hStale, hCount]
        omega
      refine ⟨?_, ?_, ?_, ?_, ?_, ?_⟩
      · rw [hFetches]
        exact h.apart
      · intro j f hFetch
        rw [hFetches] at hFetch
        have hOld := h.held j f hFetch
        rw [hStale, hCount]
        omega
      · rw [hFetches]
        exact h.todo
      · have hBounded := h.bounded
        rw [hStored, hAppended]
        split <;> omega
      · intro j f value n hFetch hRead
        rw [hFetches] at hFetch
        obtain ⟨hCopied, hLower, hUpper, hKept⟩ := h.reading j f value n hFetch hRead
        rw [hStored, hAppended]
        split
        · next hMember => exact ⟨hCopied, hLower, by omega, fun _ => hNew hMember⟩
        · exact ⟨hCopied, hLower, hUpper, fun hLess => hMore (hKept hLess)⟩
      · intro hUnread
        rw [hStored, hAppended] at hUnread
        split at hUnread
        · next hMember => exact .inr (hNew hMember)
        · next hMember =>
            rcases h.unread hUnread with ⟨j, f, hFetch, hRest⟩ | hKept
            · refine .inl ⟨j, f, ?_, ?_⟩
              · rw [hFetches]
                exact hFetch
              · rw [hAppended, if_neg hMember]
                exact hRest
            · exact .inr (hMore hKept)

theorem Leased.read {j : Nat} (h : s.Leased param) (hParam : Fetchable param)
    (hStep : s.step (.read j) = some s') : s'.Leased param := by
  rw [step] at hStep
  split at hStep
  · next previous cfg todo hFetch =>
      have hTodo : param = cfg → 0 < previous.count param := fun hSame =>
        h.todo j _ hFetch (hSame ▸ List.mem_cons_self)
      cases hStep
      refine h.advance hFetch rfl rfl rfl rfl h.bounded (List.mem_cons_of_mem _) ?_ ?_ ?_
      · intro value n hRead
        have hRead : (if Fetchable cfg then some (cfg, s.hardware cfg, s.appended cfg) else none) =
            some (param, value, n) := hRead
        split at hRead
        · cases hRead
          exact ⟨hTodo rfl, h.bounded, le_rfl, fun hLess => absurd hLess (lt_irrefl _)⟩
        · cases hRead
      · intro k g value n _ hGet hRead
        exact (h.reading k g value n hGet hRead).2.1
      · intro hUnread
        rcases h.unread hUnread with ⟨k, g, hGet, hRest⟩ | hKept
        · right
          by_cases hSame : k = j
          · subst hSame
            cases hFetch.symm.trans hGet
            refine ⟨k, _, Function.update_self .., ?_⟩
            rcases hRest with hMember | ⟨_, hNone⟩
            · rcases List.mem_cons.mp hMember with rfl | hMember
              · exact .inr ⟨_, if_pos hParam⟩
              · exact .inl hMember
            · cases hNone
          · refine ⟨k, g, ?_, hRest⟩
            exact (Function.update_of_ne hSame ..).trans hGet
        · exact .inl hKept
  · cases hStep

/-- What is stored was read by the only fetch that had the parameter. -/
theorem Leased.store {j : Nat} (h : s.Leased param)
    (hStep : s.step (.store j) = some s') : s'.Leased param := by
  rw [step] at hStep
  split at hStep
  · next previous todo cfg value n hFetch =>
      cases hStep
      by_cases hSame : param = cfg
      · subst hSame
        obtain ⟨hCopied, hLower, hUpper, hKept⟩ := h.reading j _ value n hFetch rfl
        have hStored : Function.update s.stored param (max (s.stored param) n) param = n := by
          rw [Function.update_self, max_eq_right hLower]
        refine h.advance hFetch rfl rfl rfl rfl ?_ id nofun ?_ ?_
        · exact hStored.le.trans hUpper
        · intro k g value' n' hNe hGet hRead
          have hOther := (h.reading k g value' n' hGet hRead).1
          exact absurd (h.apart k j g _ hGet hFetch hOther hCopied) hNe
        · intro hUnread
          exact .inl (hKept (hStored.symm.trans_lt hUnread))
      · have hStored : Function.update s.stored cfg (max (s.stored cfg) n) param =
            s.stored param := Function.update_of_ne hSame ..
        refine h.advance hFetch rfl rfl rfl rfl ?_ id nofun ?_ ?_
        · exact hStored.le.trans h.bounded
        · intro k g value' n' _ hGet hRead
          exact hStored.le.trans (h.reading k g value' n' hGet hRead).2.1
        · intro hUnread
          rcases h.unread (hStored.symm.trans_lt hUnread) with ⟨k, g, hGet, hRest⟩ | hKept
          · right
            by_cases hIndex : k = j
            · subst hIndex
              cases hFetch.symm.trans hGet
              refine ⟨k, _, Function.update_self .., ?_⟩
              rcases hRest with hMember | ⟨_, hRead⟩
              · exact .inl hMember
              · cases hRead
                exact absurd rfl hSame
            · exact ⟨k, g, (Function.update_of_ne hIndex ..).trans hGet, hRest⟩
          · exact .inl hKept
  · cases hStep

/-- The copy of a fetch shares no parameter with the others. -/
theorem Leased.copy {j : Nat} {order : List String} (h : s.Leased param)
    (hParam : Fetchable param) (hSeparate : s.Separate (.copy j order))
    (hStep : s.step (.copy j order) = some s') : s'.Leased param := by
  rw [step] at hStep
  split at hStep
  · cases hStep
  · next hNone =>
      split at hStep
      · next hOrder =>
          cases hStep
          have hAlone : 0 < s.staleParameters.count param → ∀ k g, s.fetches k = some g →
              ¬ 0 < g.previous.count param := by
            intro hStale k g hGet hCopied
            exact hSeparate k g hGet param (List.count_pos_iff.mp hStale) hParam
              (List.count_pos_iff.mp hCopied)
          have hCases : ∀ k g, Function.update s.fetches j
              (some ⟨s.staleParameters, order, none⟩) k = some g →
              (k = j ∧ g = ⟨s.staleParameters, order, none⟩) ∨ s.fetches k = some g := by
            intro k g hGet
            by_cases hSame : k = j
            · rw [hSame, Function.update_self] at hGet
              exact .inl ⟨hSame, (Option.some.inj hGet).symm⟩
            · rw [Function.update_of_ne hSame] at hGet
              exact .inr hGet
          have hOrdered : param ∈ order ↔ param ∈ s.staleParameters := by
            rw [hOrder.mem_iff, List.mem_dedup]
          refine ⟨?_, ?_, ?_, h.bounded, ?_, ?_⟩
          · intro k l g g' hGet hGet' hCopied hCopied'
            rcases hCases k g hGet with ⟨rfl, rfl⟩ | hBefore
            · rcases hCases l g' hGet' with ⟨rfl, rfl⟩ | hGet'
              · rfl
              · exact absurd hCopied' (hAlone hCopied l g' hGet')
            · rcases hCases l g' hGet' with ⟨rfl, rfl⟩ | hGet'
              · exact absurd hCopied (hAlone hCopied' k g hBefore)
              · exact h.apart k l g g' hBefore hGet' hCopied hCopied'
          · intro k g hGet
            rcases hCases k g hGet with ⟨rfl, rfl⟩ | hGet
            · exact le_rfl
            · exact h.held k g hGet
          · intro k g hGet hTodo
            rcases hCases k g hGet with ⟨rfl, rfl⟩ | hGet
            · exact List.count_pos_iff.mpr (hOrdered.mp hTodo)
            · exact h.todo k g hGet hTodo
          · intro k g value n hGet hRead
            rcases hCases k g hGet with ⟨rfl, rfl⟩ | hGet
            · cases hRead
            · obtain ⟨hCopied, hLower, hUpper, hKept⟩ := h.reading k g value n hGet hRead
              refine ⟨hCopied, hLower, hUpper, fun hLess => ?_⟩
              exact absurd hCopied (hAlone (hKept hLess).1 k g hGet)
          · intro hUnread
            rcases h.unread hUnread with ⟨k, g, hGet, hRest⟩ | hKept
            · have hOther : k ≠ j := by
                rintro rfl
                cases hNone.symm.trans hGet
              exact .inl ⟨k, g, (Function.update_of_ne hOther ..).trans hGet, hRest⟩
            · have hMember := List.count_pos_iff.mp hKept.1
              exact .inl ⟨j, _, Function.update_self .., .inl (hOrdered.mpr hMember)⟩
      · cases hStep

/-- A fetch which ends takes out what it copied, and no entry that came later. -/
theorem Leased.close {j : Nat} (h : s.Leased param) (hStep : s.step (.close j) = some s') :
    s'.Leased param := by
  rw [step] at hStep
  split at hStep
  · next previous hFetch =>
      have hCount := remainingStaleParameters_count param s.staleParameters previous
      have hFetches : ∀ k g, s'.fetches k = some g → k ≠ j ∧ s.fetches k = some g := by
        intro k g hGet
        cases hStep
        by_cases hSame : k = j
        · subst hSame
          cases (Function.update_self ..).symm.trans hGet
        · exact ⟨hSame, (Function.update_of_ne hSame ..).symm.trans hGet⟩
      have hStale : s'.staleParameters.count param =
          s.staleParameters.count param - previous.count param := by
        cases hStep
        exact hCount
      have hStored : s'.stored = s.stored := by cases hStep; rfl
      have hAppended : s'.appended = s.appended := by cases hStep; rfl
      -- the entries of another fetch are not among those taken out
      have hOther : ∀ k g, k ≠ j → s.fetches k = some g → 0 < g.previous.count param →
          previous.count param = 0 := by
        intro k g hNe hGet hCopied
        by_contra hPositive
        exact hNe (h.apart k j g _ hGet hFetch hCopied (Nat.pos_of_ne_zero hPositive))
      have hKept : s.Kept param → s'.Kept param := by
        rintro ⟨hPositive, hBelow⟩
        have hMine : previous.count param < _ := hBelow j _ hFetch
        refine ⟨by omega, fun k g hGet => ?_⟩
        obtain ⟨hNe, hGet⟩ := hFetches k g hGet
        have hTheirs := hBelow k g hGet
        have hZero := hOther k g hNe hGet
        omega
      refine ⟨?_, ?_, ?_, ?_, ?_, ?_⟩
      · intro k l g g' hGet hGet'
        exact h.apart k l g g' (hFetches k g hGet).2 (hFetches l g' hGet').2
      · intro k g hGet
        obtain ⟨hNe, hGet⟩ := hFetches k g hGet
        have hTheirs := h.held k g hGet
        have hZero := hOther k g hNe hGet
        omega
      · intro k g hGet
        exact h.todo k g (hFetches k g hGet).2
      · rw [hStored, hAppended]
        exact h.bounded
      · intro k g value n hGet hRead
        rw [hStored, hAppended]
        obtain ⟨hCopied, hLower, hUpper, hLess⟩ :=
          h.reading k g value n (hFetches k g hGet).2 hRead
        exact ⟨hCopied, hLower, hUpper, fun hN => hKept (hLess hN)⟩
      · intro hUnread
        rw [hStored, hAppended] at hUnread
        rcases h.unread hUnread with ⟨k, g, hGet, hRest⟩ | hStays
        · have hNe : k ≠ j := by
            rintro rfl
            cases hFetch.symm.trans hGet
            rcases hRest with hMember | ⟨_, hNone⟩
            · cases hMember
            · cases hNone
          refine .inl ⟨k, g, ?_, ?_⟩
          · cases hStep
            exact (Function.update_of_ne hNe ..).trans hGet
          · rw [hAppended]
            exact hRest
        · exact .inr (hKept hStays)
  · cases hStep

theorem Leased.step {event : StaleEvent Value} (h : s.Leased param) (hParam : Fetchable param)
    (hSeparate : s.Separate event) (hStep : s.step event = some s') : s'.Leased param := by
  cases event with
  | put i hardware response => exact h.put hStep
  | append i => exact h.append hStep
  | copy j order => exact h.copy hParam hSeparate hStep
  | read j => exact h.read hParam hStep
  | store j => exact h.store hStep
  | close j => exact h.close hStep

/-- A put has changed the hardware and has still to append the parameter. -/
def Pending (s : EigerDetector Value) (param : String) : Prop :=
  ∃ i response, s.puts i = some response ∧ param ∈ response

/-- An attribute, or a value about to become one, differs from the hardware because of a
listed change only if the parameter has been appended since it was read, or will be. -/
structure Tracked (s : EigerDetector Value) (param : String) : Prop where
  cached : s.hardware param ≠ s.attributes param → s.listed param = true →
    s.Pending param ∨ s.stored param < s.appended param
  reading : ∀ j f value n, s.fetches j = some f → f.param = some (param, value, n) →
    s.hardware param ≠ value → s.listed param = true → s.Pending param ∨ n < s.appended param

theorem Tracked.put {i : Nat} {hardware : String → Value} {response : List String}
    (h : s.Tracked param) (hStep : s.step (.put i hardware response) = some s') :
    s'.Tracked param := by
  rw [EigerDetector.step] at hStep
  split at hStep
  · cases hStep
  · next hNone =>
      have hMore : s.Pending param → s'.Pending param := by
        rintro ⟨k, r, hGet, hMember⟩
        have hOther : k ≠ i := by
          rintro rfl
          cases hNone.symm.trans hGet
        cases hStep
        exact ⟨k, r, (Function.update_of_ne hOther ..).trans hGet, hMember⟩
      -- a new value in the hardware, listed: the append is still to come
      have hNew : hardware param ≠ s.hardware param → s'.listed param = true →
          s'.Pending param := by
        intro hChanged hListed
        cases hStep
        have hMember : param ∈ response := of_decide_eq_true ((if_neg hChanged).symm.trans hListed)
        exact ⟨i, response, Function.update_self .., hMember⟩
      have hOld : hardware param = s.hardware param → s'.listed param = s.listed param := by
        intro hSame
        cases hStep
        exact if_pos hSame
      have hHardware : s'.hardware = hardware := by cases hStep; rfl
      have hAttributes : s'.attributes = s.attributes := by cases hStep; rfl
      have hFetches : s'.fetches = s.fetches := by cases hStep; rfl
      have hStored : s'.stored = s.stored := by cases hStep; rfl
      have hAppended : s'.appended = s.appended := by cases hStep; rfl
      by_cases hChanged : hardware param = s.hardware param
      · refine ⟨?_, ?_⟩
        · rw [hHardware, hAttributes, hStored, hAppended, hChanged, hOld hChanged]
          exact fun hNe hListed => (h.cached hNe hListed).imp_left hMore
        · rw [hHardware, hFetches, hAppended, hChanged, hOld hChanged]
          exact fun j f value n hGet hRead hNe hListed =>
            (h.reading j f value n hGet hRead hNe hListed).imp_left hMore
      · exact ⟨fun _ hListed => .inl (hNew hChanged hListed),
          fun _ _ _ _ _ _ _ hListed => .inl (hNew hChanged hListed)⟩

theorem Tracked.append {i : Nat} (h : s.Tracked param) (hLeased : s.Leased param)
    (hStep : s.step (.append i) = some s') : s'.Tracked param := by
  rw [EigerDetector.step] at hStep
  split at hStep
  · cases hStep
  · next response hPut =>
      have hAppended : s'.appended param =
          if param ∈ response then s.appended param + 1 else s.appended param := by
        cases hStep
        rfl
      -- either this was the append to come, or it is still to come
      have hPending : s.Pending param →
          s'.Pending param ∨ s.appended param < s'.appended param := by
        rintro ⟨k, r, hGet, hMember⟩
        by_cases hSame : k = i
        · subst hSame
          cases hPut.symm.trans hGet
          right
          rw [hAppended, if_pos hMember]
          exact Nat.lt_succ_self _
        · left
          cases hStep
          exact ⟨k, r, (Function.update_of_ne hSame ..).trans hGet, hMember⟩
      have hMore : s.appended param ≤ s'.appended param := by
        rw [hAppended]
        split <;> omega
      have hFetches : s'.fetches = s.fetches := by cases hStep; rfl
      have hStored : s'.stored = s.stored := by cases hStep; rfl
      have hListed : s'.listed = s.listed := by cases hStep; rfl
      have hHardware : s'.hardware = s.hardware := by cases hStep; rfl
      have hAttributes : s'.attributes = s.attributes := by cases hStep; rfl
      have hBounded := hLeased.bounded
      refine ⟨?_, ?_⟩
      · rw [hHardware, hAttributes, hListed, hStored]
        intro hNe hIs
        rcases h.cached hNe hIs with hWaits | hLess
        · exact (hPending hWaits).imp_right fun hNow => by omega
        · exact .inr (by omega)
      · rw [hHardware, hFetches, hListed]
        intro j f value n hGet hRead hNe hIs
        have hUpper := (hLeased.reading j f value n hGet hRead).2.2.1
        rcases h.reading j f value n hGet hRead hNe hIs with hWaits | hLess
        · exact (hPending hWaits).imp_right fun hNow => by omega
        · exact .inr (by omega)

omit [DecidableEq Value] in
/-- A fetch whose value is not one read before has nothing to answer for. -/
theorem Tracked.advance {j : Nat} {f' : Option (Fetch Value)} (h : s.Tracked param)
    (hFetches : s'.fetches = Function.update s.fetches j f')
    (hHardware : s'.hardware = s.hardware) (hListed : s'.listed = s.listed)
    (hPuts : s'.puts = s.puts) (hAppended : s'.appended = s.appended)
    (hCached : s.hardware param ≠ s'.attributes param → s.listed param = true →
      s.Pending param ∨ s'.stored param < s.appended param)
    (hReading : ∀ f value n, f' = some f → f.param = some (param, value, n) →
      s.hardware param = value) : s'.Tracked param := by
  have hPending : s.Pending param → s'.Pending param := by
    rintro ⟨i, response, hGet, hMember⟩
    refine ⟨i, response, ?_, hMember⟩
    rw [hPuts]
    exact hGet
  refine ⟨?_, ?_⟩
  · rw [hHardware, hListed, hAppended]
    exact fun hNe hIs => (hCached hNe hIs).imp_left hPending
  · rw [hHardware, hListed, hAppended, hFetches]
    intro k g value n hGet hRead hNe hIs
    by_cases hSame : k = j
    · rw [hSame, Function.update_self] at hGet
      exact absurd (hReading g value n hGet hRead) hNe
    · rw [Function.update_of_ne hSame] at hGet
      exact (h.reading k g value n hGet hRead hNe hIs).imp_left hPending

theorem Tracked.store {j : Nat} (h : s.Tracked param) (hLeased : s.Leased param)
    (hStep : s.step (.store j) = some s') : s'.Tracked param := by
  rw [EigerDetector.step] at hStep
  split at hStep
  · next previous todo cfg value n hFetch =>
      have hAttributes : s'.attributes = Function.update s.attributes cfg value := by
        cases hStep
        rfl
      have hStored : s'.stored = Function.update s.stored cfg (max (s.stored cfg) n) := by
        cases hStep
        rfl
      have hCached : s.hardware param ≠ s'.attributes param → s.listed param = true →
          s.Pending param ∨ s'.stored param < s.appended param := by
        rw [hAttributes, hStored]
        by_cases hSame : param = cfg
        · subst hSame
          have hLower := (hLeased.reading j _ value n hFetch rfl).2.1
          rw [Function.update_self, Function.update_self, max_eq_right hLower]
          exact h.reading j _ value n hFetch rfl
        · rw [Function.update_of_ne hSame, Function.update_of_ne hSame]
          exact h.cached
      cases hStep
      refine h.advance rfl rfl rfl rfl rfl hCached ?_
      intro f value' n' hSome hRead
      cases hSome
      cases hRead
  · cases hStep

theorem Tracked.step {event : StaleEvent Value} (h : s.Tracked param) (hLeased : s.Leased param)
    (hStep : s.step event = some s') : s'.Tracked param := by
  cases event with
  | put i hardware response => exact h.put hStep
  | append i => exact h.append hLeased hStep
  | copy j order =>
      rw [EigerDetector.step] at hStep
      split at hStep
      · cases hStep
      · split at hStep
        · cases hStep
          refine h.advance rfl rfl rfl rfl rfl h.cached ?_
          intro f value n hSome hRead
          cases hSome
          cases hRead
        · cases hStep
  | read j =>
      rw [EigerDetector.step] at hStep
      split at hStep
      · next previous cfg todo hFetch =>
          cases hStep
          refine h.advance rfl rfl rfl rfl rfl h.cached ?_
          intro f value n hSome hRead
          cases hSome
          have hRead : (if Fetchable cfg then some (cfg, s.hardware cfg, s.appended cfg)
              else none) = some (param, value, n) := hRead
          split at hRead
          · cases hRead
            rfl
          · cases hRead
      · cases hStep
  | store j => exact h.store hLeased hStep
  | close j =>
      rw [EigerDetector.step] at hStep
      split at hStep
      · cases hStep
        exact h.advance rfl rfl rfl rfl rfl h.cached nofun
      · cases hStep

omit [DecidableEq Value] in
theorem initial_leased (hardware attributes : String → Value) (param : String) :
    (initial hardware attributes).Leased param :=
  ⟨nofun, nofun, nofun, le_rfl, nofun, fun hLess => absurd hLess (lt_irrefl 0)⟩

omit [DecidableEq Value] in
theorem initial_tracked (hardware attributes : String → Value) (param : String) :
    (initial hardware attributes).Tracked param :=
  ⟨fun _ hListed => (nomatch hListed), nofun⟩

omit [DecidableEq Value] in
theorem coherent_of_tracked (h : ∀ param, Fetchable param → s.Leased param ∧ s.Tracked param) :
    s.Coherent where
  quiescent := by
    rintro ⟨hPuts, _⟩ param hParam _ hNe hListed
    obtain ⟨hLeased, hTracked⟩ := h param hParam
    rcases hTracked.cached hNe hListed with ⟨i, response, hGet, _⟩ | hUnread
    · cases (hPuts i).symm.trans hGet
    · exact hLeased.mem hUnread
  unread param hParam hUnread := (h param hParam).1.mem hUnread

end EigerDetector

open EigerDetector

/-- In a run whose fetches do not overlap, the list never loses a parameter that the
hardware has changed. -/
theorem coherent_of_separate {Value : Type} [DecidableEq Value]
    {hardware attributes : String → Value} {events : List (StaleEvent Value)}
    {s : EigerDetector Value}
    (hRun : Run EigerDetector.step Separate (.initial hardware attributes) events s) :
    s.Coherent := by
  refine coherent_of_tracked fun param hParam => ?_
  let inv : EigerDetector Value → Prop := fun s => s.Leased param ∧ s.Tracked param
  have hInit : inv (.initial hardware attributes) := ⟨initial_leased .., initial_tracked ..⟩
  refine hRun.invariant hInit ?_
  rintro s event t ⟨hLeased, hTracked⟩ hSeparate hStep
  exact ⟨hLeased.step hParam hSeparate hStep, hTracked.step hLeased hStep⟩

/-- A parameter is put twice, and fetched after each put. -/
def undisturbed : List (StaleEvent Nat) :=
  [.put 0 (fun _ => 1) ["count_time"], .append 0, .copy 0 ["count_time"], .read 0, .store 0,
    .close 0, .put 1 (fun _ => 2) ["count_time"], .append 1, .copy 1 ["count_time"], .read 1,
    .store 1, .close 1]

theorem undisturbed_run : ∃ s : EigerDetector Nat,
    Run EigerDetector.step Separate (.initial (fun _ => 0) fun _ => 0) undisturbed s ∧
      s.attributes "count_time" = 2 ∧ s.staleParameters = [] := by
  refine ⟨_, .cons trivial rfl (.cons trivial rfl (.cons nofun rfl (.cons trivial rfl
    (.cons trivial rfl (.cons trivial rfl (.cons trivial rfl (.cons trivial rfl (.cons ?_ rfl
      (.cons trivial rfl (.cons trivial rfl (.cons trivial rfl (.nil _)))))))))))), rfl, rfl⟩
  rintro (_ | j) f hFetch <;> cases hFetch

theorem undisturbed_coherent : ∃ s : EigerDetector Nat,
    Run EigerDetector.step Separate (.initial (fun _ => 0) fun _ => 0) undisturbed s ∧
      s.attributes "count_time" = 2 ∧ s.staleParameters = [] ∧ s.Coherent := by
  obtain ⟨s, hRun, hAttribute, hEmpty⟩ := undisturbed_run
  exact ⟨s, hRun, hAttribute, hEmpty, coherent_of_separate hRun⟩

/-- Two fetches copy the same entry. A put comes between the read and the store of the
second one, whose end then takes out the new entry. -/
def lostUpdate : List (StaleEvent Nat) :=
  [.put 0 (fun _ => 1) ["count_time"], .append 0, .copy 0 ["count_time"], .copy 1 ["count_time"],
    .read 0, .read 1, .store 0, .close 0, .put 0 (fun _ => 2) ["count_time"], .append 0,
    .store 1, .close 1]

theorem lostUpdate_lost : ∃ s : EigerDetector Nat,
    exec EigerDetector.step (.initial (fun _ => 0) fun _ => 0) lostUpdate = some s ∧
      s.Quiescent ∧ s.hardware "count_time" = 2 ∧ s.attributes "count_time" = 1 ∧
      s.listed "count_time" = true ∧ s.staleParameters = [] := by
  refine ⟨_, rfl, ⟨?_, ?_⟩, rfl, rfl, rfl, rfl⟩
  · rintro (_ | i) <;> rfl
  · rintro (_ | _ | j) <;> rfl

theorem stale_parameters_not_coherent :
    ¬ ∀ (hardware attributes : String → Nat) (events : List (StaleEvent Nat))
      (s : EigerDetector Nat),
      exec EigerDetector.step (.initial hardware attributes) events = some s → s.Coherent := by
  intro hClaim
  obtain ⟨s, hExec, hQuiescent, hHardware, hAttribute, hListed, hStale⟩ := lostUpdate_lost
  have hDiffers : s.hardware "count_time" ≠ s.attributes "count_time" := by
    rw [hHardware, hAttribute]
    decide
  have hMember := (hClaim _ _ _ s hExec).quiescent hQuiescent "count_time" (by decide)
    (by decide) hDiffers hListed
  rw [hStale] at hMember
  cases hMember

end Eiger.Control
