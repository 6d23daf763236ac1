import EigerDetector.Control.Detector

/-! A refresh of the stale parameters that nothing interferes with: which reads it comes to,
and what is stored of them. -/
namespace Eiger.Server

open Threads
open Control (DETECTOR_CONFIG STREAM_CONFIG Fetchable remainingStaleParameters)

/-- What a read of a config item gives or raises. -/
def Environment.read (env : Environment) (log : List Request) (uri : Uri) (item : String) :
    Except PyException Json :=
  match env.respond log (.get uri item) with
  | some response => interceptReply item (parseResponse response)
  | none => .error .requestException

/-- Where a refresh reads a parameter. -/
def fetchUri (cfg : String) : Option Uri :=
  if cfg ∈ DETECTOR_CONFIG then some .detectorConfig
  else if cfg ∈ STREAM_CONFIG then some .streamConfig
  else none

/-- A parameter with what its read gives. -/
abbrev Read := String × Except PyException Json

def Read.Aborts (read : Read) : Prop := ∃ e, read.2 = .error e

/-- The reads of these parameters, one after the other. -/
def reads (env : Environment) : List Request → List String → List Read
  | _, [] => []
  | log, cfg :: cfgs =>
      match fetchUri cfg with
      | some uri => (cfg, env.read log uri cfg) :: reads env (log ++ [.get uri cfg]) cfgs
      | none => reads env log cfgs

/-- The attributes after the reads, up to the first that raises. -/
def storeReads : (String → Option Json) → List Read → String → Option Json
  | attributes, [] => attributes
  | attributes, (cfg, .ok param) :: rs =>
      storeReads (Function.update attributes cfg (some param)) rs
  | attributes, (_, .error _) :: _ => attributes

/-- What an attribute is after its read. -/
def afterRead (old : Option Json) : Except PyException Json → Option Json
  | .ok param => some param
  | .error _ => old

/-- The requests that the reads make, up to the first that raises. -/
def requests : List Read → List Request
  | [] => []
  | (cfg, .ok _) :: rs => .get ((fetchUri cfg).getD .streamConfig) cfg :: requests rs
  | (cfg, .error _) :: _ => [.get ((fetchUri cfg).getD .streamConfig) cfg]

/-- What the first of the reads to raise raises. -/
def raised : List Read → Option PyException
  | [] => none
  | (_, .ok _) :: rs => raised rs
  | (_, .error e) :: _ => some e

/-- Which reads a refresh makes that finds the members so. -/
def EigerDetector.reads (env : Environment) (s : EigerDetector) : List Read :=
  Server.reads env s.log (env.order s.staleParameters)

/-- The members after the reads. -/
def EigerDetector.storeReads (s : EigerDetector) (rs : List Read) : EigerDetector :=
  { s with attributes := Server.storeReads s.attributes rs, log := s.log ++ requests rs }

section Reads

variable {env : Environment} {log : List Request} {rs : List Read}

theorem fetchUri_eq_none {cfg : String} : fetchUri cfg = none ↔ ¬ Fetchable cfg := by
  rw [fetchUri, Fetchable]
  split_ifs <;> simp_all

theorem raised_eq_none : raised rs = none ↔ ∀ x ∈ rs, ¬ x.Aborts := by
  induction rs with
  | nil => simp [raised]
  | cons read rs ih =>
      obtain ⟨cfg, outcome⟩ := read
      cases outcome with
      | ok param => simp [raised, ih, Read.Aborts]
      | error e => simp [raised, Read.Aborts]

/-- Only the parameters that are fetched are read. -/
theorem map_fst_reads (env : Environment) (log : List Request) (cfgs : List String) :
    (reads env log cfgs).map Prod.fst = cfgs.filter fun cfg => Fetchable cfg := by
  induction cfgs generalizing log with
  | nil => rfl
  | cons cfg cfgs ih =>
      cases hUri : fetchUri cfg with
      | none => simp [reads, hUri, ih, fetchUri_eq_none.mp hUri]
      | some uri =>
          have hFetchable : Fetchable cfg := by
            by_contra hNot
            simp [fetchUri_eq_none.mpr hNot] at hUri
          simp [reads, hUri, ih, hFetchable]

theorem mem_order {names : List String} {name : String} :
    name ∈ env.order names ↔ name ∈ names := by
  rw [(env.order_perm names).mem_iff, List.mem_dedup]

/-- The set of the stale parameters has each of them once. -/
theorem reads_nodup (env : Environment) (s : EigerDetector) :
    ((s.reads env).map Prod.fst).Nodup := by
  rw [EigerDetector.reads, map_fst_reads]
  apply List.Nodup.filter
  rw [(env.order_perm s.staleParameters).nodup_iff]
  exact List.nodup_dedup _

theorem mem_reads {s : EigerDetector} {name : String} :
    name ∈ (s.reads env).map Prod.fst ↔ name ∈ s.staleParameters ∧ Fetchable name := by
  rw [EigerDetector.reads, map_fst_reads, List.mem_filter, mem_order, decide_eq_true_eq]

theorem storeReads_of_not_mem {attributes : String → Option Json} {name : String}
    (h : name ∉ rs.map Prod.fst) : storeReads attributes rs name = attributes name := by
  induction rs generalizing attributes with
  | nil => rfl
  | cons read rs ih =>
      obtain ⟨cfg, outcome⟩ := read
      rw [List.map_cons, List.mem_cons, not_or] at h
      cases outcome with
      | ok param => rw [storeReads, ih h.2, Function.update_of_ne h.1]
      | error e => rfl

/-- What is stored of a read that nothing before it keeps from being made. -/
theorem storeReads_split {attributes : String → Option Json} {before after : List Read}
    {name : String} {outcome : Except PyException Json}
    (hNodup : ((before ++ (name, outcome) :: after).map Prod.fst).Nodup)
    (hBefore : ∀ x ∈ before, ¬ x.Aborts) :
    storeReads attributes (before ++ (name, outcome) :: after) name =
      afterRead (attributes name) outcome := by
  induction before generalizing attributes with
  | nil =>
      rw [List.nil_append, List.map_cons, List.nodup_cons] at hNodup
      cases outcome with
      | ok param =>
          rw [List.nil_append, storeReads, storeReads_of_not_mem hNodup.1, Function.update_self,
            afterRead]
      | error e => rfl
  | cons read before ih =>
      obtain ⟨cfg, earlier⟩ := read
      rw [List.cons_append, List.map_cons, List.nodup_cons] at hNodup
      obtain ⟨hFirst, hRest⟩ := List.forall_mem_cons.mp hBefore
      have hOther : name ≠ cfg := by
        rintro rfl
        exact hNodup.1 (by simp)
      cases earlier with
      | ok param =>
          rw [List.cons_append, storeReads, ih hNodup.2 hRest, Function.update_of_ne hOther]
      | error e => exact absurd ⟨e, rfl⟩ hFirst

end Reads

section Runs

variable {env : Environment} {s : EigerDetector}

theorem run_request (env : Environment) (r : Request) (s : EigerDetector) :
    (request r).run (answer env) s =
      match env.respond s.log r with
      | some response => .returned { s with log := s.log ++ [r] } response
      | none => .failed { s with log := s.log ++ [r] } .requestException := by
  have hStep : (request r).run (answer env) s =
      Program.run (answer env) (match env.respond s.log r with
        | some response => pure response
        | none => .fail .requestException) { s with log := s.log ++ [r] } := rfl
  rw [hStep]
  cases env.respond s.log r <;> rfl

theorem run_liftExcept {A : Type} (env : Environment) (outcome : Except PyException A)
    (s : EigerDetector) : (liftExcept outcome).run (answer env) s =
      match outcome with
      | .ok a => .returned s a
      | .error e => .failed s e := by
  cases outcome <;> rfl

theorem run_readConfig (env : Environment) (uri : Uri) (item : String) (s : EigerDetector) :
    (readConfig uri item).run (answer env) s =
      match env.read s.log uri item with
      | .ok param => .returned { s with log := s.log ++ [.get uri item] } param
      | .error e => .failed { s with log := s.log ++ [.get uri item] } e := by
  have hRequest := run_request env (.get uri item) s
  rw [readConfig, Environment.read]
  cases hResponse : env.respond s.log (.get uri item) with
  | none =>
      rw [hResponse] at hRequest
      rw [Program.run_bind_failed (answer env) hRequest]
  | some response =>
      rw [hResponse] at hRequest
      rw [Program.run_bind_returned (answer env) hRequest, run_liftExcept]
      cases hOutcome : interceptReply item (parseResponse response) <;> simp only [hOutcome]

/-- One turn of the loop reads a parameter that is fetched. -/
theorem fetchParameter_of_uri {cfg : String} {uri : Uri} (h : fetchUri cfg = some uri) :
    fetchParameter cfg = (readConfig uri cfg >>= setattr cfg) := by
  rw [fetchUri] at h
  rw [fetchParameter]
  split_ifs at h ⊢ <;> cases h <;> rfl

theorem fetchParameter_of_none {cfg : String} (h : fetchUri cfg = none) :
    fetchParameter cfg = pure () := by
  rw [fetchUri] at h
  rw [fetchParameter]
  split_ifs at h ⊢
  rfl

/-- The loop stores what it reads, until a read raises. -/
theorem run_fetchParameters (env : Environment) (cfgs : List String) (s : EigerDetector) :
    (fetchParameters cfgs).run (answer env) s =
      match raised (reads env s.log cfgs) with
      | none => .returned (s.storeReads (reads env s.log cfgs)) ()
      | some e => .failed (s.storeReads (reads env s.log cfgs)) e := by
  induction cfgs generalizing s with
  | nil => simp [fetchParameters, reads, raised, Program.run, EigerDetector.storeReads,
      storeReads, requests]
  | cons cfg cfgs ih =>
      rw [fetchParameters]
      cases hUri : fetchUri cfg with
      | none =>
          rw [fetchParameter_of_none hUri, Program.pure_eq, Program.done_bind, ih, reads, hUri]
      | some uri =>
          have hRead := run_readConfig env uri cfg s
          rw [fetchParameter_of_uri hUri, Program.bind_assoc]
          cases hOutcome : env.read s.log uri cfg with
          | error e =>
              rw [hOutcome] at hRead
              rw [Program.run_bind_failed (answer env) hRead, reads, hUri]
              simp [hOutcome, raised, EigerDetector.storeReads, storeReads, requests, hUri]
          | ok param =>
              rw [hOutcome] at hRead
              have hSet : ∀ t : EigerDetector, (setattr cfg param).run (answer env) t =
                  .returned { t with
                    attributes := Function.update t.attributes cfg (some param) } () :=
                fun _ => rfl
              rw [Program.run_bind_returned (answer env) hRead,
                Program.run_bind_returned (answer env) (hSet _), ih, reads, hUri]
              simp [hOutcome, raised, EigerDetector.storeReads, storeReads, requests, hUri]

/-- Without interference nothing is left of the list. -/
theorem remainingStaleParameters_self (names : List String) :
    remainingStaleParameters names names = [] := by
  rw [List.eq_nil_iff_forall_not_mem]
  intro param hMember
  have hCount := Control.remainingStaleParameters_count param names names
  rw [Nat.sub_self] at hCount
  exact absurd hMember (List.count_eq_zero.mp hCount)

/-- A refresh that comes to its end empties the list, and needs no other. -/
theorem run_fetchStaleParameters (env : Environment) (blocking : Bool) (depth : Nat)
    (s : EigerDetector) :
    (fetchStaleParameters blocking (depth + 1)).run (answer env) s =
      match raised (s.reads env) with
      | none => .returned { s.storeReads (s.reads env) with staleParameters := [] } ()
      | some e => .failed (s.storeReads (s.reads env)) e := by
  have hFetch := run_fetchParameters env (env.order s.staleParameters) s
  have hStart : (fetchStaleParameters blocking (depth + 1)).run (answer env) s =
      (fetchParameters (env.order s.staleParameters) >>= fun _ => do
        let _ ← perform (.removeStaleParameters s.staleParameters)
        let stale : Bool ← if blocking then perform .hasStaleParameters else pure false
        if stale then fetchStaleParameters blocking depth else pure ()).run (answer env) s := rfl
  rw [hStart, EigerDetector.reads]
  cases hRaised : raised (reads env s.log (env.order s.staleParameters)) with
  | some e =>
      rw [hRaised] at hFetch
      rw [Program.run_bind_failed (answer env) hFetch]
  | none =>
      rw [hRaised] at hFetch
      rw [Program.run_bind_returned (answer env) hFetch]
      have hEmpty : remainingStaleParameters s.staleParameters s.staleParameters = [] :=
        remainingStaleParameters_self _
      cases blocking <;>
        simp [perform, Program.perform, Program.run, answer, EigerDetector.storeReads, hEmpty]

end Runs

section Preservation

/-- The value read is no object, and yet the read does not raise. -/
def Read.Spoils (read : Read) : Prop := ∃ param, read.2 = .ok param ∧ param.isDict = false

/-- The reads are made in this order; one that raises is the last. -/
def Made (rs before : List Read) (read : Read) (after : List Read) : Prop :=
  rs = before ++ read :: after ∧ ∀ x ∈ before, ¬ x.Aborts

/-- The promise: a parameter whose read yields no object keeps its value and stays stale. -/
def Preserves (rs : List Read) (s s' : EigerDetector) : Prop :=
  ∀ before read after, Made rs before read after → read.Aborts ∨ read.Spoils →
    s'.attributes read.1 = s.attributes read.1 ∧ read.1 ∈ s'.staleParameters

variable {env : Environment} {s : EigerDetector}

theorem Made.mem_staleParameters {before after : List Read} {read : Read}
    (h : Made (s.reads env) before read after) : read.1 ∈ s.staleParameters := by
  have hMember : read.1 ∈ (s.reads env).map Prod.fst := by simp [h.1]
  exact (mem_reads.mp hMember).1

/-- What a refresh stores of a read that it makes. -/
theorem Made.stored {before after : List Read} {name : String}
    {outcome : Except PyException Json} (h : Made (s.reads env) before (name, outcome) after) :
    (s.storeReads (s.reads env)).attributes name = afterRead (s.attributes name) outcome := by
  have hNodup := reads_nodup env s
  rw [h.1] at hNodup
  rw [EigerDetector.storeReads, h.1]
  exact storeReads_split hNodup h.2

/-- Nothing is lost exactly if each value that is no object is stored where it was before, in
a refresh that does not come to its end. -/
theorem refresh_preserves_iff (env : Environment) (blocking : Bool) (depth : Nat)
    (s : EigerDetector) :
    Preserves (s.reads env) s
        ((fetchStaleParameters blocking (depth + 1)).run (answer env) s).state ↔
      ∀ before name param after, Made (s.reads env) before (name, .ok param) after →
        param.isDict = false →
        s.attributes name = some param ∧ ∃ x ∈ after, x.Aborts := by
  have hRun := run_fetchStaleParameters env blocking depth s
  constructor
  · intro hPreserves before name param after hMade hSpoils
    have hPromise := hPreserves before _ after hMade (.inr ⟨param, rfl, hSpoils⟩)
    cases hRaised : raised (s.reads env) with
    | none =>
        rw [hRun, hRaised] at hPromise
        simp [Outcome.state] at hPromise
    | some e =>
        rw [hRun, hRaised] at hPromise
        have hStored := hMade.stored.symm.trans hPromise.1
        refine ⟨hStored.symm, ?_⟩
        by_contra hNone
        have hAll : raised (s.reads env) = none := by
          rw [raised_eq_none, hMade.1]
          intro x hMember
          rcases List.mem_append.mp hMember with hBefore | hRest
          · exact hMade.2 x hBefore
          · rcases List.mem_cons.mp hRest with rfl | hAfter
            · simp [Read.Aborts]
            · exact fun hAborts => hNone ⟨x, hAfter, hAborts⟩
        rw [hAll] at hRaised
        cases hRaised
  · intro hCondition before read after hMade hBad
    obtain ⟨name, outcome⟩ := read
    have hAborts : ∃ x ∈ s.reads env, x.Aborts := by
      rcases hBad with hAborts | ⟨param, hOutcome, hSpoils⟩
      · exact ⟨_, by simp [hMade.1], hAborts⟩
      · cases hOutcome
        obtain ⟨_, x, hMember, hAborts⟩ := hCondition before name param after hMade hSpoils
        exact ⟨x, by simp [hMade.1, hMember], hAborts⟩
    cases hRaised : raised (s.reads env) with
    | none =>
        obtain ⟨x, hMember, hAborts⟩ := hAborts
        exact absurd hAborts (raised_eq_none.mp hRaised x hMember)
    | some e =>
        rw [hRun, hRaised]
        refine ⟨hMade.stored.trans ?_, hMade.mem_staleParameters⟩
        rcases hBad with ⟨e, hOutcome⟩ | ⟨param, hOutcome, hSpoils⟩
        · cases hOutcome
          rfl
        · cases hOutcome
          exact (hCondition before name param after hMade hSpoils).1.symm

/-- The text in the answer to a read of the count time is no JSON. -/
theorem refresh_not_always_preserves : ¬ ∀ (env : Environment) (blocking : Bool) (depth : Nat)
    (s : EigerDetector), Preserves (s.reads env) s
      ((fetchStaleParameters blocking (depth + 1)).run (answer env) s).state := by
  intro hClaim
  let env : Environment := .constant (some ⟨200, [], .other⟩)
  let s := sampleServer ["count_time"]
  have hReads : s.reads env = [("count_time", .ok .null)] := rfl
  have hRun := run_fetchStaleParameters env false 0 s
  have hPromise := hClaim env false 0 s [] ("count_time", .ok .null) [] ⟨hReads, by simp⟩
    (.inr ⟨.null, rfl, rfl⟩)
  rw [hRun, hReads] at hPromise
  simp [raised, Outcome.state] at hPromise

end Preservation

end Eiger.Server
