import EigerDetector.Fan.Operation
import EigerDetector.Library.Tracking

/-! What the handlers of the rx thread receive. As long as each of their tests of `more` tells
whether the message has parts left, they receive those parts and no others, whatever the
other thread does to the members meanwhile. -/
namespace Eiger.Fan

open CharArrays Rapidjson Threads Rx Plan

/-- The parts of the message that were not received yet, and whether the flag of the last one
was fetched and is about to be tested. -/
structure Reception where
  unread : List Bytes
  tests : Bool

/-- A part is received only if there is one left, and a test tells whether there is. -/
def reception : Tracker RxAction RxAction.Reply Reception where
  permits
    | g, .recv => g.unread ≠ []
    | _, _ => True
  follows
    | g, .recv, part, g' => ∃ rest, g.unread = part :: rest ∧ g' = ⟨rest, false⟩
    | g, .getsockopt, _, g' => g' = ⟨g.unread, true⟩
    | g, .members, s, g' =>
        (g.tests = true → (s.more = moreMessages ↔ g.unread ≠ [])) ∧ g' = ⟨g.unread, false⟩
    | g, _, _, g' => g' = ⟨g.unread, false⟩

/-- At most so many parts are left. -/
def Within {A : Type} (n : Nat) (g : Reception) (_ : A) : Prop := g.unread.length ≤ n

theorem within_of_eq {A : Type} {n : Nat} {g g' : Reception} (hSame : g'.unread = g.unread)
    (h : g.unread.length ≤ n) (a : A) : Within n g' a := by
  rw [Within, hSame]
  exact h

/-- The program receives no part that is not there. -/
def Receives {A : Type} (p : Rx A) : Prop :=
  ∀ n g, g.unread.length ≤ n → p.Tracked reception (Within n) (Within n) g

/-- The action is not on the rx socket. -/
def OffSocket : RxAction → Prop
  | .recv => False
  | .getsockopt => False
  | _ => True

section Rules

variable {A B : Type}

theorem Receives.bind {p : Rx A} {f : A → Rx B} (h : Receives p) (hf : ∀ a, Receives (f a)) :
    Receives (p >>= f) :=
  fun n g hUnread => (h n g hUnread).bind fun g' a hLeft => hf a n g' hLeft

theorem Receives.done (a : A) : Receives (.done a : Rx A) := fun _ _ hUnread => hUnread

/-- Off the socket nothing is received. -/
theorem offSocket_tracked {p : Rx A} (h : p.Uses OffSocket anything) (g : Reception) :
    p.Tracked reception (fun g' _ => g'.unread = g.unread) (fun g' _ => g'.unread = g.unread) g := by
  have hTracked : p.Tracked reception (fun g' a => g'.unread = g.unread ∧ anything a)
      (fun g' _ => g'.unread = g.unread) g := by
    refine h.tracked rfl (fun g' action hOff hSame => ?_) fun g' action reply next hOff hSame => ?_
    · cases action with
      | recv => exact hOff.elim
      | _ => trivial
    · cases action with
      | recv => exact hOff.elim
      | getsockopt => exact hOff.elim
      | members =>
          rintro ⟨_, rfl⟩
          exact hSame
      | _ =>
          rintro rfl
          exact hSame
  exact hTracked.mono (fun _ _ hPost => hPost.1) fun _ _ hFailed => hFailed

theorem Receives.of_uses {p : Rx A} (h : p.Uses OffSocket anything) : Receives p :=
  fun _ g hUnread => (offSocket_tracked h g).mono (fun _ a hSame => within_of_eq hSame hUnread a)
    fun _ e hSame => within_of_eq hSame hUnread e

theorem moreParts_tracked (g : Reception) (failed : Reception → Failure → Prop) :
    moreParts.Tracked reception
      (fun g' more => g'.unread = g.unread ∧ (more = true ↔ g.unread ≠ [])) failed g := by
  refine ⟨trivial, ?_⟩
  rintro _ _ rfl
  refine ⟨trivial, ?_⟩
  rintro s _ ⟨hTest, rfl⟩
  exact ⟨rfl, decide_eq_true_iff.trans (hTest rfl)⟩

theorem recv_tracked {g : Reception} (h : g.unread ≠ []) (failed : Reception → Failure → Prop) :
    recv.Tracked reception (fun g' part => g.unread = part :: g'.unread) failed g := by
  refine Program.tracked_perform h ?_
  rintro part _ ⟨rest, hUnread, rfl⟩
  exact hUnread

/-- A part is received after a test that found one. -/
theorem Receives.more {f : Bytes → Rx A} {p : Rx A} (hf : ∀ part, Receives (f part))
    (hp : Receives p) : Receives (moreParts >>= fun more => if more then recv >>= f else p) := by
  intro n g hUnread
  refine (moreParts_tracked g (Within n)).bind fun g' more hTested => ?_
  obtain ⟨hSame, hTrue⟩ := hTested
  split
  · next hMore =>
      have hSome : g'.unread ≠ [] := hSame ▸ hTrue.mp hMore
      refine (recv_tracked hSome (Within n)).bind fun g'' part hLeft => hf part n g'' ?_
      rw [← hSame, hLeft, List.length_cons] at hUnread
      omega
  · exact hp n g' (hSame ▸ hUnread)

theorem Receives.onFailure {p : Rx A} {handler : Failure → Rx A} (h : Receives p)
    (hHandler : ∀ e, Receives (handler e)) : Receives (p.onFailure handler) :=
  fun n g hUnread => (h n g hUnread).onFailure fun g' e hLeft => hHandler e n g' hLeft

theorem access_offSocket (a : Option A) : (access a).Uses OffSocket anything := by
  cases a <;> trivial

theorem unlessThrown_offSocket (returned : Bool) :
    (unlessThrown returned).Uses OffSocket anything := by
  cases returned <;> trivial

theorem writeMessageToFile_offSocket (message filename : Bytes) :
    (writeMessageToFile message filename).Uses OffSocket anything :=
  .seq (.perform trivial) unlessThrown_offSocket

theorem members_offSocket : members.Uses OffSocket anything := .perform trivial

theorem assign_offSocket (update : EigerFan → EigerFan) :
    (assign update).Uses OffSocket anything := .perform trivial

theorem sendToRanks_offSocket (parts : List (Bytes × Bool)) (ranks : List Int) :
    (sendToRanks parts ranks).Uses OffSocket anything := by
  induction ranks with
  | nil => trivial
  | cons rank ranks ih =>
      exact .seq (.perform trivial) fun returned =>
        .seq (unlessThrown_offSocket returned) fun _ => ih

theorem sendToAll_offSocket (parts : List (Bytes × Bool)) :
    (sendToAll parts).Uses OffSocket anything :=
  .seq (.perform trivial) fun _ => .seq (.perform trivial) fun _ => sendToRanks_offSocket parts _

theorem sendImageParts_offSocket (parts : List (Bytes × Bool)) :
    (sendImageParts parts).Uses OffSocket anything := by
  induction parts with
  | nil => trivial
  | cons part parts ih =>
      exact .seq (.seq (.perform trivial) unlessThrown_offSocket) fun _ => ih

theorem update_offSocket (fs : List (EigerFan → EigerFan)) :
    (update fs).Uses OffSocket anything := by
  induction fs with
  | nil => trivial
  | cons f fs ih => exact .seq (assign_offSocket f) fun _ => ih

/-- A plan is carried out off the socket. -/
theorem execute_offSocket (plan : Plan) : plan.execute.Uses OffSocket anything := by
  refine .seq ?_ fun _ => update_offSocket plan.updates
  cases plan.sends with
  | nothing => trivial
  | broadcast parts => exact sendToAll_offSocket _
  | image parts => exact sendImageParts_offSocket _

end Rules

section Handlers

variable (env : Environment)

theorem addAcquisitionIDToPart1_offSocket :
    (addAcquisitionIDToPart1 env).Uses OffSocket anything :=
  .seq (.perform trivial) fun _ => .seq (access_offSocket _) fun _ =>
    .seq (.perform trivial) fun _ => trivial

/-- A part that is written to the cache before the handler goes on. -/
theorem Receives.cached {A : Type} {message filename : Bytes} {f : Unit → Rx A}
    (hf : ∀ a, Receives (f a)) : Receives (writeMessageToFile message filename >>= f) :=
  .bind (.of_uses (writeMessageToFile_offSocket message filename)) hf

theorem receives_appendix {filename : Bytes} {plan : Bytes → Plan} {other : Plan} :
    Receives (moreParts >>= fun more =>
      if more then recv >>= fun part => writeMessageToFile part filename >>= fun _ =>
        .done (plan part)
      else .done other) :=
  .more (fun _ => .cached fun _ => .done _) (.done _)

theorem receives_recvHeaderParts (first count : Nat) :
    Receives (recvHeaderParts first count) := by
  induction count generalizing first with
  | zero => exact .done _
  | succ count ih =>
      refine .more (fun part => .cached fun _ => .bind (ih (first + 1)) fun parts => ?_) (.done _)
      cases parts <;> exact .done _

theorem receives_prepareDetailedHeader (part1 : Bytes) (expected : Nat) :
    Receives (prepareDetailedHeader part1 expected) := by
  refine .bind (receives_recvHeaderParts 1 expected) fun parts => ?_
  cases parts with
  | none => exact .done _
  | some parts => exact receives_appendix

theorem receives_prepareGlobalHeader : Receives (prepareGlobalHeader env) := by
  refine .bind (.of_uses (addAcquisitionIDToPart1_offSocket env)) fun part1 => ?_
  refine .bind (.of_uses members_offSocket) fun s => .bind (.of_uses (access_offSocket _)) fun series => ?_
  refine .bind (.of_uses (assign_offSocket _)) fun _ => ?_
  refine .bind (.of_uses (access_offSocket _)) fun detail => .cached fun _ => ?_
  split
  · exact receives_appendix
  · split
    · exact receives_prepareDetailedHeader part1 1
    · split
      · exact receives_prepareDetailedHeader part1 7
      · exact .done _

theorem receives_prepareImageData (frame : Int) : Receives (prepareImageData env frame) := by
  intro n g hUnread
  refine (moreParts_tracked g (Within n)).bind fun g' more hTested => ?_
  obtain ⟨hSame, hTrue⟩ := hTested
  split
  · next hMore =>
      -- part 2 is received only after part 1 got its acquisition ID
      have hTagged := (offSocket_tracked (addAcquisitionIDToPart1_offSocket env) g').mono
        (fun _ _ hKept => hKept) fun _ e hKept => within_of_eq (hKept.trans hSame) hUnread e
      refine hTagged.bind fun g'' part1 hKept => ?_
      have hSome : g''.unread ≠ [] := (hKept.trans hSame) ▸ hTrue.mp hMore
      refine (recv_tracked hSome (Within n)).bind fun left part2 hLeft => ?_
      have hWithin : left.unread.length ≤ n := by
        rw [← hSame, ← hKept, hLeft, List.length_cons] at hUnread
        omega
      refine Receives.more (fun part3 => ?_) (.done _) n left hWithin
      refine .more (fun part4 => ?_) (.done _)
      exact .cached fun _ => .cached fun _ => .cached fun _ => .cached fun _ => receives_appendix
  · exact Receives.done _ n g' (hSame ▸ hUnread)

theorem receives_prepareEndOfSeries : Receives (prepareEndOfSeries env) :=
  .bind (.of_uses (addAcquisitionIDToPart1_offSocket env)) fun _ => .cached fun _ => .done _

theorem latching_offSocket : latching.Uses OffSocket anything :=
  .seq (assign_offSocket _) fun _ => .seq (assign_offSocket _) fun _ =>
    .seq (assign_offSocket _) fun _ => .seq (assign_offSocket _) fun _ =>
    .seq (assign_offSocket _) fun _ => .seq (assign_offSocket _) fun _ => assign_offSocket _

theorem receives_prepare (message : Bytes) : Receives (prepare env message) := by
  rw [prepare]
  split
  · exact .done _
  · next doc _ =>
      refine .bind (.of_uses (assign_offSocket _)) fun _ => ?_
      refine .bind (.of_uses (access_offSocket _)) fun htype => ?_
      split
      · exact .bind (.of_uses latching_offSocket) fun _ => receives_prepareGlobalHeader env
      · split
        · refine .bind (.of_uses (access_offSocket _)) fun frame => ?_
          refine .bind (.of_uses members_offSocket) fun s => ?_
          refine .bind (.of_uses (access_offSocket _)) fun index => ?_
          refine .bind (.of_uses (assign_offSocket _)) fun _ => ?_
          exact .bind (receives_prepareImageData env frame) fun _ => .done _
        · split
          · exact .bind (receives_prepareEndOfSeries env) fun _ => .done _
          · exact .done _

/-- Draining ends when no part is left. -/
theorem drainSurplusParts_tracked {fuel : Nat} {g : Reception} (h : g.unread.length ≤ fuel) :
    (drainSurplusParts fuel).Tracked reception (fun g' _ => g'.unread = [])
      (fun _ _ => False) g := by
  induction fuel generalizing g with
  | zero => exact List.length_eq_zero_iff.mp (Nat.le_zero.mp h)
  | succ fuel ih =>
      refine (moreParts_tracked g _).bind fun g' more hTested => ?_
      obtain ⟨hSame, hTrue⟩ := hTested
      split
      · next hMore =>
          refine (recv_tracked (hSame ▸ hTrue.mp hMore) _).bind fun left part hLeft => ih ?_
          rw [← hSame, hLeft, List.length_cons] at h
          omega
      · next hMore =>
          show g'.unread = []
          rw [hSame]
          exact by_contra fun hSome => hMore (hTrue.mpr hSome)

/-- A handler receives exactly the parts of its message, unless an assertion fails. -/
theorem handleStreamMessage_tracked {fuel : Nat} {g : Reception} (message : Bytes)
    (h : g.unread.length ≤ fuel) :
    (handleStreamMessage env fuel message).Tracked reception (fun g' _ => g'.unread = [])
      (fun _ _ => True) g := by
  have hDispatch : Receives (dispatchStreamMessage env message) := by
    rw [dispatchStreamMessage_eq]
    exact .bind (receives_prepare env message) fun plan => .of_uses (execute_offSocket plan)
  have hCaught : Receives ((dispatchStreamMessage env message).onFailure caught) :=
    .onFailure hDispatch fun e => by cases e <;> exact .of_uses trivial
  refine ((hCaught fuel g h).mono (fun _ _ hLeft => hLeft) fun _ _ _ => trivial).bind
    fun g' _ hLeft => ?_
  exact (drainSurplusParts_tracked hLeft).mono (fun _ _ hEmpty => hEmpty) fun _ _ hNever => hNever.elim

end Handlers

end Eiger.Fan
