import Mathlib.Data.Nat.Periodic
import Mathlib.Data.List.Range
import Mathlib.Order.Interval.Finset.Nat
import Mathlib.Tactic.Ring

/-! Items numbered from 0 are dealt in blocks to owners that take turns. Whatever window of
numbers is dealt, no owner is ahead of another by more than a block. -/
namespace BlockCyclic

/-- The owner of a number, one of `owners`, in blocks of `block` numbers. -/
def owner (owners block x : Nat) : Nat := x / block % owners

/-- How many of the `count` numbers from `first` on belong to owner `i`. -/
def share (owners block i first count : Nat) : Nat :=
  ((Finset.Ico first (first + count)).filter fun x => owner owners block x = i).card

variable {owners block i j first count : Nat}

theorem owner_lt (hOwners : 0 < owners) (x : Nat) : owner owners block x < owners :=
  Nat.mod_lt _ hOwners

/-- After all owners had their turn it starts again. -/
theorem owner_periodic (hBlock : 0 < block) :
    Function.Periodic (owner owners block) (owners * block) := by
  intro x
  rw [owner, owner, Nat.add_mul_div_right _ _ hBlock, Nat.add_mod_right]

/-- In the first turn an owner gets one block. -/
theorem count_first_turn (hBlock : 0 < block) (hOwner : i < owners) :
    (owners * block).count (fun x => owner owners block x = i) = block := by
  have hTurn : (Finset.range (owners * block)).filter (fun x => owner owners block x = i) =
      Finset.Ico (i * block) (i * block + block) := by
    ext x
    rw [Finset.mem_filter, Finset.mem_range, Finset.mem_Ico]
    constructor
    · rintro ⟨hBound, hSame⟩
      have hQuotient : x / block < owners := (Nat.div_lt_iff_lt_mul hBlock).mpr hBound
      rw [owner, Nat.mod_eq_of_lt hQuotient] at hSame
      subst hSame
      exact ⟨Nat.div_mul_le_self x block, Nat.lt_div_mul_add hBlock⟩
    · rintro ⟨hLow, hHigh⟩
      have hNext : i * block + block = (i + 1) * block := by ring
      have hBound : x < owners * block :=
        hHigh.trans_le (hNext ▸ Nat.mul_le_mul_right block hOwner)
      have hQuotient : x / block = i := by
        rw [Nat.div_eq_iff hBlock]
        omega
      exact ⟨hBound, by rw [owner, hQuotient, Nat.mod_eq_of_lt hOwner]⟩
  rw [Nat.count_eq_card_filter_range, hTurn, Nat.card_Ico, Nat.add_sub_cancel_left]

/-- In any turn, wherever it begins, an owner gets as much as one block. -/
theorem share_turn (hBlock : 0 < block) (hOwner : i < owners) :
    share owners block i first (owners * block) = block := by
  have hPeriodic : Function.Periodic (fun x => owner owners block x = i) (owners * block) :=
    fun x => congrArg (· = i) (owner_periodic hBlock x)
  rw [share, Nat.filter_Ico_card_eq_of_periodic _ _ _ hPeriodic, count_first_turn hBlock hOwner]

theorem share_add (more : Nat) : share owners block i first (count + more) =
    share owners block i first count + share owners block i (first + count) more := by
  have hSplit : Finset.Ico first (first + (count + more)) =
      Finset.Ico first (first + count) ∪ Finset.Ico (first + count) (first + count + more) := by
    rw [Finset.Ico_union_Ico_eq_Ico (Nat.le_add_right _ _) (Nat.le_add_right _ _), Nat.add_assoc]
  rw [share, share, share, hSplit, Finset.filter_union, Finset.card_union_of_disjoint]
  exact Finset.disjoint_filter_filter (Finset.Ico_disjoint_Ico_consecutive _ _ _)

theorem share_le_share {fewer : Nat} (h : fewer ≤ count) :
    share owners block i first fewer ≤ share owners block i first count := by
  obtain ⟨more, rfl⟩ := Nat.exists_eq_add_of_le h
  rw [share_add]
  exact Nat.le_add_right _ _

/-- Whole turns give each owner as many blocks. -/
theorem share_turns (hBlock : 0 < block) (hOwner : i < owners) (turns : Nat) :
    share owners block i first (turns * (owners * block)) = turns * block := by
  induction turns with
  | zero => simp [share]
  | succ turns ih =>
      rw [Nat.succ_mul, share_add, ih, share_turn hBlock hOwner, Nat.succ_mul]

/-- Beside the blocks of whole turns an owner gets at most one more. -/
theorem share_bounds (hBlock : 0 < block) (hOwner : i < owners) :
    count / (owners * block) * block ≤ share owners block i first count ∧
      share owners block i first count ≤ count / (owners * block) * block + block := by
  have hTurn : 0 < owners * block := Nat.mul_pos (Nat.zero_lt_of_lt hOwner) hBlock
  have hLeft : count % (owners * block) ≤ owners * block := (Nat.mod_lt _ hTurn).le
  have hCount : count = count / (owners * block) * (owners * block) + count % (owners * block) :=
    (Nat.div_add_mod' count _).symm
  have hShare : share owners block i first count = count / (owners * block) * block +
      share owners block i (first + count / (owners * block) * (owners * block))
        (count % (owners * block)) := by
    conv_lhs => rw [hCount]
    rw [share_add, share_turns hBlock hOwner]
  have hRest : share owners block i (first + count / (owners * block) * (owners * block))
      (count % (owners * block)) ≤ block :=
    (share_le_share hLeft).trans_eq (share_turn hBlock hOwner)
  omega

/-- No owner is ahead of another by more than a block. -/
theorem share_balanced (hBlock : 0 < block) (hOwner : i < owners) (hOther : j < owners) :
    share owners block i first count ≤ share owners block j first count + block := by
  have hHigh : _ ∧ share owners block i first count ≤ _ := share_bounds hBlock hOwner
  have hLow : _ ≤ share owners block j first count ∧ _ := share_bounds hBlock hOther
  exact hHigh.2.trans (Nat.add_le_add_right hLow.1 block)

/-- Whole turns are shared out equally. -/
theorem share_of_dvd (hBlock : 0 < block) (hOwner : i < owners) (hTurns : owners * block ∣ count) :
    share owners block i first count = count / owners := by
  obtain ⟨turns, rfl⟩ := hTurns
  have hOwners : 0 < owners := Nat.zero_lt_of_lt hOwner
  rw [Nat.mul_comm (owners * block), share_turns hBlock hOwner, Nat.mul_left_comm,
    Nat.mul_div_cancel_left _ hOwners]

/-- The numbers of a window, in whatever order they come. -/
theorem countP_of_perm {α : Type*} {numbers : List α} {number : α → Nat}
    (h : (numbers.map number).Perm ((List.range count).map (first + ·))) :
    numbers.countP (fun a => owner owners block (number a) = i) =
      share owners block i first count := by
  have hMap : numbers.countP (fun a => owner owners block (number a) = i) =
      (numbers.map number).countP fun x => owner owners block x = i := by
    rw [List.countP_map]
    rfl
  have hWindow : (List.range count).map (first + ·) = List.range' first count :=
    List.range'_eq_map_range.symm
  rw [hMap, h.countP_eq, hWindow, share, List.countP_eq_length_filter]
  have hFinset : (Finset.Ico first (first + count)).filter (fun x => owner owners block x = i) =
      ((List.range' first count).filter fun x => owner owners block x = i).toFinset := by
    ext x
    simp
  rw [hFinset, List.toFinset_card_of_nodup ((List.nodup_range').filter _)]

/-- Dealt one at a time, each number goes to one owner in one turn. -/
theorem dealt_perm (owners turns : Nat) :
    ((List.range owners).flatMap fun i => (List.range turns).map fun turn =>
      i + owners * turn).Perm (List.range (owners * turns)) := by
  apply (List.perm_ext_iff_of_nodup ?_ List.nodup_range).mpr
  · intro x
    simp only [List.mem_flatMap, List.mem_map, List.mem_range]
    constructor
    · rintro ⟨i, hOwner, turn, hTurn, rfl⟩
      have hNext : owners * turn + owners ≤ owners * turns := by
        rw [← Nat.mul_succ]
        exact Nat.mul_le_mul_left owners hTurn
      omega
    · intro hBound
      have hOwners : 0 < owners := Nat.pos_of_mul_pos_right (Nat.zero_lt_of_lt hBound)
      exact ⟨x % owners, Nat.mod_lt x hOwners, x / owners, Nat.div_lt_of_lt_mul hBound,
        Nat.mod_add_div x owners⟩
  · apply List.nodup_flatMap.mpr
    constructor
    · intro i hMember
      have hOwners : 0 < owners := Nat.zero_lt_of_lt (List.mem_range.mp hMember)
      apply List.nodup_range.map
      intro first second hSame
      exact Nat.eq_of_mul_eq_mul_left hOwners (Nat.add_left_cancel hSame)
    · apply List.nodup_range.pairwise_of_forall_ne
      intro i hFirst j hSecond hOther x hLeft hRight
      simp only [List.mem_map, List.mem_range] at hFirst hSecond hLeft hRight
      obtain ⟨_, _, rfl⟩ := hLeft
      obtain ⟨_, _, hSame⟩ := hRight
      have hOwner := congrArg (· % owners) hSame
      simp only [Nat.add_mul_mod_self_left, Nat.mod_eq_of_lt hFirst, Nat.mod_eq_of_lt hSecond]
        at hOwner
      exact hOther hOwner.symm

end BlockCyclic
