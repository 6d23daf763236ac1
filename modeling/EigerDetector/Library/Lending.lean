import Mathlib.Logic.Relation
import Mathlib.Data.List.Perm.Basic
import Mathlib.Data.List.Count
import Mathlib.Data.List.Nodup

/-! Things that are free, held by their keeper or lent out. Whatever is moved
between these places, each thing stays in exactly one of them. -/
namespace Lending

variable {α : Type*}

/-- Where the things are. The free ones are taken in their order. -/
structure Ledger (α : Type*) where
  free : List α
  held : Option α
  lent : List α

namespace Ledger

def all (l : Ledger α) : List α := l.free ++ l.held.toList ++ l.lent

/-- How often a thing is booked. -/
def count [DecidableEq α] (l : Ledger α) (a : α) : Nat :=
  l.free.count a + (if l.held = some a then 1 else 0) + l.lent.count a

theorem count_eq_count_all [DecidableEq α] (l : Ledger α) (a : α) : l.count a = l.all.count a := by
  obtain ⟨free, held, lent⟩ := l
  cases held with
  | none => simp [count, all]
  | some b =>
      by_cases h : b = a
      · simp only [count, all, h, if_true, Option.toList_some, List.count_append,
          List.count_singleton_self]
      · simp [count, all, h]

end Ledger

/-- One thing changes its place. -/
inductive Move : Ledger α → Ledger α → Prop where
  | acquire (a : α) (free lent : List α) : Move ⟨a :: free, none, lent⟩ ⟨free, some a, lent⟩
  | lend (a : α) (free lent : List α) : Move ⟨free, some a, lent⟩ ⟨free, none, lent ++ [a]⟩
  | giveBack (a : α) (free : List α) (held : Option α) (before after : List α) :
      Move ⟨free, held, before ++ a :: after⟩ ⟨free ++ [a], held, before ++ after⟩

theorem Move.perm {l l' : Ledger α} (h : Move l l') : l'.all.Perm l.all := by
  cases h with
  | acquire a free lent =>
      show (free ++ [a] ++ lent).Perm ((a :: free) ++ [] ++ lent)
      rw [List.append_nil]
      exact (List.perm_append_singleton a free).append_right lent
  | lend a free lent =>
      show (free ++ [] ++ (lent ++ [a])).Perm (free ++ [a] ++ lent)
      rw [List.append_nil, List.append_assoc]
      exact (List.perm_append_singleton a lent).append_left free
  | giveBack a free held before after =>
      show (free ++ [a] ++ held.toList ++ (before ++ after)).Perm
        (free ++ held.toList ++ (before ++ a :: after))
      rw [List.append_assoc, List.append_assoc, List.append_assoc]
      refine List.Perm.append_left free ?_
      have hMiddle : (held.toList ++ (before ++ a :: after)).Perm
          (a :: (held.toList ++ (before ++ after))) := by
        rw [← List.append_assoc, ← List.append_assoc]
        exact List.perm_middle
      exact hMiddle.symm

/-- Any number of moves. -/
abbrev Moves : Ledger α → Ledger α → Prop := Relation.ReflTransGen Move

theorem Moves.perm {l l' : Ledger α} (h : Moves l l') : l'.all.Perm l.all := by
  induction h with
  | refl => exact .refl _
  | tail _ hMove ih => exact hMove.perm.trans ih

/-- The ledger accounts for the given things, each of which there is once. -/
structure Ledger.Accounts (l : Ledger α) (things : List α) : Prop where
  perm : l.all.Perm things
  distinct : things.Nodup

namespace Ledger.Accounts

variable {l l' : Ledger α} {things : List α}

theorem moves (h : l.Accounts things) (hMoves : Moves l l') : l'.Accounts things :=
  ⟨hMoves.perm.trans h.perm, h.distinct⟩

theorem count_eq_one [DecidableEq α] (h : l.Accounts things) {a : α} (hMem : a ∈ things) :
    l.count a = 1 := by
  rw [l.count_eq_count_all, h.perm.count_eq]
  exact List.count_eq_one_of_mem h.distinct hMem

theorem nodup (h : l.Accounts things) : l.all.Nodup := h.perm.nodup_iff.mpr h.distinct

/-- What is held is not lent out. -/
theorem not_lent_of_held (h : l.Accounts things) {a : α} (hHeld : l.held = some a) :
    a ∉ l.lent := by
  have hNodup := h.nodup
  rw [all, List.append_assoc, List.nodup_append] at hNodup
  have hRest := hNodup.2.1
  rw [hHeld] at hRest
  exact (List.nodup_cons.mp hRest).1

end Ledger.Accounts

end Lending
