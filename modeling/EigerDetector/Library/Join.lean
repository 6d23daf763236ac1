import Mathlib.Data.List.Perm.Basic
import Mathlib.Data.List.Nodup

/-! Two sequences of keyed values joined as they come. Whichever value of a key
comes first waits in a map for the other one. -/
namespace Join

variable {Key Left Right : Type*}

inductive Arrival (Key Left Right : Type*) where
  | left (key : Key) (value : Left)
  | right (key : Key) (value : Right)

/-- The values which wait, and the pairs in the order in which they met. -/
structure Table (Key Left Right : Type*) where
  lefts : Key → Option Left
  rights : Key → Option Right
  pairs : List (Key × Left × Right)

def Table.empty : Table Key Left Right := ⟨fun _ => none, fun _ => none, []⟩

/-- No value comes twice, and no key has two values on one side. -/
structure Distinct (arrivals : List (Arrival Key Left Right)) : Prop where
  nodup : arrivals.Nodup
  lefts : ∀ key a b, .left key a ∈ arrivals → .left key b ∈ arrivals → a = b
  rights : ∀ key a b, .right key a ∈ arrivals → .right key b ∈ arrivals → a = b

/-- A value waits if it has come without the other value of its key; a pair has been
formed if both have come. -/
structure Table.Joins (t : Table Key Left Right) (arrived : List (Arrival Key Left Right)) :
    Prop where
  lefts : ∀ key a, t.lefts key = some a ↔
    .left key a ∈ arrived ∧ ∀ b, .right key b ∉ arrived
  rights : ∀ key b, t.rights key = some b ↔
    .right key b ∈ arrived ∧ ∀ a, .left key a ∉ arrived
  pairs : ∀ key a b, (key, a, b) ∈ t.pairs ↔ .left key a ∈ arrived ∧ .right key b ∈ arrived
  nodup : t.pairs.Nodup

theorem Table.empty_joins : (empty : Table Key Left Right).Joins [] where
  lefts _ _ := by simp [empty]
  rights _ _ := by simp [empty]
  pairs _ _ _ := by simp [empty]
  nodup := List.nodup_nil

theorem Distinct.first {first second : List (Arrival Key Left Right)}
    (h : Distinct (first ++ second)) : Distinct first where
  nodup := (List.nodup_append.mp h.nodup).1
  lefts key a b hA hB := h.lefts key a b (List.mem_append_left _ hA) (List.mem_append_left _ hB)
  rights key a b hA hB := h.rights key a b (List.mem_append_left _ hA) (List.mem_append_left _ hB)

/-- The arrivals of some entries: each key comes once on either side. -/
def arrivals (entries : List (Key × Left × Right)) : List (Arrival Key Left Right) :=
  (entries.map fun (key, a, _) => .left key a) ++ entries.map fun (key, _, b) => .right key b

theorem left_mem_arrivals {entries : List (Key × Left × Right)} {key : Key} {a : Left} :
    .left key a ∈ arrivals entries ↔ ∃ b, (key, a, b) ∈ entries := by
  simp [arrivals]

theorem right_mem_arrivals {entries : List (Key × Left × Right)} {key : Key} {b : Right} :
    .right key b ∈ arrivals entries ↔ ∃ a, (key, a, b) ∈ entries := by
  simp [arrivals]

theorem eq_of_key {entries : List (Key × Left × Right)} (h : (entries.map Prod.fst).Nodup)
    {key : Key} {value value' : Left × Right} (hValue : (key, value) ∈ entries)
    (hValue' : (key, value') ∈ entries) : value = value' := by
  have hSame := List.inj_on_of_nodup_map h hValue hValue' rfl
  exact (Prod.mk.inj hSame).2

theorem distinct_of_perm {entries : List (Key × Left × Right)}
    {order : List (Arrival Key Left Right)} (h : (entries.map Prod.fst).Nodup)
    (hOrder : order.Perm (arrivals entries)) : Distinct order where
  nodup := by
    rw [hOrder.nodup_iff]
    refine List.nodup_append.mpr ⟨?_, ?_, ?_⟩
    · refine (List.Nodup.of_map _ h).map_on ?_
      rintro ⟨key, a, b⟩ hEntry ⟨key', a', b'⟩ hEntry' hSame
      cases hSame
      rw [eq_of_key h hEntry hEntry']
    · refine (List.Nodup.of_map _ h).map_on ?_
      rintro ⟨key, a, b⟩ hEntry ⟨key', a', b'⟩ hEntry' hSame
      cases hSame
      rw [eq_of_key h hEntry hEntry']
    · intro x hX y hY hSame
      obtain ⟨_, _, rfl⟩ := List.mem_map.mp hX
      obtain ⟨_, _, rfl⟩ := List.mem_map.mp hY
      cases hSame
  lefts key a a' hA hA' := by
    obtain ⟨b, hEntry⟩ := left_mem_arrivals.mp (hOrder.mem_iff.mp hA)
    obtain ⟨b', hEntry'⟩ := left_mem_arrivals.mp (hOrder.mem_iff.mp hA')
    exact (Prod.mk.inj (eq_of_key h hEntry hEntry')).1
  rights key b b' hB hB' := by
    obtain ⟨a, hEntry⟩ := right_mem_arrivals.mp (hOrder.mem_iff.mp hB)
    obtain ⟨a', hEntry'⟩ := right_mem_arrivals.mp (hOrder.mem_iff.mp hB')
    exact (Prod.mk.inj (eq_of_key h hEntry hEntry')).2

theorem Distinct.fresh {arrived : List (Arrival Key Left Right)} {arrival : Arrival Key Left Right}
    (h : Distinct (arrived ++ [arrival])) : arrival ∉ arrived := by
  have hSplit := List.nodup_append.mp h.nodup
  intro hMember
  exact hSplit.2.2 arrival hMember arrival List.mem_cons_self rfl

variable [DecidableEq Key]

/-- The value of a key joins the one that waits for it, or waits itself. -/
def Table.arrive (t : Table Key Left Right) : Arrival Key Left Right → Table Key Left Right
  | .left key value =>
      match t.rights key with
      | some other => { t with
          rights := Function.update t.rights key none
          pairs := t.pairs ++ [(key, value, other)] }
      | none => { t with lefts := Function.update t.lefts key (some value) }
  | .right key value =>
      match t.lefts key with
      | some other => { t with
          lefts := Function.update t.lefts key none
          pairs := t.pairs ++ [(key, other, value)] }
      | none => { t with rights := Function.update t.rights key (some value) }

theorem Table.arrive_left_joins {t : Table Key Left Right}
    {arrived : List (Arrival Key Left Right)} {key : Key} {value : Left} (h : t.Joins arrived)
    (hDistinct : Distinct (arrived ++ [.left key value])) :
    (t.arrive (.left key value)).Joins (arrived ++ [.left key value]) := by
  have hFresh := hDistinct.fresh
  have hLefts := h.lefts
  have hRights := h.rights
  have hPairs := h.pairs
  have hOnly : ∀ a, .left key a ∉ arrived := by
    intro a hMember
    have hSame : a = value := hDistinct.lefts key a value (List.mem_append_left _ hMember)
      (List.mem_append_right _ List.mem_cons_self)
    exact hFresh (hSame ▸ hMember)
  rw [arrive]
  split
  · next other hOther =>
      have hRight := ((h.rights key other).mp hOther).1
      have hUnique : ∀ b, .right key b ∈ arrived → b = other := fun b hMember =>
        hDistinct.rights key b other (List.mem_append_left _ hMember)
          (List.mem_append_left _ hRight)
      refine ⟨?_, ?_, ?_, ?_⟩
      · intro k a
        simp only [List.mem_append, List.mem_singleton]
        grind
      · intro k b
        simp only [List.mem_append, List.mem_singleton, Function.update_apply]
        grind
      · intro k a b
        simp only [List.mem_append, List.mem_singleton]
        grind
      · have hNew : (key, value, other) ∉ t.pairs := fun hMember =>
          hOnly value ((h.pairs key value other).mp hMember).1
        show (t.pairs ++ [(key, value, other)]).Nodup
        rw [← List.concat_eq_append]
        exact h.nodup.concat hNew
  · next hNone =>
      have hNoRight : ∀ b, .right key b ∉ arrived := by
        intro b hMember
        have hWaits := (h.rights key b).mpr ⟨hMember, hOnly⟩
        rw [hNone] at hWaits
        cases hWaits
      refine ⟨?_, ?_, ?_, h.nodup⟩
      · intro k a
        simp only [List.mem_append, List.mem_singleton, Function.update_apply]
        grind
      · intro k b
        simp only [List.mem_append, List.mem_singleton]
        grind
      · intro k a b
        simp only [List.mem_append, List.mem_singleton]
        grind

theorem Table.arrive_right_joins {t : Table Key Left Right}
    {arrived : List (Arrival Key Left Right)} {key : Key} {value : Right} (h : t.Joins arrived)
    (hDistinct : Distinct (arrived ++ [.right key value])) :
    (t.arrive (.right key value)).Joins (arrived ++ [.right key value]) := by
  have hFresh := hDistinct.fresh
  have hLefts := h.lefts
  have hRights := h.rights
  have hPairs := h.pairs
  have hOnly : ∀ b, .right key b ∉ arrived := by
    intro b hMember
    have hSame : b = value := hDistinct.rights key b value (List.mem_append_left _ hMember)
      (List.mem_append_right _ List.mem_cons_self)
    exact hFresh (hSame ▸ hMember)
  rw [arrive]
  split
  · next other hOther =>
      have hLeft := ((h.lefts key other).mp hOther).1
      have hUnique : ∀ a, .left key a ∈ arrived → a = other := fun a hMember =>
        hDistinct.lefts key a other (List.mem_append_left _ hMember)
          (List.mem_append_left _ hLeft)
      refine ⟨?_, ?_, ?_, ?_⟩
      · intro k a
        simp only [List.mem_append, List.mem_singleton, Function.update_apply]
        grind
      · intro k b
        simp only [List.mem_append, List.mem_singleton]
        grind
      · intro k a b
        simp only [List.mem_append, List.mem_singleton]
        grind
      · have hNew : (key, other, value) ∉ t.pairs := fun hMember =>
          hOnly value ((h.pairs key other value).mp hMember).2
        show (t.pairs ++ [(key, other, value)]).Nodup
        rw [← List.concat_eq_append]
        exact List.Nodup.concat hNew h.nodup
  · next hNone =>
      have hNoLeft : ∀ a, .left key a ∉ arrived := by
        intro a hMember
        have hWaits := (h.lefts key a).mpr ⟨hMember, hOnly⟩
        rw [hNone] at hWaits
        cases hWaits
      refine ⟨?_, ?_, ?_, h.nodup⟩
      · intro k a
        simp only [List.mem_append, List.mem_singleton]
        grind
      · intro k b
        simp only [List.mem_append, List.mem_singleton, Function.update_apply]
        grind
      · intro k a b
        simp only [List.mem_append, List.mem_singleton]
        grind

theorem Table.arrive_joins {t : Table Key Left Right} {arrived : List (Arrival Key Left Right)}
    {arrival : Arrival Key Left Right} (h : t.Joins arrived)
    (hDistinct : Distinct (arrived ++ [arrival])) :
    (t.arrive arrival).Joins (arrived ++ [arrival]) := by
  cases arrival with
  | left key value => exact arrive_left_joins h hDistinct
  | right key value => exact arrive_right_joins h hDistinct

theorem Table.foldl_joins {t : Table Key Left Right}
    {arrived arrivals : List (Arrival Key Left Right)} (h : t.Joins arrived)
    (hDistinct : Distinct (arrived ++ arrivals)) :
    (arrivals.foldl arrive t).Joins (arrived ++ arrivals) := by
  induction arrivals generalizing t arrived with
  | nil =>
      rw [List.append_nil]
      exact h
  | cons arrival arrivals ih =>
      rw [List.append_cons] at hDistinct ⊢
      exact ih (arrive_joins h hDistinct.first) hDistinct

/-- Each entry is joined once in any order of arrival, and nothing is left waiting. -/
theorem join_complete {entries : List (Key × Left × Right)}
    {order : List (Arrival Key Left Right)} (hKeys : (entries.map Prod.fst).Nodup)
    (hOrder : order.Perm (arrivals entries)) :
    ((order.foldl Table.arrive .empty).pairs.Perm entries) ∧
      (∀ key, (order.foldl Table.arrive .empty).lefts key = none) ∧
      ∀ key, (order.foldl Table.arrive .empty).rights key = none := by
  have hDistinct := distinct_of_perm hKeys hOrder
  have hJoins : (order.foldl Table.arrive .empty).Joins order :=
    Table.foldl_joins Table.empty_joins (by simpa using hDistinct)
  refine ⟨?_, ?_, ?_⟩
  · refine (List.perm_ext_iff_of_nodup hJoins.nodup (List.Nodup.of_map _ hKeys)).mpr ?_
    rintro ⟨key, a, b⟩
    rw [hJoins.pairs, hOrder.mem_iff, hOrder.mem_iff, left_mem_arrivals, right_mem_arrivals]
    constructor
    · rintro ⟨⟨b', hLeft⟩, ⟨a', hRight⟩⟩
      cases eq_of_key hKeys hLeft hRight
      exact hLeft
    · intro hEntry
      exact ⟨⟨b, hEntry⟩, ⟨a, hEntry⟩⟩
  · intro key
    rw [Option.eq_none_iff_forall_ne_some]
    intro a hWaits
    obtain ⟨hLeft, hNoRight⟩ := (hJoins.lefts key a).mp hWaits
    obtain ⟨b, hEntry⟩ := left_mem_arrivals.mp (hOrder.mem_iff.mp hLeft)
    exact hNoRight b (hOrder.mem_iff.mpr (right_mem_arrivals.mpr ⟨a, hEntry⟩))
  · intro key
    rw [Option.eq_none_iff_forall_ne_some]
    intro b hWaits
    obtain ⟨hRight, hNoLeft⟩ := (hJoins.rights key b).mp hWaits
    obtain ⟨a, hEntry⟩ := right_mem_arrivals.mp (hOrder.mem_iff.mp hRight)
    exact hNoLeft a (hOrder.mem_iff.mpr (left_mem_arrivals.mpr ⟨b, hEntry⟩))

end Join
