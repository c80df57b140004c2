import Mathlib.Data.List.Sort

/-! Stable sorting by an order in which different items may be equal. There is one stable way to sort a list,
so that two algorithms which both find one agree. -/

namespace MiniSql
open Std

variable {α : Type} {compare : α → α → Ordering} {items : List α}

/-- The items in ascending order, those that are equal to one another in the order they had. -/
structure StableSort (compare : α → α → Ordering) (items sorted : List α) : Prop where
  perm : sorted.Perm items
  ascending : sorted.Pairwise fun first second => (compare first second).isLE
  stable : ∀ item, sorted.filter (compare item · = .eq) = items.filter (compare item · = .eq)

namespace StableSort
variable [TransCmp compare]

private theorem least {item other : α} {sorted : List α}
    (ascending : (item :: sorted).Pairwise fun first second => (compare first second).isLE)
    (member : other ∈ item :: sorted) : (compare item other).isLE := by
  rcases List.mem_cons.mp member with rfl | member
  · rw [show compare other other = .eq from ReflCmp.compare_self]
    rfl
  · exact (List.pairwise_cons.mp ascending).1 other member

private theorem mem_of_same {first second : List α} {item : α} (member : item ∈ first)
    (same : ∀ item, first.filter (compare item · = .eq) = second.filter (compare item · = .eq)) : item ∈ second := by
  have own : item ∈ first.filter (compare item · = .eq) := List.mem_filter.mpr ⟨member, by simp [ReflCmp.compare_self]⟩
  rw [same] at own
  exact List.mem_of_mem_filter own

/-- Ascending lists that agree on the items equal to any given one agree. The heads are least in both
lists, so they are equal to each other, and then the same. -/
theorem eq_of_ascending {first second : List α} (ascending : first.Pairwise fun one other => (compare one other).isLE)
    (ascendingSecond : second.Pairwise fun one other => (compare one other).isLE)
    (same : ∀ item, first.filter (compare item · = .eq) = second.filter (compare item · = .eq)) : first = second := by
  induction first generalizing second with
  | nil =>
    cases second with
    | nil => rfl
    | cons item second => cases mem_of_same List.mem_cons_self fun item => (same item).symm
  | cons item first ih =>
    cases second with
    | nil => cases mem_of_same List.mem_cons_self same
    | cons head second =>
      have heads : compare item head = .eq := by
        apply OrientedCmp.isLE_antisymm
        · exact least ascending (mem_of_same List.mem_cons_self fun item => (same item).symm)
        · exact least ascendingSecond (mem_of_same List.mem_cons_self same)
      have both := same item
      rw [List.filter_cons_of_pos (by simp [ReflCmp.compare_self]), List.filter_cons_of_pos (by simp [heads])] at both
      obtain ⟨rfl, _⟩ := List.cons_eq_cons.mp both
      refine congrArg _ (ih (List.pairwise_cons.mp ascending).2 (List.pairwise_cons.mp ascendingSecond).2 fun other => ?_)
      have rest := same other
      simp only [List.filter_cons] at rest
      split at rest
      · exact (List.cons_eq_cons.mp rest).2
      · exact rest

theorem unique {first second : List α} (one : StableSort compare items first) (other : StableSort compare items second) :
    first = second :=
  eq_of_ascending one.ascending other.ascending fun item => (one.stable item).trans (other.stable item).symm

/-- A rearranged list is stable if equal items, in the order they had, are a part of it. -/
theorem stable_of_sublist {sorted : List α} (perm : sorted.Perm items)
    (kept : ∀ part : List α, part.Sublist items → (part.Pairwise fun first second => compare first second = .eq) →
      part.Sublist sorted) (item : α) :
    sorted.filter (compare item · = .eq) = items.filter (compare item · = .eq) := by
  have equal : (items.filter (compare item · = .eq)).Pairwise fun first second => compare first second = .eq := by
    refine List.pairwise_of_forall_mem_list fun first insideFirst second insideSecond => ?_
    have one : compare item first = .eq := by simpa using (List.mem_filter.mp insideFirst).2
    have other : compare item second = .eq := by simpa using (List.mem_filter.mp insideSecond).2
    exact TransCmp.eq_trans (OrientedCmp.eq_symm one) other
  have inside := (kept _ List.filter_sublist equal).filter (compare item · = .eq)
  rw [List.filter_filter] at inside
  simp only [Bool.and_self] at inside
  exact (inside.eq_of_length (perm.filter _).length_eq.symm).symm

private theorem isLE_total (first second : α) : (compare first second).isLE ∨ (compare second first).isLE := by
  rw [show compare second first = (compare first second).swap from OrientedCmp.eq_swap]
  cases compare first second <;> simp

theorem mergeSort (compare : α → α → Ordering) [TransCmp compare] (items : List α) :
    StableSort compare items (items.mergeSort fun first second => (compare first second).isLE) := by
  have trans (first second third : α) (one : (compare first second).isLE) (other : (compare second third).isLE) :
      (compare first third).isLE := TransCmp.isLE_trans one other
  have total (first second : α) : ((compare first second).isLE || (compare second first).isLE) = true := by
    rw [Bool.or_eq_true]
    exact isLE_total first second
  have perm := List.mergeSort_perm items fun first second => (compare first second).isLE
  refine ⟨perm, List.pairwise_mergeSort trans total items, stable_of_sublist perm fun part inside equal => ?_⟩
  exact List.sublist_mergeSort trans total (equal.imp fun same => by simp [same]) inside

/-- Items inserted one after another into a list that runs from the greatest to the least, each in front of those
it is equal to. -/
theorem insertionSort (compare : α → α → Ordering) [TransCmp compare] (items : List α) :
    StableSort compare items (items.reverse.insertionSort fun first second => (compare second first).isLE).reverse := by
  have total : Std.Total fun first second => (compare second first).isLE = true :=
    ⟨fun first second => isLE_total second first⟩
  have trans : IsTrans α fun first second => (compare second first).isLE = true :=
    ⟨fun first second third one other => TransCmp.isLE_trans other one⟩
  have inserted := List.perm_insertionSort (fun first second => (compare second first).isLE = true) items.reverse
  have perm := (List.reverse_perm _).trans (inserted.trans (List.reverse_perm items))
  refine ⟨perm, List.pairwise_reverse.mpr (List.pairwise_insertionSort _ _), ?_⟩
  refine stable_of_sublist perm fun part inside equal => ?_
  have turned : part.reverse.Pairwise fun first second => (compare second first).isLE :=
    List.pairwise_reverse.mpr (equal.imp fun same => by simp [same])
  exact List.reverse_sublist.mp (by simpa using List.sublist_insertionSort turned inside.reverse)

/-- Items that are equal to one another stand in an order in which every group of equal items stands. -/
theorem pairwise_of_groups {relates : α → α → Prop} {sorted : List α}
    (groups : ∀ item, (sorted.filter (compare item · = .eq)).Pairwise relates) :
    sorted.Pairwise fun first second => compare first second = .eq → relates first second := by
  induction sorted with
  | nil => exact .nil
  | cons item sorted ih =>
    refine .cons (fun other member same => ?_) (ih fun other => ?_)
    · have own := groups item
      rw [List.filter_cons_of_pos (by simp [ReflCmp.compare_self])] at own
      exact (List.pairwise_cons.mp own).1 other (List.mem_filter.mpr ⟨member, by simpa using same⟩)
    · exact (groups other).sublist ((List.sublist_cons_self item sorted).filter _)

/-- What is sorted by one order and then, stably, by another is sorted by the second order first and by the first one
among items that are equal in the second. -/
theorem lexicographic {inner : α → α → Ordering} {once twice : List α} (first : StableSort inner items once)
    (second : StableSort compare once twice) : StableSort (compareLex compare inner) items twice := by
  refine ⟨second.perm.trans first.perm, ?_, fun item => ?_⟩
  · have groups : twice.Pairwise fun one other => compare one other = .eq → (inner one other).isLE := by
      refine pairwise_of_groups fun item => ?_
      rw [second.stable]
      exact first.ascending.filter _
    refine (second.ascending.and groups).imp fun {one other} both => ?_
    obtain ⟨least, equal⟩ := both
    unfold compareLex
    cases decided : compare one other with
    | lt => rfl
    | eq => exact equal decided
    | gt => simp [decided] at least
  · simp only [compareLex, Ordering.then_eq_eq, Bool.decide_and]
    calc twice.filter (fun other => decide (compare item other = .eq) && decide (inner item other = .eq))
        = (twice.filter (compare item · = .eq)).filter (inner item · = .eq) := by simp [List.filter_filter, Bool.and_comm]
      _ = (once.filter (inner item · = .eq)).filter (compare item · = .eq) := by
        rw [second.stable, List.filter_filter, List.filter_filter]
        simp [Bool.and_comm]
      _ = items.filter (fun other => decide (compare item other = .eq) && decide (inner item other = .eq)) := by
        rw [first.stable, List.filter_filter]

end StableSort

end MiniSql
