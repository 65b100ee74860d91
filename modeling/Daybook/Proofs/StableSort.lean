import Mathlib.Data.List.Basic
import Mathlib.Data.List.Pairwise

/-!
# Stable sorts

A stable sort of a list is in order, and the items that are level with any one item stand in it as
they do in the list (`IsStableSort`). There is only one (`IsStableSort.unique`), merge sort finds it
(`isStableSort_mergeSort`), and leaving out items before sorting is leaving them out afterwards
(`IsStableSort.filter`).
-/

namespace Daybook

variable {α : Type} {le : α → α → Bool} {xs ys zs : List α}

/-- Whether of two items neither has to come before the other. -/
def level (le : α → α → Bool) (a b : α) : Bool :=
  le a b && le b a

/-- Whether a list has the items of another in order, and those that are level as they stand
there. -/
structure IsStableSort (le : α → α → Bool) (xs ys : List α) : Prop where
  perm : ys.Perm xs
  ordered : ys.Pairwise (fun a b => le a b = true)
  stable : ∀ a, ys.filter (level le a) = xs.filter (level le a)

theorem IsStableSort.filter (h : IsStableSort le xs ys) (p : α → Bool) :
    IsStableSort le (xs.filter p) (ys.filter p) where
  perm := h.perm.filter p
  ordered := h.ordered.filter p
  stable := fun a => by
    rw [List.filter_comm, h.stable a, List.filter_comm]

section

variable (total : ∀ a b, (le a b || le b a) = true)

include total

theorem level_self (a : α) : level le a a = true := by
  have h := total a a
  rw [Bool.or_self] at h
  rw [level, h, Bool.and_self]

theorem mem_iff_of_filter_level (h : ∀ a, ys.filter (level le a) = zs.filter (level le a)) (a : α) :
    a ∈ ys ↔ a ∈ zs := by
  have hself := level_self total a
  have hboth : a ∈ ys.filter (level le a) ↔ a ∈ zs.filter (level le a) := by rw [h a]
  simpa [hself] using hboth

/-- An ordered list is told by what stands in it level with each item. -/
theorem eq_of_filter_level (hys : ys.Pairwise (fun a b => le a b = true))
    (hzs : zs.Pairwise (fun a b => le a b = true))
    (h : ∀ a, ys.filter (level le a) = zs.filter (level le a)) : ys = zs := by
  induction ys generalizing zs with
  | nil =>
      have hmem := mem_iff_of_filter_level total h
      exact (List.eq_nil_iff_forall_not_mem.mpr fun a ha => nomatch (hmem a).mpr ha).symm
  | cons a ys ih =>
      have hmem := mem_iff_of_filter_level total h
      cases zs with
      | nil => exact nomatch (hmem a).mp List.mem_cons_self
      | cons b zs =>
          obtain ⟨haa, -⟩ := Bool.and_eq_true_iff.mp (level_self total a)
          obtain ⟨hbb, -⟩ := Bool.and_eq_true_iff.mp (level_self total b)
          obtain ⟨hfirst, hrest⟩ := List.pairwise_cons.mp hys
          obtain ⟨hfirst', hrest'⟩ := List.pairwise_cons.mp hzs
          -- Each head is in the other list as well, so neither has to come before the other.
          have hab : le a b = true := by
            rcases List.mem_cons.mp ((hmem b).mpr List.mem_cons_self) with rfl | hb
            · exact hbb
            · exact hfirst b hb
          have hba : le b a = true := by
            rcases List.mem_cons.mp ((hmem a).mp List.mem_cons_self) with rfl | ha
            · exact haa
            · exact hfirst' a ha
          have hlevel : level le a b = true := Bool.and_eq_true_iff.mpr ⟨hab, hba⟩
          have hheads := h a
          rw [List.filter_cons_of_pos (level_self total a), List.filter_cons_of_pos hlevel] at hheads
          obtain rfl : a = b := (List.cons.inj hheads).1
          have htails : ∀ c, ys.filter (level le c) = zs.filter (level le c) := by
            intro c
            have hc := h c
            rw [List.filter_cons, List.filter_cons] at hc
            split at hc
            · exact (List.cons.inj hc).2
            · exact hc
          rw [ih hrest hrest' htails]

theorem IsStableSort.unique (hys : IsStableSort le xs ys) (hzs : IsStableSort le xs zs) : ys = zs :=
  eq_of_filter_level total hys.ordered hzs.ordered fun a => (hys.stable a).trans (hzs.stable a).symm

variable (trans : ∀ a b c, le a b = true → le b c = true → le a c = true)

include trans

theorem isStableSort_mergeSort (xs : List α) : IsStableSort le xs (xs.mergeSort le) where
  perm := List.mergeSort_perm xs le
  ordered := List.pairwise_mergeSort trans total xs
  stable := fun a => by
    have hclass : (xs.filter (level le a)).Pairwise (fun b c => le b c = true) := by
      refine List.pairwise_of_forall_mem_list fun b hb c hc => ?_
      have hba := (Bool.and_eq_true_iff.mp (List.mem_filter.mp hb).2).2
      have hac := (Bool.and_eq_true_iff.mp (List.mem_filter.mp hc).2).1
      exact trans b a c hba hac
    have hkept : (xs.filter (level le a)).Sublist (xs.mergeSort le) :=
      List.sublist_mergeSort trans total hclass List.filter_sublist
    have hfound := hkept.filter (level le a)
    have htwice : (xs.filter (level le a)).filter (level le a) = xs.filter (level le a) :=
      List.filter_eq_self.mpr fun b hb => (List.mem_filter.mp hb).2
    rw [htwice] at hfound
    exact (hfound.eq_of_length (((List.mergeSort_perm xs le).filter _).length_eq).symm).symm

end

end Daybook
