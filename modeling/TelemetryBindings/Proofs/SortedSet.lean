import Mathlib.Data.List.Induction
import Mathlib.Data.List.Sort
import Mathlib.Data.String.Basic
import TelemetryBindings.Text.Sorted

/-!
# Sorted sets of texts

`sortedSet` gives the strictly ascending list of the distinct texts of a list. A strictly ascending
list is determined by its members, so neither the order of the texts nor their repetition matters.
-/
namespace TelemetryBindings.Text

@[simp] theorem mem_insertSorted {s t : String} {texts : List String} :
    t ∈ insertSorted s texts ↔ t = s ∨ t ∈ texts := by
  induction texts with
  | nil => simp [insertSorted]
  | cons x xs ih =>
    rw [insertSorted]
    split_ifs with hlt heq
    · exact List.mem_cons
    · subst heq
      simp
    · rw [List.mem_cons, ih, List.mem_cons, or_left_comm]

theorem sortedLT_insertSorted (s : String) {texts : List String} (h : texts.SortedLT) :
    (insertSorted s texts).SortedLT := by
  rw [List.sortedLT_iff_pairwise] at h ⊢
  induction texts with
  | nil => simp [insertSorted]
  | cons x xs ih =>
    obtain ⟨hx, hxs⟩ := List.pairwise_cons.mp h
    unfold insertSorted
    split_ifs with hlt heq
    · refine List.pairwise_cons.mpr ⟨?_, h⟩
      intro y hy
      rcases List.mem_cons.mp hy with rfl | hy
      · exact hlt
      · exact hlt.trans (hx y hy)
    · exact h
    · refine List.pairwise_cons.mpr ⟨?_, ih hxs⟩
      intro y hy
      rcases mem_insertSorted.mp hy with rfl | hy
      · exact lt_of_le_of_ne (not_lt.mp hlt) (Ne.symm heq)
      · exact hx y hy

theorem insertSorted_of_mem {s : String} {texts : List String} (h : texts.SortedLT)
    (hs : s ∈ texts) : insertSorted s texts = texts := by
  apply (sortedLT_insertSorted s h).eq_of_mem_iff h
  intro t
  rw [mem_insertSorted]
  exact ⟨fun ht => ht.elim (fun e => e ▸ hs) id, Or.inr⟩

theorem sortedSet_append_singleton (texts : List String) (s : String) :
    sortedSet (texts ++ [s]) = insertSorted s (sortedSet texts) := by
  simp [sortedSet]

@[simp] theorem mem_sortedSet {t : String} {texts : List String} :
    t ∈ sortedSet texts ↔ t ∈ texts := by
  induction texts using List.reverseRecOn with
  | nil => simp [sortedSet]
  | append_singleton xs x ih =>
    simp only [sortedSet_append_singleton, mem_insertSorted, ih, List.mem_append,
      List.mem_singleton]
    exact or_comm

theorem sortedLT_sortedSet (texts : List String) : (sortedSet texts).SortedLT := by
  induction texts using List.reverseRecOn with
  | nil => simp [sortedSet, List.sortedLT_iff_pairwise]
  | append_singleton xs x ih =>
    rw [sortedSet_append_singleton]
    exact sortedLT_insertSorted x ih

/-- Only the members of a list decide its sorted set. -/
theorem sortedSet_congr {xs ys : List String} (h : ∀ t, t ∈ xs ↔ t ∈ ys) :
    sortedSet xs = sortedSet ys :=
  (sortedLT_sortedSet xs).eq_of_mem_iff (sortedLT_sortedSet ys) fun t => by
    simp only [mem_sortedSet, h]

/-- What keeps the order of texts can be done before or after sorting. -/
theorem sortedSet_map {f : String → String} (hf : StrictMono f) (texts : List String) :
    sortedSet (texts.map f) = (sortedSet texts).map f := by
  have hsorted : ((sortedSet texts).map f).SortedLT := by
    rw [List.sortedLT_iff_pairwise, List.pairwise_map]
    exact (List.sortedLT_iff_pairwise.mp (sortedLT_sortedSet texts)).imp fun hlt => hf hlt
  apply (sortedLT_sortedSet _).eq_of_mem_iff hsorted
  intro t
  simp only [mem_sortedSet, List.mem_map]

end TelemetryBindings.Text
