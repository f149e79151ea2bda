import Mathlib.Data.List.Induction

/-!
# Repetitions

Dropping repetitions keeps the first occurrence of each value, and so the order of the first occurrences.
-/

set_option autoImplicit false

namespace BundleWatch

theorem erase_dups_concat {α : Type} [DecidableEq α] (xs : List α) (x : α) :
    (xs ++ [x]).eraseDups = if x ∈ xs then xs.eraseDups else xs.eraseDups ++ [x] := by
  rw [List.eraseDups_append]
  by_cases hx : x ∈ xs <;> simp [List.removeAll, List.eraseDups_cons, hx]

/-- A partial function that is injective where it is defined commutes with dropping repetitions. -/
theorem erase_dups_filter_map {α β : Type} [DecidableEq α] [DecidableEq β] {f : α → Option β}
    (hf : ∀ {x y : α} {b : β}, f x = some b → f y = some b → x = y) (xs : List α) :
    xs.eraseDups.filterMap f = (xs.filterMap f).eraseDups := by
  induction xs using List.reverseRecOn with
  | nil => rfl
  | append_singleton xs x ih =>
    rw [erase_dups_concat, List.filterMap_append]
    rcases hx : f x with _ | b
    · split <;> simp [hx, ih]
    · have hmem : b ∈ xs.filterMap f ↔ x ∈ xs := by
        rw [List.mem_filterMap]
        constructor
        · rintro ⟨y, hy, hb⟩
          exact hf hx hb ▸ hy
        · exact fun hin => ⟨x, hin, hx⟩
      have hlast : [x].filterMap f = [b] := by simp [hx]
      rw [hlast, erase_dups_concat]
      simp only [hmem]
      split
      · exact ih
      · rw [List.filterMap_append, ih, hlast]

theorem erase_dups_filter {α : Type} [DecidableEq α] (p : α → Bool) (xs : List α) :
    (xs.filter p).eraseDups = xs.eraseDups.filter p := by
  rw [← List.filterMap_eq_filter]
  refine (erase_dups_filter_map ?_ xs).symm
  intro x y b hx hy
  rw [Option.guard_eq_some_iff] at hx hy
  exact hx.1.trans hy.1.symm

/-- What is new among values depends on their first one, and then on the others. -/
theorem erase_dups_cons_fresh {α : Type} [DecidableEq α] (x : α) (xs base : List α) :
    (x :: xs).eraseDups.filter (· ∉ base) =
      if x ∈ base then xs.eraseDups.filter (· ∉ base) else x :: xs.eraseDups.filter (· ∉ base ++ [x]) := by
  rw [List.eraseDups_cons, erase_dups_filter]
  by_cases hx : x ∈ base
  · rw [if_pos hx, List.filter_cons_of_neg (by simp [hx]), List.filter_filter]
    refine List.filter_congr fun y _ => ?_
    by_cases hy : y ∈ base
    · simp [hy]
    · have hne : y ≠ x := fun heq => hy (heq ▸ hx)
      simp [hy, hne]
  · rw [if_neg hx, List.filter_cons_of_pos (by simp [hx]), List.filter_filter]
    congr 1
    refine List.filter_congr fun y _ => ?_
    simp [Bool.and_comm, beq_eq_decide]

theorem erase_dups_append_congr {α : Type} [DecidableEq α] {xs xs' ys ys' : List α}
    (hx : xs.eraseDups = xs'.eraseDups) (hy : ys.eraseDups = ys'.eraseDups) :
    (xs ++ ys).eraseDups = (xs' ++ ys').eraseDups := by
  have hmem : ∀ y, xs.elem y = xs'.elem y := by
    intro y
    rw [Bool.eq_iff_iff, List.elem_iff, List.elem_iff, ← List.mem_eraseDups, hx, List.mem_eraseDups]
  rw [List.eraseDups_append, List.eraseDups_append, hx]
  simp only [List.removeAll, erase_dups_filter, hy, hmem]

theorem erase_dups_const {α : Type} [DecidableEq α] {xs : List α} {a : α} (h : ∀ x ∈ xs, x = a) :
    xs.eraseDups = if xs = [] then [] else [a] := by
  cases xs with
  | nil => rfl
  | cons x xs =>
    obtain rfl := h x (by simp)
    have hrest : xs.filter (fun b => !b == x) = [] := by
      rw [List.filter_eq_nil_iff]
      intro b hb
      simp [h b (by simp [hb])]
    rw [List.eraseDups_cons, hrest]
    rfl

theorem erase_dups_sublist {α : Type} [DecidableEq α] (xs : List α) : xs.eraseDups.Sublist xs := by
  induction xs using List.reverseRecOn with
  | nil => exact .slnil
  | append_singleton xs x ih =>
    rw [erase_dups_concat]
    split
    · exact ih.trans (List.sublist_append_left _ _)
    · exact ih.append (List.Sublist.refl _)

theorem erase_dups_nodup {α : Type} [DecidableEq α] (xs : List α) : xs.eraseDups.Nodup := by
  induction xs using List.reverseRecOn with
  | nil => exact List.nodup_nil
  | append_singleton xs x ih =>
    rw [erase_dups_concat]
    split
    · exact ih
    · next hx =>
      rw [List.nodup_append]
      refine ⟨ih, by simp, ?_⟩
      intro y hy z hz heq
      rw [heq, List.mem_singleton.mp hz] at hy
      exact hx (List.mem_eraseDups.mp hy)

theorem erase_dups_of_nodup {α : Type} [DecidableEq α] {xs : List α} (h : xs.Nodup) : xs.eraseDups = xs := by
  have hperm := (List.perm_ext_iff_of_nodup (erase_dups_nodup xs) h).mpr fun x => List.mem_eraseDups
  exact (erase_dups_sublist xs).eq_of_length hperm.length_eq

end BundleWatch
