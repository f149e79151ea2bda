import Mathlib.Data.List.Forall2

/-!
# Results of work on a list

Work on a list that can fail gives one result for each element, in their order, or fails with the first that does.
-/

set_option autoImplicit false

namespace BundleWatch

theorem bind_eq_ok {ε α β : Type} {x : Except ε α} {f : α → Except ε β} {b : β} :
    (x >>= f) = .ok b ↔ ∃ a, x = .ok a ∧ f a = .ok b := by
  cases x with
  | error e => simp [bind, Except.bind]
  | ok a => simp [bind, Except.bind]

variable {α β ε : Type} {f g : α → Except ε β} {xs : List α} {ys : List β}

theorem map_m_ok : xs.mapM f = .ok ys ↔ List.Forall₂ (fun x y => f x = .ok y) xs ys := by
  induction xs generalizing ys with
  | nil =>
    rw [List.forall₂_nil_left_iff]
    exact Except.ok.injEq [] ys ▸ eq_comm
  | cons x xs ih =>
    rw [List.mapM_cons, List.forall₂_cons_left_iff]
    constructor
    · intro h
      rcases hx : f x with e | y <;> rw [hx] at h
      · cases h
      rcases hxs : xs.mapM f with e | zs <;> rw [hxs] at h
      · cases h
      cases h
      exact ⟨y, zs, rfl, ih.mp hxs, rfl⟩
    · rintro ⟨y, zs, hx, hxs, rfl⟩
      rw [hx, ih.mpr hxs]
      rfl

theorem map_m_succeeds : (∃ ys, xs.mapM f = .ok ys) ↔ ∀ x ∈ xs, ∃ y, f x = .ok y := by
  simp only [map_m_ok]
  induction xs with
  | nil => simp
  | cons x xs ih =>
    rw [List.forall_mem_cons, ← ih]
    simp only [List.forall₂_cons_left_iff]
    constructor
    · rintro ⟨-, y, ys, hx, hxs, rfl⟩
      exact ⟨⟨y, hx⟩, ys, hxs⟩
    · rintro ⟨⟨y, hx⟩, ys, hxs⟩
      exact ⟨y :: ys, y, ys, hx, hxs, rfl⟩

/-- A list that is worked through without an error gives the same results for work that agrees. -/
theorem map_m_agree (h : xs.mapM f = .ok ys) (hfg : ∀ x ∈ xs, ∀ y, f x = .ok y → g x = .ok y) :
    xs.mapM g = .ok ys := by
  have hboth := (List.forall₂_and_left _ _).mpr ⟨hfg, map_m_ok.mp h⟩
  exact map_m_ok.mpr (hboth.imp fun x y hxy => hxy.1 y hxy.2)

theorem map_m_flatten {f : α → Except ε (List β)} {Q : α → β → Prop}
    (h : ∀ x ∈ xs, ∃ ys, f x = .ok ys ∧ ∀ b, b ∈ ys ↔ Q x b) :
    ∃ yss, xs.mapM f = .ok yss ∧ ∀ b, b ∈ yss.flatten ↔ ∃ x ∈ xs, Q x b := by
  obtain ⟨yss, hyss⟩ := map_m_succeeds.mpr fun x hx => (h x hx).imp fun ys hys => hys.1
  have hboth := (List.forall₂_and_left _ _).mpr ⟨h, map_m_ok.mp hyss⟩
  refine ⟨yss, hyss, fun b => ?_⟩
  clear hyss h
  induction hboth with
  | nil => simp
  | cons hx _ ih =>
    obtain ⟨⟨ys, hys, hmem⟩, hfound⟩ := hx
    cases hys.symm.trans hfound
    rw [List.flatten_cons, List.mem_append, hmem, ih, List.exists_mem_cons_iff]

end BundleWatch
