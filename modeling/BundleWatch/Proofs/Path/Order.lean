import BundleWatch.Path.Basic
import Mathlib.Data.List.Lex
import Mathlib.Data.Prod.Lex
import Mathlib.Data.String.Basic

/-!
# The order of paths

Components are ordered linearly, and paths by their components. So sorting paths of which no two are spellings
of one path puts each strictly before the next.
-/

set_option autoImplicit false

namespace BundleWatch

namespace Component

def orderKey : Component → Nat ×ₗ String
  | .root => toLex (0, "")
  | .here => toLex (1, "")
  | .up => toLex (2, "")
  | .name s => toLex (3, s)

theorem order_key_injective : Function.Injective orderKey := by
  intro k l h
  cases k <;> cases l <;> simp_all [orderKey]

theorem precedes_iff {k l : Component} : k.precedes l = true ↔ k.orderKey < l.orderKey := by
  rw [Prod.Lex.lt_iff]
  cases k <;> cases l <;> simp [precedes, orderKey] <;>
    exact Nat.le_of_ble_eq_true rfl

abbrev Before (k l : Component) : Prop := k.precedes l = true

instance : Std.Asymm Before where
  asymm _ _ h h' := lt_asymm (precedes_iff.mp h) (precedes_iff.mp h')

instance : Std.Trichotomous Before where
  trichotomous k l h h' := by
    apply order_key_injective
    exact le_antisymm (not_lt.mp fun hlt => h' (precedes_iff.mpr hlt)) (not_lt.mp fun hlt => h (precedes_iff.mpr hlt))

instance : IsOrderConnected Component Before where
  conn k l j h := by
    rw [Before, Before, precedes_iff, precedes_iff]
    by_cases hkl : k.orderKey < l.orderKey
    · exact .inl hkl
    · exact .inr ((not_lt.mp hkl).trans_lt (precedes_iff.mp h))

end Component

namespace Path

theorem precedes_iff_lex {p q : Path} :
    p.precedes q = true ↔ List.Lex Component.Before p.components q.components :=
  List.lex_eq_true_iff_lex Component.precedes

theorem mem_sort {p : Path} {ps : List Path} : p ∈ sort ps ↔ p ∈ ps := List.mem_mergeSort

theorem sort_strict {ps : List Path} (h : ps.Pairwise fun p q => ¬p.Same q) :
    (sort ps).Pairwise fun p q => p.precedes q = true := by
  have hsorted := @List.pairwise_mergeSort Path (fun p q => !q.precedes p) ?_ ?_ ps
  · have happart : (sort ps).Pairwise fun p q => ¬p.Same q :=
      ((List.mergeSort_perm ps _).pairwise_iff fun hne hsame => hne hsame.symm).mpr h
    refine hsorted.imp₂ ?_ happart
    intro p q hle hne
    by_contra hnot
    rw [Bool.not_eq_true'] at hle
    rw [precedes_iff_lex] at hnot
    rw [← Bool.not_eq_true, precedes_iff_lex] at hle
    exact hne (Std.Trichotomous.trichotomous _ _ hnot hle)
  · intro p q r hpq hqr
    simp only [Bool.not_eq_true', ← Bool.not_eq_true, precedes_iff_lex] at *
    intro hrp
    rcases IsOrderConnected.conn _ q.components _ hrp with h | h
    · exact hqr h
    · exact hpq h
  · intro p q
    simp only [Bool.or_eq_true, Bool.not_eq_true', ← Bool.not_eq_true, precedes_iff_lex]
    by_cases hqp : List.Lex Component.Before q.components p.components
    · exact .inr fun hpq => Std.Asymm.asymm _ _ hpq hqp
    · exact .inl hqp

end Path

end BundleWatch
