import BundleWatch.Proofs.Files.Tree

/-!
# Following links

Nothing is stored beneath a link of a tree, so at most one link stands on the way to a key. A path leads to a
file or a directory exactly if the links on its way, followed one after the other, come to one before the bound.
A way that the bound cuts short ends at a link or at nothing.
-/

set_option autoImplicit false

namespace BundleWatch.Memory

def LinksAbsolute (m : Memory) : Prop := ∀ k target, m.get? k = some (.link target) → Key.IsAbsolute target.components

def hasLinksAbsolute (m : Memory) : Bool :=
  m.entries.all fun x =>
    match x.2 with
    | .link target => decide (Key.IsAbsolute target.components)
    | _ => true

/-- A key behind which no link stands any more, after so many links on the way to another key. -/
inductive Resolves (m : Memory) : Nat → Key → Key → Prop
  | here {k : Key} : m.LinkFree k → Resolves m 0 k k
  | hop {i : Nat} {j r k : Key} {target : Path} : m.get? j = some (.link target) →
      Resolves m i (target.components ++ r) k → Resolves m (i + 1) (j ++ r) k

variable {m : Memory}

theorem links_absolute_of_has_links_absolute (h : m.hasLinksAbsolute = true) : m.LinksAbsolute := by
  intro k target hlink
  have hcheck := List.all_eq_true.mp h _ (get?_entry hlink)
  exact of_decide_eq_true hcheck

theorem LinksAbsolute.is_absolute (h : m.LinksAbsolute) {k : Key} {target : Path}
    (hlink : m.get? k = some (.link target)) : target.isAbsolute = true :=
  Path.is_absolute_iff.mpr (h k target hlink).1

/-! ## Ways through links -/

namespace Resolves

variable {i i' : Nat} {k k' k'' s : Key}

theorem link_free (h : m.Resolves i k k') : m.LinkFree k' := by
  induction h with
  | here hfree => exact hfree
  | hop _ _ ih => exact ih

theorem append (h : m.Resolves i k k') (h' : m.Resolves i' (k' ++ s) k'') : m.Resolves (i + i') (k ++ s) k'' := by
  induction h with
  | here _ => rwa [Nat.zero_add]
  | hop hlink _ ih =>
    rw [List.append_assoc, Nat.succ_add]
    apply hop hlink
    rw [← List.append_assoc]
    exact ih h'

theorem split (htree : m.Tree) (h : m.Resolves i k k') (hs : m.Resolves i' (k ++ s) k'') :
    ∃ l, i' = i + l ∧ m.Resolves l (k' ++ s) k'' := by
  induction h generalizing i' with
  | here _ => exact ⟨i', (Nat.zero_add i').symm, hs⟩
  | @hop i j r k' target hlink _ ih =>
    generalize hkey : j ++ r ++ s = key at hs
    cases hs with
    | here hfree =>
      rw [← hkey, List.append_assoc] at hfree
      exact absurd hfree (htree.rooted.not_link_free hlink _)
    | @hop i' j' r' _ target' hlink' hrest =>
      rw [List.append_assoc] at hkey
      -- only one link stands on the way, so both ways go over it
      obtain ⟨rfl, rfl, rfl⟩ := htree.rooted.link_unique hkey hlink hlink'
      rw [← List.append_assoc] at hrest
      obtain ⟨l, rfl, hl⟩ := ih hrest
      exact ⟨l, by omega, hl⟩

theorem unique (htree : m.Tree) (h : m.Resolves i k k') (h' : m.Resolves i' k k'') : i = i' ∧ k' = k'' := by
  rw [← List.append_nil k] at h'
  obtain ⟨l, rfl, hl⟩ := h.split htree h'
  rw [List.append_nil] at hl
  cases hl with
  | here _ => exact ⟨rfl, rfl⟩
  | hop hlink _ => exact absurd h.link_free (htree.rooted.not_link_free hlink _)

end Resolves

/-! ## Resolution of paths -/

section Paths

variable {p : Path} {i n : Nat} {j k r : Key} {target : Path} {e : Entry}

theorem follow?_hop (htree : m.Tree) (hlinks : m.LinksAbsolute) (hp : p.components = j ++ r)
    (hlink : m.get? j = some (.link target)) :
    ∃ q, m.follow? p = some q ∧ q.isAbsolute = true ∧ q.components = target.components ++ r := by
  obtain ⟨q, hq, hcomponents⟩ := htree.rooted.follow?_hop hp hlink
  refine ⟨q, hq, ?_, hcomponents⟩
  rw [Path.is_absolute_iff, hcomponents, List.head?_append, Path.is_absolute_iff.mp (hlinks.is_absolute hlink)]
  rfl

theorem Resolves.resolve_within (htree : m.Tree) (hlinks : m.LinksAbsolute) (habs : p.isAbsolute = true)
    (h : m.Resolves i p.components k) (hi : i ≤ n) : (m.resolveWithin n p).components = k := by
  generalize hp : p.components = key at h
  induction h generalizing p n with
  | here hfree => rw [resolve_within_link_free (hp ▸ hfree), hp]
  | hop hlink _ ih =>
    obtain ⟨q, hq, hqabs, hqcomponents⟩ := follow?_hop htree hlinks hp hlink
    obtain ⟨n, rfl⟩ := Nat.exists_eq_succ_of_ne_zero (show n ≠ 0 by omega)
    rw [Memory.resolveWithin, hq]
    exact ih hqabs (by omega) hqcomponents

/-- A way that ends where no link stands was not cut short. -/
theorem Resolves.le_of_link_free (htree : m.Tree) (hlinks : m.LinksAbsolute) (habs : p.isAbsolute = true)
    (h : m.Resolves i p.components k) (hfree : m.LinkFree (m.resolveWithin n p).components) : i ≤ n := by
  generalize hp : p.components = key at h
  induction h generalizing p n with
  | here _ => exact Nat.zero_le n
  | hop hlink _ ih =>
    obtain ⟨q, hq, hqabs, hqcomponents⟩ := follow?_hop htree hlinks hp hlink
    cases n with
    | zero =>
      rw [Memory.resolveWithin, hp] at hfree
      exact absurd hfree (htree.rooted.not_link_free hlink _)
    | succ n =>
      rw [Memory.resolveWithin, hq] at hfree
      exact Nat.succ_le_succ (ih hqabs hfree hqcomponents)

/-- Nor was one that ends at a file or a directory. -/
theorem resolves_of_solid (htree : m.Tree) (hlinks : m.LinksAbsolute) (habs : p.isAbsolute = true)
    (he : m.get? (m.resolveWithin n p).components = some e) (hsolid : ∀ target, e ≠ .link target) :
    ∃ i ≤ n, m.Resolves i p.components (m.resolveWithin n p).components := by
  induction n generalizing p with
  | zero => exact ⟨0, Nat.le_refl 0, .here (htree.rooted.link_free_of_stored he hsolid)⟩
  | succ n ih =>
    by_cases hfree : m.LinkFree p.components
    · rw [resolve_within_link_free hfree]
      exact ⟨0, Nat.zero_le _, .here hfree⟩
    · obtain ⟨j, ⟨r, hr⟩, target, hlink⟩ : ∃ j, j <+: p.components ∧ ∃ target, m.get? j = some (.link target) := by
        simpa [htree.rooted.link_free_iff] using hfree
      obtain ⟨q, hq, hqabs, hqcomponents⟩ := follow?_hop htree hlinks hr.symm hlink
      rw [Memory.resolveWithin, hq] at he ⊢
      obtain ⟨i, hi, hresolves⟩ := ih hqabs he
      rw [hqcomponents] at hresolves
      exact ⟨i + 1, by omega, hr ▸ .hop hlink hresolves⟩

theorem Resolves.lookup?_eq (htree : m.Tree) (hlinks : m.LinksAbsolute) (habs : p.isAbsolute = true)
    (h : m.Resolves i p.components k) (hi : i ≤ maxLinkHops) : m.lookup? p = m.get? k := by
  rw [lookup?, resolve, h.resolve_within htree hlinks habs hi]

theorem lookup?_solid (htree : m.Tree) (hlinks : m.LinksAbsolute) (habs : p.isAbsolute = true)
    (hsolid : ∀ target, e ≠ .link target) :
    m.lookup? p = some e ↔ ∃ i ≤ maxLinkHops, ∃ k, m.Resolves i p.components k ∧ m.get? k = some e := by
  constructor
  · intro he
    obtain ⟨i, hi, hresolves⟩ := resolves_of_solid htree hlinks habs he hsolid
    exact ⟨i, hi, _, hresolves, he⟩
  · rintro ⟨i, hi, k, hresolves, he⟩
    rw [hresolves.lookup?_eq htree hlinks habs hi, he]

end Paths

end BundleWatch.Memory
