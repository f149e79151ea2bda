import BundleWatch.Proofs.Files.Hops

/-!
# Entries in directories

If all entries but the roots lie in directories, then nothing is stored beneath a link. So at most one link stands on
the way to a path, and following it puts its target in the place of the link and of what stands above it. Links may
lead anywhere, also to relative paths and in circles.
-/

set_option autoImplicit false

namespace BundleWatch.Memory

/-- All entries but the two roots have a directory above them. -/
def Rooted (m : Memory) : Prop :=
  ∀ k e, m.get? k = some e →
    k = Key.here ∨ k = Key.root ∨ ∃ up cs, k.parent? = some up ∧ m.get? up = some (.dir cs)

variable {m : Memory} {p : Path} {j j' k r r' : Key} {target target' : Path} {e : Entry}

namespace Rooted

theorem empty_not_stored (h : m.Rooted) : m.get? [] = none := by
  rcases hat : m.get? [] with _ | e
  · rfl
  · rcases h _ e hat with hhere | hroot | ⟨up, -, hup, -⟩
    · cases hhere
    · cases hroot
    · cases hup

theorem ne_nil (h : m.Rooted) (he : m.get? k = some e) : k ≠ [] := by
  rintro rfl
  rw [h.empty_not_stored] at he
  cases he

theorem above (h : m.Rooted) (hj : j ≠ []) (hr : r ≠ []) (he : m.get? (j ++ r) = some e) :
    ∃ cs, m.get? j = some (.dir cs) := by
  induction r using List.reverseRecOn generalizing e with
  | nil => exact absurd rfl hr
  | append_singleton r c ih =>
    rw [← List.append_assoc] at he
    have hne : j ++ r ≠ [] := by simp [hj]
    have hlong (d : Component) : j ++ r ++ [c] ≠ [d] := by
      intro heq
      have hlen := congrArg List.length heq
      have hpos := List.length_pos_iff.mpr hne
      simp only [List.length_append, List.length_singleton] at hlen hpos
      omega
    obtain ⟨up, cs, hup, hcs⟩ := ((h _ e he).resolve_left (hlong _)).resolve_left (hlong _)
    rw [Key.parent?_concat hne] at hup
    obtain rfl := Option.some.inj hup
    by_cases hempty : r = []
    · subst hempty
      exact ⟨cs, by simpa using hcs⟩
    · exact ih hempty hcs

theorem nothing_beneath (h : m.Rooted) (hlink : m.get? j = some (.link target)) (hr : r ≠ []) :
    m.get? (j ++ r) = none := by
  rcases hat : m.get? (j ++ r) with _ | e
  · rfl
  · obtain ⟨cs, hcs⟩ := h.above (h.ne_nil hlink) hr hat
    rw [hlink] at hcs
    cases hcs

theorem link_unique (h : m.Rooted) (hk : j ++ r = j' ++ r') (hlink : m.get? j = some (.link target))
    (hlink' : m.get? j' = some (.link target')) : j = j' ∧ r = r' ∧ target = target' := by
  have hsame : j = j' ∧ r = r' := by
    rcases List.append_eq_append_iff.mp hk with ⟨s, rfl, rfl⟩ | ⟨s, rfl, rfl⟩
    · by_cases hs : s = []
      · simp [hs]
      · rw [h.nothing_beneath hlink hs] at hlink'
        cases hlink'
    · by_cases hs : s = []
      · simp [hs]
      · rw [h.nothing_beneath hlink' hs] at hlink
        cases hlink
  obtain ⟨rfl, rfl⟩ := hsame
  rw [hlink] at hlink'
  cases hlink'
  exact ⟨rfl, rfl, rfl⟩

theorem link_free_iff (h : m.Rooted) : m.LinkFree k ↔ ∀ j, j <+: k → ∀ target, m.get? j ≠ some (.link target) := by
  constructor
  · intro hfree j hj target hlink
    exact hfree j ⟨hj, fun hempty => absurd hempty (h.ne_nil hlink)⟩ target hlink
  · exact fun hnone j hj => hnone j hj.1

theorem link_free_of_stored (h : m.Rooted) (he : m.get? k = some e) (hsolid : ∀ target, e ≠ .link target) :
    m.LinkFree k := by
  rw [h.link_free_iff]
  rintro j ⟨r, rfl⟩ target hlink
  by_cases hr : r = []
  · subst hr
    rw [List.append_nil, hlink] at he
    exact hsolid target (Option.some.inj he).symm
  · rw [h.nothing_beneath hlink hr] at he
    cases he

theorem not_link_free (h : m.Rooted) (hlink : m.get? j = some (.link target)) (r : Key) : ¬m.LinkFree (j ++ r) := by
  intro hfree
  exact h.link_free_iff.mp hfree j (List.prefix_append j r) target hlink

/-- The target of a link takes the place of the link and of what stands above it. -/
theorem follow?_hop (h : m.Rooted) (hp : p.components = j ++ r) (hlink : m.get? j = some (.link target)) :
    ∃ q, m.follow? p = some q ∧ q.components = target.components ++ r := by
  rcases hq : m.follow? p with _ | q
  · rw [follow?_none, hp] at hq
    exact absurd hq (h.not_link_free hlink r)
  · obtain ⟨a, target', rest, -, hlink', hrest, rfl⟩ := follow?_some hq
    have hparts := Path.below?_components hrest
    obtain ⟨rfl, rfl, rfl⟩ := h.link_unique (hparts.symm.trans hp) hlink' hlink
    refine ⟨_, rfl, ?_⟩
    split
    · next hempty => rw [Path.text_empty_iff.mp hempty, List.append_nil]
    · exact Path.components_join_below? (h.ne_nil hlink') hrest _

end Rooted

end BundleWatch.Memory
