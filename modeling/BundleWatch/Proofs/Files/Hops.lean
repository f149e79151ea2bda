import BundleWatch.Proofs.Files.Resolution
import BundleWatch.Proofs.Path.Relative

/-!
# Hops over links

Following a link puts its target in front of what stands behind the link on the way. So a hop shortens a path by what
leads to the link at most, and a path that leads to an entry is no longer than the links on its way allow.
-/

set_option autoImplicit false

namespace BundleWatch

theorem Path.length_le_join (base q : Path) : q.components.length ≤ (base.join q).components.length := by
  rcases habs : q.isAbsolute
  · by_cases hempty : base.text = ""
    · rw [join_of_empty hempty]
    · -- at most an anchor is lost, and the directory contributes something in its place
      have hbase : base.components ≠ [] := fun h => hempty (text_empty_iff.mpr h)
      have hanchor : q.anchor.components.length ≤ base.components.length := by
        have hpos := List.length_pos_iff.mpr hbase
        cases q.anchor <;> simp [Anchor.components] <;> omega
      rw [components_join habs hempty, Anchor.components_split, components, List.length_append, List.length_append]
      exact Nat.add_le_add_right hanchor _
  · rw [join, if_pos habs]

namespace Memory

variable {m : Memory} {p q : Path} {e : Entry}

/-- What is followed is a link on the way, and what is left of the path behind it is joined to its target. -/
theorem follow?_some (h : m.follow? p = some q) :
    ∃ (a target rest : Path), OnTheWay a.components p.components ∧ m.get? a.components = some (.link target) ∧
      a.below? p = some rest ∧ q = if rest.text = "" then target else target.join rest := by
  obtain ⟨a, ha, hat⟩ := List.exists_of_findSome?_eq_some h
  have hway := (p.ancestors_components _).mp ⟨a, ha, rfl⟩
  obtain ⟨rest, hrest⟩ := Path.below?_is_some hway.1
  split at hat
  · next target hlink =>
    rw [hrest, Option.getD_some] at hat
    exact ⟨a, target, rest, hway, hlink, hrest, (Option.some.inj hat).symm⟩
  · cases hat

theorem follow?_length (h : m.follow? p = some q) :
    p.components.length ≤ m.longestKey + q.components.length := by
  obtain ⟨a, target, rest, -, hlink, hrest, rfl⟩ := follow?_some h
  have hparts := congrArg List.length (Path.below?_components hrest)
  have hkey := length_le_longest_key hlink
  rw [List.length_append] at hparts
  have hleft : rest.components.length ≤
      (if rest.text = "" then target else target.join rest).components.length := by
    split
    · next hempty => simp [Path.text_empty_iff.mp hempty]
    · exact Path.length_le_join target rest
  omega

theorem resolve_within_length (m : Memory) (n : Nat) (p : Path) :
    p.components.length ≤ n * m.longestKey + (m.resolveWithin n p).components.length := by
  induction n generalizing p with
  | zero => simp [resolveWithin]
  | succ n ih =>
    rw [resolveWithin]
    rcases hq : m.follow? p with _ | q
    · exact Nat.le_add_left _ _
    · have hhop := follow?_length hq
      have hrest := ih q
      simp only []
      rw [Nat.succ_mul]
      omega

/-- Links do not make ways endless: a path that leads to an entry has a bounded length. -/
theorem lookup?_length (h : m.lookup? p = some e) :
    p.components.length ≤ (maxLinkHops + 1) * m.longestKey := by
  have hhops := m.resolve_within_length maxLinkHops p
  have hend : (m.resolve p).components.length ≤ m.longestKey := length_le_longest_key h
  rw [Nat.succ_mul]
  exact hhops.trans (Nat.add_le_add_left hend _)

end Memory

end BundleWatch
