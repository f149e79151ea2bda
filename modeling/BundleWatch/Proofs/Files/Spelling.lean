import BundleWatch.Proofs.Files.Resolution
import BundleWatch.Proofs.Path.Spelling

/-!
# Files by any spelling

Memory looks entries up by components. Two spellings of a path lead over the same links to the same entry, and what
stands there is told of both alike.
-/

set_option autoImplicit false

namespace BundleWatch.Memory

open BundleWatch.Path

variable {m : Memory} {p p' : Path}

theorem follow?_same (h : p.Same p') : (m.follow? p).map components = (m.follow? p').map components := by
  refine find_some?_same h.ancestors fun a a' ha => ?_
  rw [ha.eq]
  rcases m.get? a'.components with _ | bytes | cs | target
  · rfl
  · rfl
  · rfl
  · -- the rest of the path behind the link is joined to its target
    have hrest : ((a.below? p).getD ⟨""⟩).Same ((a'.below? p').getD ⟨""⟩) := by
      rcases same_cases (ha.below? h) with ⟨hq, hq'⟩ | ⟨q, q', hq, hq', hsame⟩ <;> rw [hq, hq']
      · rfl
      · exact hsame
    simp only [Option.map_some, hrest.text_empty]
    split
    · rfl
    · exact congrArg some (Same.join (p := target) rfl hrest)

theorem resolve_within_same (n : Nat) (h : p.Same p') : (m.resolveWithin n p).Same (m.resolveWithin n p') := by
  induction n generalizing p p' with
  | zero => exact h
  | succ n ih =>
    rw [resolveWithin, resolveWithin]
    rcases same_cases (m.follow?_same h) with ⟨hq, hq'⟩ | ⟨q, q', hq, hq', hsame⟩ <;> rw [hq, hq']
    · exact h
    · exact ih hsame

theorem resolve_same (h : p.Same p') : (m.resolve p).Same (m.resolve p') := resolve_within_same maxLinkHops h

theorem lookup?_same (h : p.Same p') : m.lookup? p = m.lookup? p' := by
  rw [lookup?, lookup?, (resolve_same h).eq]

theorem is_file_same (h : p.Same p') : m.isFile p = m.isFile p' := by
  rw [isFile, isFile, lookup?_same h]

theorem is_dir_same (h : p.Same p') : m.isDir p = m.isDir p' := by
  rw [isDir, isDir, lookup?_same h]

theorem own_same (h : p.Same p') : (m.own p).Same (m.own p') := by
  unfold own
  rw [h.file_name?]
  rcases same_cases h.parent? with ⟨hq, hq'⟩ | ⟨q, q', hq, hq', hsame⟩ <;> rw [hq, hq']
  · exact h
  · rcases p'.fileName? with _ | n
    · exact h
    · exact (resolve_same hsame).join rfl

theorem is_link_same (h : p.Same p') : m.isLink p = m.isLink p' := by
  rw [isLink, isLink, (own_same h).eq]

theorem canonicalize_same (h : p.Same p') :
    (m.canonicalize p).toOption.map components = (m.canonicalize p').toOption.map components := by
  have hplace : (m.resolve p).components = (m.resolve p').components := resolve_same h
  rw [canonicalize, canonicalize, hplace]
  rcases m.has (m.resolve p').components
  · rfl
  · exact congrArg some hplace

end BundleWatch.Memory
