import BundleWatch.Proofs.List.Results
import BundleWatch.Task.Builtin

/-!
# Arguments of a copy

A copy takes two texts, its source and its destination. It is refused if one of them is missing, or if the destination
is empty or leads out of the output directory.
-/

set_option autoImplicit false

namespace BundleWatch.Task

variable {settings : Settings} {args : List Arg} {source target : Path} {dest : String}

theorem text_arg_ok {i : Nat} {what s : String} : textArg args i what = .ok s ↔ args[i]? = some (.text s) := by
  unfold textArg
  rcases args[i]? with _ | (t | n | xs) <;> simp [Arg.text?]

theorem destination_ok {out : Path} : destination out dest = .ok target ↔
    (∀ k ∈ (Path.mk dest).components, staysInside k) ∧ dest ≠ "" ∧ target = out.join ⟨dest⟩ := by
  have hall : (Path.mk dest).components.all staysInside = true ↔ ∀ k ∈ (Path.mk dest).components, staysInside k :=
    List.all_eq_true
  unfold destination
  rw [← hall]
  simp only []
  split
  · next hescapes => exact iff_of_false nofun fun h => by simp [h.1] at hescapes
  · next hstays =>
    have hinside : (Path.mk dest).components.all staysInside = true := by simpa using hstays
    split
    · next hempty => exact iff_of_false nofun fun h => h.2.1 (by simpa using hempty)
    · next hwritten =>
      constructor
      · intro h
        cases h
        exact ⟨hinside, by simpa using hwritten, rfl⟩
      · rintro ⟨-, -, rfl⟩
        rfl

theorem copy_args_ok : copyArgs settings args = .ok (source, target) ↔
    args[0]? = some (.text source.text) ∧
      ∃ dest, args[1]? = some (.text dest) ∧ destination settings.outputDir dest = .ok target := by
  simp only [copyArgs, bind_eq_ok, text_arg_ok, pure, Except.pure, Except.ok.injEq, Prod.mk.injEq]
  constructor
  · rintro ⟨s, hsource, dest, htext, p, hdest, rfl, rfl⟩
    exact ⟨hsource, dest, htext, hdest⟩
  · rintro ⟨hsource, dest, htext, hdest⟩
    exact ⟨source.text, hsource, dest, htext, target, hdest, rfl, rfl⟩

/-- Why a copy is refused: one of its arguments is no text, or the destination is empty or has a component that leads
out of the output directory. -/
def CopyRefused (args : List Arg) : Prop :=
  (∀ source, args[0]? ≠ some (.text source)) ∨ (∀ dest, args[1]? ≠ some (.text dest)) ∨
    ∃ dest, args[1]? = some (.text dest) ∧
      (dest = "" ∨ .root ∈ (Path.mk dest).components ∨ .up ∈ (Path.mk dest).components)

theorem stays_inside_iff {ks : List Component} :
    (∀ k ∈ ks, staysInside k) ↔ .root ∉ ks ∧ .up ∉ ks := by
  constructor
  · intro h
    exact ⟨fun hroot => absurd (h _ hroot) (by decide), fun hup => absurd (h _ hup) (by decide)⟩
  · rintro ⟨hroot, hup⟩ k hk
    cases k with
    | root => exact absurd hk hroot
    | up => exact absurd hk hup
    | here | name n => rfl

theorem copy_args_refused : (∃ e, copyArgs settings args = .error e) ↔ CopyRefused args := by
  have hsome : (∃ e, copyArgs settings args = .error e) ↔
      ¬ ∃ source target, copyArgs settings args = .ok (source, target) := by
    rcases copyArgs settings args with e | ⟨source, target⟩ <;> simp
  rw [hsome]
  simp only [copy_args_ok, destination_ok, stays_inside_iff]
  constructor
  · intro hnone
    by_contra hfine
    simp only [CopyRefused, not_or, not_forall, not_exists, not_and, ne_eq, not_not] at hfine
    obtain ⟨⟨s, hsource⟩, ⟨dest, hdest⟩, hplain⟩ := hfine
    obtain ⟨hwritten, hroot, hup⟩ := hplain dest hdest
    exact hnone ⟨⟨s⟩, _, hsource, dest, hdest, ⟨hroot, hup⟩, hwritten, rfl⟩
  · rintro hrefused ⟨source, target, hsource, dest, hdest, ⟨hroot, hup⟩, hwritten, -⟩
    rcases hrefused with hnone | hnone | ⟨dest', hdest', hbad⟩
    · exact hnone _ hsource
    · exact hnone _ hdest
    · rw [hdest] at hdest'
      cases hdest'
      rcases hbad with hempty | hin | hin
      · exact hwritten hempty
      · exact hroot hin
      · exact hup hin

end BundleWatch.Task
