import BundleWatch.Proofs.Engine.History
import BundleWatch.Task.Builtin

/-!
# Effects of tasks

What a handler does to its world is told by a relation between the world in which its work begins and the
world in which it ends. A relation that every handler keeps is kept by a batch as well, whether it succeeds
or not, as long as it holds of a world and itself and of one step after the other.
-/

set_option autoImplicit false

namespace BundleWatch

variable {σ : Type}

def Work.EndsIn {ω : Type} (P : ω → Prop) : Work ω → Prop
  | .finish w _ => P w
  | .enqueue _ resume => ∀ isNew, (resume isNew).EndsIn P

theorem Work.EndsIn.run {ω : Type} {P : ω → Prop} {w : Work ω} (h : w.EndsIn P) (q : TaskQueue) :
    P (w.run q).2.1 := by
  induction w generalizing q with
  | finish w o => exact h
  | enqueue t resume ih => exact ih (q.push t).2 (h _) (q.push t).1

/-- What the settings allow between two worlds. -/
abbrev Effect (σ : Type) := Settings → World σ → World σ → Prop

def Handler.Keeps (R : Effect σ) (h : Handler σ) : Prop :=
  ∀ settings args w, (h settings args w).EndsIn (R settings w)

namespace HandlerRegistry

def Keep (R : Effect σ) (r : HandlerRegistry σ) : Prop :=
  ∀ entry ∈ r.handlers, Handler.Keeps R entry.2

variable {R : Effect σ}

theorem Keep.empty : (empty : HandlerRegistry σ).Keep R := by simp [Keep, HandlerRegistry.empty]

theorem Keep.get {r : HandlerRegistry σ} (hr : r.Keep R) {name : String} {h : Handler σ}
    (hget : r.get? name = some h) : Handler.Keeps R h := by
  obtain ⟨before, after, heq, -⟩ := List.lookup_eq_some_iff.mp hget
  exact hr (name, h) (by simp [heq])

theorem Keep.register {r : HandlerRegistry σ} (hr : r.Keep R) (name : String) {h : Handler σ}
    (hh : Handler.Keeps R h) : (r.register name h).Keep R := by
  intro entry hin
  rcases List.mem_cons.mp hin with rfl | hin
  · exact hh
  · exact hr entry (List.mem_filter.mp hin).1

theorem get?_register_self (r : HandlerRegistry σ) (name : String) (h : Handler σ) :
    (r.register name h).get? name = some h := by
  simp [register, get?]

theorem get?_register_other (r : HandlerRegistry σ) {name other : String} (hne : other ≠ name)
    (h : Handler σ) : (r.register name h).get? other = r.get? other := by
  obtain ⟨entries⟩ := r
  simp only [register, get?, List.lookup_cons, beq_eq_false_iff_ne.mpr hne]
  induction entries with
  | nil => rfl
  | cons entry entries ih =>
    by_cases hdropped : entry.1 = name
    · have hskip : (other == entry.1) = false := beq_eq_false_iff_ne.mpr (hdropped ▸ hne)
      rw [List.filter_cons_of_neg (by simpa using hdropped), List.lookup_cons, hskip, ih]
    · rw [List.filter_cons_of_pos (by simpa using hdropped), List.lookup_cons, List.lookup_cons, ih]

theorem builtins_registered [Host σ] (r : HandlerRegistry σ) :
    r.registerBuiltins.get? Task.copyName = some Task.copy ∧
      r.registerBuiltins.get? Task.commandName = some Task.command ∧
      r.registerBuiltins.get? Task.reloadName = some Task.reload ∧
      r.registerBuiltins.get? Task.manifestName = some Task.manifest := by
  unfold registerBuiltins
  refine ⟨?_, ?_, ?_, get?_register_self _ _ _⟩
  · rw [get?_register_other _ (by decide), get?_register_other _ (by decide),
      get?_register_other _ (by decide), get?_register_self]
  · rw [get?_register_other _ (by decide), get?_register_other _ (by decide), get?_register_self]
  · rw [get?_register_other _ (by decide), get?_register_self]

theorem Keep.register_builtins [Host σ] {r : HandlerRegistry σ} (hr : r.Keep R)
    (hcopy : Handler.Keeps R (Task.copy : Handler σ))
    (hcommand : Handler.Keeps R (Task.command : Handler σ))
    (hreload : Handler.Keeps R (Task.reload : Handler σ))
    (hmanifest : Handler.Keeps R (Task.manifest : Handler σ)) : r.registerBuiltins.Keep R :=
  (((hr.register _ hcopy).register _ hcommand).register _ hreload).register _ hmanifest

end HandlerRegistry

/-! ## What the built-in tasks touch -/

namespace Task

theorem copy_frame [FileSystem σ] (settings : Settings) (args : List Arg) (w : World σ) :
    ∃ files done, copy settings args w = .finish { w with files := files } done := by
  unfold copy
  split
  · exact ⟨w.files, _, rfl⟩
  · split
    · exact ⟨_, _, rfl⟩
    · exact ⟨w.files, _, rfl⟩

theorem command_frame [Host σ] (settings : Settings) (args : List Arg) (w : World σ) :
    ∃ t done, command settings args w = .finish { w with processes := t } done := by
  unfold command
  split
  · exact ⟨w.processes, _, rfl⟩
  · split
    · exact ⟨_, _, rfl⟩
    · exact ⟨w.processes, _, rfl⟩

theorem reload_frame (settings : Settings) (args : List Arg) (w : World σ) :
    ∃ hub done, reload settings args w = .finish { w with hub := hub } done ∧
      (hub = w.hub ∨ ∃ message, hub = (w.hub.notify message).1) := by
  unfold reload
  split
  · exact ⟨w.hub, _, rfl, .inl rfl⟩
  · next name _ => exact ⟨_, _, rfl, .inr ⟨name, rfl⟩⟩

theorem manifest_frame [FileSystem σ] (settings : Settings) (args : List Arg) (w : World σ) :
    ∃ files done, manifest settings args w = .finish { w with files := files } done :=
  ⟨_, _, rfl⟩

end Task

theorem Engine.run_batch_keeps {R : Effect σ} (hrefl : ∀ settings w, R settings w w)
    (htrans : ∀ settings u v w, R settings u v → R settings v w → R settings u w)
    {handlers : HandlerRegistry σ} (hh : handlers.Keep R) (settings : Settings) (ts : List Task)
    (q : TaskQueue) (w : World σ) : R settings w (runBatch settings handlers ts q w).2.1 := by
  induction ts generalizing q w with
  | nil => exact hrefl settings w
  | cons t ts ih =>
    have hwork : (workOf settings handlers t w).EndsIn (R settings w) := by
      unfold workOf
      rcases hget : handlers.get? t.handler with _ | h
      · exact hrefl settings w
      · exact hh.get hget settings t.args w
    have hend := hwork.run q
    rcases hrun : (workOf settings handlers t w).run q with ⟨q', w', f | ⟨⟩⟩ <;> rw [hrun] at hend
    · rw [(batch_gives_up hrun ts).1]
      exact hend
    · rw [(batch_goes_on hrun ts).1]
      exact htrans settings w w' _ hend (ih q'.markRun w')

end BundleWatch
