import BundleWatch.Files.Memory
import BundleWatch.Proofs.Engine.Setup
import BundleWatch.Proofs.Files.Storage
import BundleWatch.Proofs.Task.Arguments

/-!
# Confinement

What the built-in tasks write lies in the output directory, with two exceptions. The destination of a copy may
be a written `.`, and then the copy takes the place of the directory itself. The name of the manifest is joined
as it is, so the manifest lies wherever that name leads.
-/

set_option autoImplicit false

namespace BundleWatch

def Memory.addFiles (m : Memory) (writes : List (Path × Bytes)) : Memory :=
  writes.foldl (fun m w => m.addFile w.1 w.2) m

def LeadsInside (name : String) : Prop :=
  (∀ k ∈ (Path.mk name).components, Task.staysInside k) ∧ ∃ n, .name n ∈ (Path.mk name).components

inductive Placed (settings : Settings) : Path → Prop
  | copy {dest : String} {p : Path} :
      Task.destination settings.outputDir dest = .ok p → Placed settings p
  | manifest : Placed settings (settings.outputDir.join ⟨settings.manifest⟩)

def Effect.placing : Effect Memory := fun settings w w' =>
  ∃ writes, w'.files = w.files.addFiles writes ∧ ∀ write ∈ writes, Placed settings write.1

theorem Effect.placing_refl (settings : Settings) (w : World Memory) : placing settings w w :=
  ⟨[], rfl, by simp⟩

theorem Effect.placing_trans (settings : Settings) (u v w : World Memory)
    (h : placing settings u v) (hn : placing settings v w) : placing settings u w := by
  obtain ⟨writes, hv, hplaced⟩ := h
  obtain ⟨more, hw, hmore⟩ := hn
  refine ⟨writes ++ more, ?_, ?_⟩
  · rw [hw, hv]
    exact List.foldl_append.symm
  · intro write hin
    rcases List.mem_append.mp hin with hin | hin
    · exact hplaced write hin
    · exact hmore write hin

/-! ## Tasks -/

namespace Task

theorem copy_args_placed {settings : Settings} {args : List Arg} {source target : Path}
    (h : copyArgs settings args = .ok (source, target)) : Placed settings target := by
  obtain ⟨-, dest, -, hdest⟩ := copy_args_ok.mp h
  exact .copy hdest

theorem copy_places : Handler.Keeps .placing (copy : Handler Memory) := by
  intro settings args w
  unfold copy
  split
  · exact Effect.placing_refl settings w
  · next source target hargs =>
    split
    · change Effect.placing settings w { w with files := (w.files.copy source target).1 }
      unfold Memory.copy
      split
      · next bytes _ =>
        refine ⟨[(target, bytes)], rfl, ?_⟩
        intro write hin
        obtain rfl := List.mem_singleton.mp hin
        exact copy_args_placed hargs
      · exact Effect.placing_refl settings w
    · exact Effect.placing_refl settings w

theorem manifest_places : Handler.Keeps .placing (manifest : Handler Memory) := by
  intro settings args w
  change Effect.placing settings w
    { w with files := (Manifest.regenerate w.files settings.outputDir settings.manifest).1 }
  unfold Manifest.regenerate
  split
  · exact Effect.placing_refl settings w
  · next m _ =>
    simp only [Memory.write_eq]
    split
    · exact Effect.placing_refl settings w
    · refine ⟨[(settings.outputDir.join ⟨settings.manifest⟩, .ofText m.render)], rfl, ?_⟩
      intro write hin
      obtain rfl := List.mem_singleton.mp hin
      exact .manifest

end Task

theorem HandlerRegistry.builtins_place : (empty : HandlerRegistry Memory).registerBuiltins.Keep .placing := by
  refine Keep.empty.register_builtins Task.copy_places ?_ ?_ Task.manifest_places <;> intro settings args w
  · obtain ⟨t, done, heq⟩ := Task.command_frame settings args w
    rw [heq]
    exact Effect.placing_refl settings w
  · obtain ⟨hub, done, heq, -⟩ := Task.reload_frame settings args w
    rw [heq]
    exact Effect.placing_refl settings w

/-! ## Operations -/

def Operation.IsInside {σ : Type} : Operation σ → Prop
  | .outside _ _ => False
  | _ => True

namespace Engine

theorem perform_places {e : Engine Memory} (hh : e.handlers.Keep .placing) {op : Operation Memory}
    (hop : op.IsInside) : Effect.placing e.settings e.world (e.perform op).world := by
  have hsame : ∀ {w : World Memory}, w.files = e.world.files → Effect.placing e.settings e.world w :=
    fun heq => ⟨[], heq, by simp⟩
  have hflush : Effect.placing e.settings e.world e.flush.1.world :=
    run_batch_keeps Effect.placing_refl Effect.placing_trans hh e.settings _ _ e.world
  cases op with
  | enqueue handler args => exact hsame rfl
  | submit p =>
    obtain ⟨q, j, heq⟩ := e.submit_frame p
    exact hsame (congrArg (·.world.files) heq)
  | scan dir filter =>
    obtain ⟨q, ws, j, heq⟩ := e.scan_frame dir filter
    exact hsame (congrArg (·.world.files) heq)
  | watchDir dir filter =>
    obtain ⟨ws, j, heq⟩ := e.watch_dir_frame dir filter
    exact hsame (congrArg (·.world.files) heq)
  | outside files hub => exact hop.elim
  | flush => exact hflush
  | nextStep keepRunning => exact hsame (congrArg (·.world.files) (e.next_step_frame keepRunning))
  | step ev =>
    change Effect.placing e.settings e.world (e.step ev).1.world
    rw [step_world]
    cases ev with
    | flush => exact hflush
    | pathChanged watch p =>
      obtain ⟨q, j, heq⟩ := e.change_frame watch p
      exact hsame (congrArg (·.world.files) heq)
    | commandExited id description status => cases status <;> exact hsame rfl
    | clientConnected hearsReply => exact hsame rfl
    | clientDisconnected client => exact hsame rfl
    | shutdown => exact hsame rfl

theorem perform_all_places {ops : List (Operation Memory)} {e : Engine Memory}
    (hh : e.handlers.Keep .placing) (hops : ∀ op ∈ ops, op.IsInside) :
    Effect.placing e.settings e.world (e.performAll ops).world := by
  induction ops generalizing e with
  | nil => exact Effect.placing_refl _ _
  | cons op ops ih =>
    have hfirst := perform_places hh (hops op (by simp))
    have hsetup := e.perform_setup op
    have hhandlers : (e.perform op).handlers = e.handlers := congrArg Setup.handlers hsetup
    have hsettings : (e.perform op).settings = e.settings := congrArg Setup.settings hsetup
    have hrest := ih (hhandlers ▸ hh) fun o ho => hops o (by simp [ho])
    rw [hsettings] at hrest
    exact Effect.placing_trans _ _ _ _ hfirst hrest

end Engine

/-! ## Places -/

namespace Path

theorem exists_names {ks : List Component} (h : ∀ k ∈ ks, ∃ n, k = .name n ∧ IsName n) :
    ∃ ns : List String, (∀ n ∈ ns, IsName n) ∧ ks = ns.map .name := by
  induction ks with
  | nil => exact ⟨[], by simp, rfl⟩
  | cons k ks ih =>
    obtain ⟨n, rfl, hn⟩ := h k (by simp)
    obtain ⟨ns, hns, rfl⟩ := ih fun l hl => h l (by simp [hl])
    exact ⟨n :: ns, List.forall_mem_cons.mpr ⟨hn, hns⟩, rfl⟩

theorem join_inside {out : Path} (hout : out.text ≠ "") {name : String}
    (hstays : ∀ k ∈ (Path.mk name).components, Task.staysInside k) :
    ∃ ns : List String, (∀ n ∈ ns, IsName n) ∧
      Segment.components (Path.mk name).body = ns.map .name ∧
      (out.join ⟨name⟩).components = out.components ++ ns.map .name := by
  have hnames : ∀ k ∈ Segment.components (Path.mk name).body, ∃ n, k = .name n ∧ IsName n := by
    intro k hk
    obtain ⟨s, -, hs⟩ := List.mem_filterMap.mp hk
    have hin := hstays k (List.mem_append_right _ hk)
    rcases Segment.component?_cases s with h | h | h <;> rw [h] at hs <;> cases hs
    · exact absurd hin (by decide)
    · exact ⟨_, rfl, name_of_component (List.mem_append_right _ hk)⟩
  obtain ⟨ns, hns, hbody⟩ := exists_names hnames
  refine ⟨ns, hns, hbody, ?_⟩
  have hrelative : (Path.mk name).isAbsolute = false := by
    rcases hanchor : (Path.mk name).anchor
    · have hroot := hstays .root (List.mem_append_left _ (by rw [hanchor]; simp [Anchor.components]))
      exact absurd hroot (by decide)
    all_goals simp [isAbsolute, hanchor]
  rw [components_join hrelative hout, Anchor.components_split]
  exact congrArg (out.components ++ ·) hbody

theorem strictly_below_join {out : Path} (hout : out.isAbsolute) {name : String}
    (hname : LeadsInside name) : out.StrictlyBelow (out.join ⟨name⟩) := by
  obtain ⟨hstays, n, hn⟩ := hname
  obtain ⟨ns, hns, hbody, hcomponents⟩ := join_inside (is_absolute_nonempty hout) hstays
  refine ⟨ns, ?_, hns, hcomponents⟩
  rintro rfl
  rcases List.mem_append.mp hn with hanchor | hin
  · rcases ha : (Path.mk name).anchor <;> simp [ha, Anchor.components] at hanchor
  · rw [hbody] at hin
    cases hin

theorem components_here {name : String} (hne : name ≠ "")
    (hstays : ∀ k ∈ (Path.mk name).components, Task.staysInside k)
    (hbody : Segment.components (Path.mk name).body = []) : (Path.mk name).components = [.here] := by
  rw [components, hbody, List.append_nil] at hstays ⊢
  rcases hanchor : (Path.mk name).anchor
  · rw [hanchor] at hstays
    exact absurd (hstays .root (by simp [Anchor.components])) (by decide)
  · rfl
  · -- a path that starts at its first segment would be empty
    exact absurd (chars_empty.mp (Anchor.read_empty hanchor (body_of_no_components hanchor hbody))) hne

end Path

/-- A copy is placed below the output directory, or its destination is a written `.`. -/
theorem Task.destination_inside {out : Path} (hout : out.isAbsolute) {dest : String} {p : Path}
    (h : destination out dest = .ok p) :
    p = out.join ⟨dest⟩ ∧ (out.StrictlyBelow p ∨ (Path.mk dest).components = [.here]) := by
  obtain ⟨hstays, hwritten, rfl⟩ := destination_ok.mp h
  obtain ⟨ns, hns, hbody, hcomponents⟩ := Path.join_inside (Path.is_absolute_nonempty hout) hstays
  refine ⟨rfl, ?_⟩
  by_cases hnone : ns = []
  · subst hnone
    exact .inr (Path.components_here hwritten hstays hbody)
  · exact .inl ⟨ns, hnone, hns, hcomponents⟩

theorem Memory.add_files_written {m : Memory} {writes : List (Path × Bytes)} {k : Key} {bytes : Bytes}
    (h : (m.addFiles writes).get? k = some (.file bytes)) :
    m.get? k = some (.file bytes) ∨ ∃ p, (p, bytes) ∈ writes ∧ p.components = k := by
  induction writes generalizing m with
  | nil => exact .inl h
  | cons write writes ih =>
    rcases ih (m := m.addFile write.1 write.2) h with hfirst | ⟨p, hp, hk⟩
    · have hsolid := ((m.add_file_stored write.1 write.2).solid k _ fun _ => Entry.noConfusion).mp hfirst
      split at hsolid
      · next heq =>
        cases hsolid
        exact .inr ⟨write.1, by simp, heq.symm⟩
      · exact .inl hsolid
    · exact .inr ⟨p, by simp [hp], hk⟩

namespace Engine

/-- The built-in tasks write below the output directory, but for a copy to a written `.` and for a manifest whose
name leads elsewhere. -/
theorem output_confined {c : Config} {root : Path} (hroot : root.isAbsolute) {watch verbose : Bool}
    {e : Engine Memory} (hsettings : e.settings = .ofConfig c root watch verbose)
    (hhandlers : e.handlers = HandlerRegistry.empty.registerBuiltins) {ops : List (Operation Memory)}
    (hops : ∀ op ∈ ops, op.IsInside) :
    let out := root.join ⟨c.build.outputDir⟩
    ∃ writes : List (Path × Bytes),
      (e.performAll ops).world.files = e.world.files.addFiles writes ∧
      (∀ k bytes, (e.performAll ops).world.files.get? k = some (.file bytes) →
        e.world.files.get? k = some (.file bytes) ∨ ∃ p, (p, bytes) ∈ writes ∧ p.components = k) ∧
      ∀ write ∈ writes, out.StrictlyBelow write.1 ∨
        (∃ dest, (Path.mk dest).components = [.here] ∧ write.1 = out.join ⟨dest⟩) ∨
        (¬ LeadsInside c.build.manifest ∧ write.1 = out.join ⟨c.build.manifest⟩) := by
  intro out
  have hout : out.isAbsolute := Path.is_absolute_join hroot _
  obtain ⟨writes, hfiles, hplaced⟩ :=
    perform_all_places (e := e) (hhandlers ▸ HandlerRegistry.builtins_place) hops
  rw [hsettings] at hplaced
  refine ⟨writes, hfiles, fun k bytes hk => ?_, fun ⟨p, bytes⟩ hin => ?_⟩
  · rw [hfiles] at hk
    exact Memory.add_files_written hk
  have hplace : Placed (.ofConfig c root watch verbose) p := hplaced _ hin
  cases hplace with
  | @copy dest _ hdest =>
    obtain ⟨hjoin, hbelow | hhere⟩ := Task.destination_inside hout hdest
    · exact .inl hbelow
    · exact .inr (.inl ⟨dest, hhere, hjoin⟩)
  | manifest =>
    by_cases hinside : LeadsInside c.build.manifest
    · exact .inl (Path.strictly_below_join hout hinside)
    · exact .inr (.inr ⟨hinside, rfl⟩)

def sourced (c : Config) : Engine Memory where
  settings := .ofConfig c ⟨"/p"⟩ true false
  rules := match c.ruleTable with
    | .ok rules => rules
    | .error _ => []
  handlers := HandlerRegistry.empty.registerBuiltins
  world := { files := (Memory.new.addFile ⟨"/p/src/a.css"⟩ (.ofText "a")).addDir ⟨"/p/build"⟩ }
  watches := WatchRegistry.new.add 0 ⟨"/p/src"⟩ none

def changeAndFlush : List (Operation Memory) :=
  [.step (.pathChanged 0 ⟨"/p/src/a.css"⟩), .step .flush]

theorem change_and_flush_inside : ∀ op ∈ changeAndFlush, op.IsInside := by
  intro op hop
  simp only [changeAndFlush, List.mem_cons, List.not_mem_nil, or_false] at hop
  rcases hop with rfl | rfl <;> trivial

def tidyProject : Config where
  scans := [⟨"src", none, false⟩]
  rules := [{ pattern := .trailing ".css", action := .copy, dest := some "css/\x7brel\x7d" }]
  accepted := by decide +kernel

theorem output_confined_copied :
    let files := ((sourced tidyProject).performAll changeAndFlush).world.files
    (∃ writes, files = (sourced tidyProject).world.files.addFiles writes ∧
      ∀ write ∈ writes, Path.StrictlyBelow ⟨"/p/build"⟩ write.1 ∨
        (∃ dest, (Path.mk dest).components = [.here] ∧ write.1 = Path.join ⟨"/p/build"⟩ ⟨dest⟩) ∨
        (¬ LeadsInside "manifest.json" ∧ write.1 = ⟨"/p/build/manifest.json"⟩)) ∧
      files.get? (Path.mk "/p/build/css/src/a.css").components = some (.file (.ofText "a")) := by
  intro files
  have hjoin : Path.join ⟨"/p"⟩ ⟨"build"⟩ = ⟨"/p/build"⟩ := by decide +kernel
  have hmanifest : Path.join ⟨"/p/build"⟩ ⟨"manifest.json"⟩ = ⟨"/p/build/manifest.json"⟩ := by
    decide +kernel
  have hroot : (⟨"/p"⟩ : Path).isAbsolute := by decide
  have hsettings : (sourced tidyProject).settings = .ofConfig tidyProject ⟨"/p"⟩ true false := rfl
  obtain ⟨writes, hfiles, -, hwrites⟩ := output_confined hroot hsettings rfl change_and_flush_inside
  change ∀ write ∈ writes, Path.StrictlyBelow (Path.join ⟨"/p"⟩ ⟨"build"⟩) write.1 ∨ _ at hwrites
  refine ⟨⟨writes, hfiles, ?_⟩, by decide +kernel⟩
  rw [← hmanifest, ← hjoin]
  exact hwrites

def strayManifest : Config where
  build := { manifest := "/p/escaped.json" }
  scans := [⟨"src", none, false⟩]
  rules := [{ pattern := .trailing ".css", action := .manifest }]
  accepted := by decide +kernel

/-- An accepted project can have its manifest outside the output directory. -/
theorem manifest_escapes :
    let before := (sourced strayManifest).world.files
    let after := ((sourced strayManifest).performAll changeAndFlush).world.files
    before.get? (Path.mk "/p/escaped.json").components = none ∧
      after.get? (Path.mk "/p/escaped.json").components = some (.file (.ofText (Manifest.render ⟨[]⟩))) ∧
      ¬ (sourced strayManifest).settings.outputDir.StrictlyBelow ⟨"/p/escaped.json"⟩ := by
  refine ⟨by decide +kernel, by decide +kernel, ?_⟩
  rintro ⟨ns, -, -, heq⟩
  have hout : (sourced strayManifest).settings.outputDir.components = [.root, .name "p", .name "build"] := by
    decide +kernel
  have hpath : (Path.mk "/p/escaped.json").components = [.root, .name "p", .name "escaped.json"] := by
    decide +kernel
  rw [hout, hpath] at heq
  simp at heq

def strayCopy : Config where
  scans := [⟨"src", none, false⟩]
  rules := [{ pattern := .trailing ".css", action := .copy, dest := some "." }]
  accepted := by decide +kernel

/-- In an accepted project a copy can take the place of the output directory. -/
theorem copy_replaces_output_dir :
    let before := (sourced strayCopy).world.files
    let after := ((sourced strayCopy).performAll changeAndFlush).world.files
    before.get? (sourced strayCopy).settings.outputDir.components = some (.dir []) ∧
      after.get? (sourced strayCopy).settings.outputDir.components = some (.file (.ofText "a")) := by
  decide +kernel

end Engine

end BundleWatch
