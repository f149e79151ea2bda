import BundleWatch.Proofs.Engine.Success
import BundleWatch.Proofs.List.Results
import BundleWatch.Proofs.Rule.Offers
import BundleWatch.Proofs.Watch.Walk

/-!
# What validation is good for

An accepted project file can be built: its rule table and its filters compile, its rules never fail, and a scan
fails only if a watch is refused or a directory cannot be read.
-/

set_option autoImplicit false

namespace BundleWatch

theorem require_ok {b : Bool} {e : ConfigError} {u : Unit} : require b e = .ok u ↔ b = true := by
  cases b <;> simp [require]

structure RuleSpec.Complete (r : RuleSpec) : Prop where
  pattern : ∃ p, Pattern.compile r.pattern = .ok p ∧ p.captureGroups ≤ 1
  dest : r.action = .copy → ∃ dest, r.dest = some dest
  cmd : r.action = .command → ∃ tool args, r.cmd = some (tool :: args)

def ScanSpec.Compiles (s : ScanSpec) : Prop :=
  ∀ spec, s.filter = some spec → ∃ p, Pattern.compile spec = .ok p

namespace ProjectFile

theorem compile_pattern_ok {spec : PatternSpec} {p : Pattern} :
    compilePattern spec = .ok p ↔ Pattern.compile spec = .ok p := by
  unfold compilePattern
  cases Pattern.compile spec <;> simp [Except.mapError]

theorem check_rule_ok {i : Nat} {r : RuleSpec} : checkRule i r = .ok () ↔ r.Complete := by
  constructor
  · intro h
    unfold checkRule at h
    obtain ⟨p, hp, h⟩ := bind_eq_ok.mp h
    obtain ⟨⟨⟩, hgroups, h⟩ := bind_eq_ok.mp h
    refine ⟨⟨p, compile_pattern_ok.mp hp, of_decide_eq_true (require_ok.mp hgroups)⟩, ?_, ?_⟩
    · intro haction
      rw [haction] at h
      exact Option.isSome_iff_exists.mp (require_ok.mp h)
    · intro haction
      rw [haction] at h
      have hcmd := require_ok.mp h
      rcases hc : r.cmd with _ | _ | ⟨tool, args⟩
      · rw [hc] at hcmd
        cases hcmd
      · rw [hc] at hcmd
        cases hcmd
      · exact ⟨tool, args, rfl⟩
  · intro h
    obtain ⟨p, hp, hgroups⟩ := h.pattern
    refine bind_eq_ok.mpr ⟨p, compile_pattern_ok.mpr hp, bind_eq_ok.mpr ⟨(), ?_, ?_⟩⟩
    · exact require_ok.mpr (decide_eq_true hgroups)
    · rcases haction : r.action
      case copy =>
        obtain ⟨dest, hdest⟩ := h.dest haction
        exact require_ok.mpr (Option.isSome_iff_exists.mpr ⟨dest, hdest⟩)
      case command =>
        obtain ⟨tool, args, hcmd⟩ := h.cmd haction
        exact require_ok.mpr (by rw [hcmd]; rfl)
      case reload => rfl
      case manifest => rfl

theorem check_rules_ok {i : Nat} {rs : List RuleSpec} : checkRules i rs = .ok () ↔ ∀ r ∈ rs, r.Complete := by
  induction rs generalizing i with
  | nil => simp [checkRules]
  | cons r rs ih =>
    rw [checkRules, bind_eq_ok, List.forall_mem_cons, ← ih (i := i + 1), ← check_rule_ok (i := i)]
    exact ⟨fun ⟨_, hr, hrs⟩ => ⟨hr, hrs⟩, fun ⟨hr, hrs⟩ => ⟨(), hr, hrs⟩⟩

theorem check_filter_ok {spec : PatternSpec} {u : Unit} :
    discard (compilePattern spec) = .ok u ↔ ∃ p, Pattern.compile spec = .ok p := by
  simp only [← compile_pattern_ok]
  cases compilePattern spec <;> simp [discard, Functor.discard, Functor.mapConst, Except.map]

theorem check_scans_cons {output : String} {seen : List String} {s : ScanSpec} {ss : List ScanSpec} :
    checkScans output seen (s :: ss) = .ok () ↔
      (normalDir s.dir ∉ seen ∧ (s.watchOnly = false → normalDir s.dir ≠ output) ∧ s.Compiles) ∧
        checkScans output (normalDir s.dir :: seen) ss = .ok () := by
  have hseen : (!seen.contains (normalDir s.dir)) = true ↔ normalDir s.dir ∉ seen := by simp
  have hout : (normalDir s.dir != output || s.watchOnly) = true ↔
      (s.watchOnly = false → normalDir s.dir ≠ output) := by
    cases s.watchOnly <;> simp
  rw [checkScans, bind_eq_ok, and_assoc, and_assoc, ← hseen, ← hout]
  simp only [bind_eq_ok, require_ok, exists_const]
  refine and_congr_right fun _ => and_congr_right fun _ => ?_
  unfold ScanSpec.Compiles
  rcases s.filter with _ | spec
  · simp
  · simp [bind_eq_ok, check_filter_ok]

/-- No scan has a directory of another one or of those seen before, only watched ones have the output directory, and
the filters compile. -/
theorem check_scans_ok {output : String} {seen : List String} {ss : List ScanSpec} :
    checkScans output seen ss = .ok () ↔
      (∀ s ∈ ss, normalDir s.dir ∉ seen ∧ (s.watchOnly = false → normalDir s.dir ≠ output) ∧ s.Compiles) ∧
        ss.Pairwise fun s s' => normalDir s.dir ≠ normalDir s'.dir := by
  induction ss generalizing seen with
  | nil => simp [checkScans]
  | cons s ss ih =>
    rw [check_scans_cons, ih, List.forall_mem_cons, List.pairwise_cons]
    simp only [List.mem_cons, not_or]
    constructor
    · rintro ⟨hs, hall, hpairs⟩
      exact ⟨⟨hs, fun t ht => ⟨(hall t ht).1.2, (hall t ht).2⟩⟩, fun t ht heq => (hall t ht).1.1 heq.symm, hpairs⟩
    · rintro ⟨⟨hs, hall⟩, hapart, hpairs⟩
      exact ⟨hs, fun t ht => ⟨⟨fun heq => hapart t ht heq.symm, (hall t ht).1⟩, (hall t ht).2⟩, hpairs⟩

theorem check_eq_ok {f : ProjectFile} :
    f.check = .ok () ↔ f.scans ≠ [] ∧ f.checkSections = .ok () ∧
      checkScans (normalDir f.build.outputDir) [] f.scans = .ok () ∧ ∀ r ∈ f.rules, r.Complete := by
  simp [check, bind_eq_ok, require_ok, check_rules_ok, Unique.exists_iff]

theorem check_ok {f : ProjectFile} (h : f.check = .ok ()) :
    (∀ s ∈ f.scans, s.Compiles) ∧ ∀ r ∈ f.rules, r.Complete := by
  obtain ⟨-, -, hscans, hrules⟩ := check_eq_ok.mp h
  exact ⟨fun s hs => ((check_scans_ok.mp hscans).1 s hs).2.2, hrules⟩

theorem validate_accepted {f : ProjectFile} (h : f.check = .ok ()) : f.validate = .ok ⟨f, h⟩ := by
  unfold validate
  split
  · rfl
  · next herr =>
    rw [h] at herr
    cases herr

theorem validate_ok {f : ProjectFile} {c : Config} (h : f.validate = .ok c) : c.toProjectFile = f := by
  unfold validate at h
  split at h
  · cases h
    rfl
  · cases h

end ProjectFile

/-! ## Rules -/

namespace RuleSpec

theorem Complete.rule {r : RuleSpec} (h : r.Complete) :
    ∃ rule, r.rule = .ok rule ∧ r.Realizes rule ∧ rule.pattern.captureGroups ≤ 1 := by
  obtain ⟨p, hp, hgroups⟩ := h.pattern
  have hbuilt : ∃ rule, r.rule = .ok rule := by
    unfold RuleSpec.rule
    rw [hp]
    rcases haction : r.action
    case copy =>
      obtain ⟨dest, hdest⟩ := h.dest haction
      rw [hdest]
      exact ⟨_, rfl⟩
    case command =>
      obtain ⟨tool, args, hcmd⟩ := h.cmd haction
      rw [hcmd]
      exact ⟨_, rfl⟩
    case reload => exact ⟨_, rfl⟩
    case manifest => exact ⟨_, rfl⟩
  obtain ⟨rule, hrule⟩ := hbuilt
  have hreal := rule_realizes hrule
  obtain rfl := Except.ok.inj (hp.symm.trans hreal.pattern)
  exact ⟨rule, hrule, hreal, hgroups⟩

end RuleSpec

theorem rules_complete {rs : List RuleSpec} (h : ∀ r ∈ rs, r.Complete) :
    ∃ rules, rs.mapM RuleSpec.rule = .ok rules ∧ List.Forall₂
      (fun r rule => r.Realizes rule ∧ rule.pattern.captureGroups ≤ 1) rs rules := by
  induction rs with
  | nil => exact ⟨[], rfl, .nil⟩
  | cons r rs ih =>
    obtain ⟨rule, hrule, hreal⟩ := (h r List.mem_cons_self).rule
    obtain ⟨rules, hrules, hall⟩ := ih fun r hr => h r (List.mem_cons_of_mem _ hr)
    refine ⟨rule :: rules, ?_, .cons hreal hall⟩
    rw [List.mapM_cons, hrule, hrules]
    rfl

theorem Config.rule_table_ok (c : Config) :
    ∃ rules, c.ruleTable = .ok rules ∧ List.Forall₂
      (fun r rule => r.Realizes rule ∧ rule.pattern.captureGroups ≤ 1) c.activeRules rules :=
  rules_complete fun r hr => (ProjectFile.check_ok c.accepted).2 r (List.mem_of_mem_filter hr)

theorem RuleSpec.Realizes.never_fails {r : RuleSpec} {rule : Rule} (h : r.Realizes rule) :
    rule.NeverFails := by
  intro settings s j q
  obtain ⟨q', hrun⟩ := Work.offering_run j (r.task? settings s) q
  rw [h.act, hrun]

/-! ## Scans -/

theorem WatchRegistry.register_fails {ω : Type} {r : WatchRegistry} {backend : WatchBackend ω}
    {dir : Path} {filter : Option Pattern} {s : ω} {f : Failure}
    (h : (r.register backend dir filter s).2.2 = .error f) :
    (backend r.registrations.length dir s).2 = .error f := by
  unfold register at h
  split at h
  · cases h
  · split at h
    · cases h
    · simp only [] at h
      rcases hback : backend r.registrations.length dir s with ⟨s', f' | ⟨⟩⟩
      · rw [hback] at h
        cases h
        rfl
      · rw [hback] at h
        cases h

namespace Engine

variable {σ : Type} [FileSystem σ]

open FileSystem

omit [FileSystem σ] in
theorem project_rules_never_fail {e : Engine σ} {specs : List RuleSpec}
    (h : List.Forall₂ RuleSpec.Realizes specs e.rules) : e.RulesNeverFail := by
  unfold RulesNeverFail
  generalize e.rules = rules at h
  induction h with
  | nil => simp
  | cons hrule _ ih => exact List.forall_mem_cons.mpr ⟨hrule.never_fails, ih⟩

def ScanRefused (e : Engine σ) (dir : Path) (f : Failure) : Prop :=
  (e.backend e.watches.registrations.length dir e.world.journal).2 = .error f ∨
    ∃ d, Entered e.world.files dir d ∧ readDir e.world.files d = .error f

theorem watch_dir_fails {e : Engine σ} {dir : Path} {filter : Option Pattern} {err : BuildError}
    (h : (e.watchDir dir filter).2 = .error err) :
    ∃ f, err = .other f ∧
      (e.backend e.watches.registrations.length dir e.world.journal).2 = .error f := by
  unfold watchDir at h
  split at h
  · cases h
  · rcases hr : e.watches.register e.backend dir filter e.world.journal with ⟨ws, j, f | id⟩
    · rw [hr] at h
      cases h
      exact ⟨f, rfl, WatchRegistry.register_fails (congrArg (·.2.2) hr)⟩
    · rw [hr] at h
      cases h

theorem scan_fails [CountsDirectories σ] {e : Engine σ} (hrules : e.RulesNeverFail) {dir : Path}
    {filter : Option Pattern} {err : BuildError} (h : (e.scan dir filter).2 = .error err) :
    ∃ f, err = .other f ∧ e.ScanRefused dir f := by
  obtain ⟨ws, j, hframe⟩ := e.watch_dir_frame dir filter
  rcases hdir : FileSystem.isDir e.world.files dir
  · rw [(scan_missing hdir).1] at h
    cases h
  rcases hw : e.watchDir dir filter with ⟨e', err' | id⟩
  · rw [(scan_refused hdir hw).1] at h
    cases h
    obtain ⟨f, rfl, hf⟩ := watch_dir_fails (congrArg Prod.snd hw)
    exact ⟨f, rfl, .inl hf⟩
  rw [hw] at hframe
  have hfiles : e'.world.files = e.world.files := congrArg (·.world.files) hframe
  have hproject : e'.RulesNeverFail := hrules.congr (congrArg (·.rules) hframe)
  rcases walk_files_ends e.world.files dir filter with ⟨done, files, hwalk, -⟩ | ⟨d, f, hd, hread, hwalk⟩ <;>
    rw [← hfiles] at hwalk
  · rw [(scan_eq hdir hw hwalk).1, submit_all_ok hproject] at h
    cases h
  · rw [(scan_unread hdir hw hwalk).1] at h
    cases h
    exact ⟨f, rfl, .inr ⟨d, hd, hread⟩⟩

end Engine

/-- Whatever a project file that is accepted needs to be built, it has. Its table has one rule for each active
rule, with the compiled pattern; its filters compile; and in an engine with these rules no file is refused and
a scan fails only if a watch is refused or a directory cannot be read. -/
theorem ProjectFile.accepted_builds {f : ProjectFile} {c : Config} (h : f.validate = .ok c) :
    c.toProjectFile = f ∧ ∃ rules, c.ruleTable = .ok rules ∧
      List.Forall₂ (fun r rule => r.Realizes rule ∧ rule.pattern.captureGroups ≤ 1)
        f.activeRules rules ∧
      (∀ s ∈ f.scans, s.Compiles) ∧
      ∀ (σ : Type) [FileSystem σ] (e : Engine σ), e.rules = rules →
        (∀ p, ∃ n, (e.submit p).2 = .ok n) ∧
        ∀ [CountsDirectories σ] (dir : Path) (filter : Option Pattern) (err : BuildError),
          (e.scan dir filter).2 = .error err → ∃ f, err = .other f ∧ e.ScanRefused dir f := by
  have hf := validate_ok h
  subst hf
  obtain ⟨rules, hrules, hall⟩ := c.rule_table_ok
  refine ⟨rfl, rules, hrules, hall, (check_ok c.accepted).1, fun σ _ e he => ?_⟩
  have hproject : e.RulesNeverFail := Engine.project_rules_never_fail (he ▸ hall.imp fun _ _ => And.left)
  exact ⟨Engine.submit_ok hproject, fun dir filter err => Engine.scan_fails hproject⟩

def siteProject : Config where
  build := { features := ["full"] }
  scans := [⟨"src", some (.glob "**/*.css"), false⟩, ⟨"build", none, true⟩]
  rules := [
    { pattern := .leading "src/", action := .copy, dest := some "{capture}" },
    { pattern := .regex "src/(.*)\\.ts", action := .command, cmd := some ["tsc", "{path}"] },
    { pattern := .trailing ".css", action := .reload, feature := some "full" },
    { pattern := .glob "build/*", action := .manifest, feature := some "slim" }]
  accepted := by decide +kernel

def unreadable : Engine (Faulty Memory) where
  settings := .ofConfig siteProject ⟨"/p"⟩ false false
  rules := match siteProject.ruleTable with
    | .ok rules => rules
    | .error _ => []
  world := { files := ⟨Memory.new.addFile ⟨"/p/src/a.css"⟩ [], some "input/output error"⟩ }

theorem ProjectFile.accepted_builds_site :
    siteProject.toProjectFile.validate = .ok siteProject ∧
      siteProject.ruleTable = .ok unreadable.rules ∧ unreadable.rules.length = 3 ∧
      (∃ n, (unreadable.submit ⟨"/p/src/a.css"⟩).2 = .ok n) ∧
      (unreadable.scan ⟨"/p/src"⟩ none).2 = .error (.other ⟨"input/output error", []⟩) ∧
      unreadable.ScanRefused ⟨"/p/src"⟩ ⟨"input/output error", []⟩ := by
  have hvalid : siteProject.toProjectFile.validate = .ok siteProject :=
    validate_accepted siteProject.accepted
  have htable : siteProject.ruleTable = .ok unreadable.rules := rfl
  obtain ⟨-, rules, hrules, hall, -, hbuild⟩ := accepted_builds hvalid
  obtain rfl := Except.ok.inj (htable.symm.trans hrules)
  obtain ⟨hsubmit, hscan⟩ := hbuild (Faulty Memory) unreadable rfl
  have hfails : (unreadable.scan ⟨"/p/src"⟩ none).2 = .error (.other ⟨"input/output error", []⟩) := by
    have hwalk : walkFiles unreadable.world.files ⟨"/p/src"⟩ none =
        .error ⟨"input/output error", []⟩ := by
      rw [walkFiles, walkFrom]
      rfl
    have hdir : FileSystem.isDir unreadable.world.files ⟨"/p/src"⟩ = true := rfl
    have hwatch : unreadable.watchDir ⟨"/p/src"⟩ none = (unreadable, .ok none) := rfl
    rw [(Engine.scan_unread hdir hwatch hwalk).1]
  obtain ⟨f, hf, hrefused⟩ := hscan _ _ _ hfails
  cases hf
  exact ⟨hvalid, htable, hall.length_eq.symm, hsubmit _, hfails, hrefused⟩

end BundleWatch
