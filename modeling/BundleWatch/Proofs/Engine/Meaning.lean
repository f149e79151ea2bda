import BundleWatch.Proofs.Config.Startup
import BundleWatch.Proofs.Engine.Operation
import BundleWatch.Proofs.Queue.Merging
import Mathlib.Data.List.Nodup

/-!
# What a rule table means

The tasks that a project file says are to be done for some paths are queued in the order of paths and rules, each
of them once, and none that is pending already.
-/

set_option autoImplicit false

namespace BundleWatch

def RuleSpec.fits (r : RuleSpec) (rel : String) : Bool :=
  match Pattern.compile r.pattern with
  | .ok p => p.isMatch rel
  | .error _ => false

namespace Config

variable (c : Config) (settings : Settings) (place : Path → Option Path) (p : Path)

/-- What the active rules contribute for a path, in their order. A path outside the project has no name to match,
and so they contribute nothing. -/
def tasksFor : List Task :=
  match Path.relativeTo? place settings.root p with
  | some rel => c.activeRules.filterMap fun r => r.offer? settings place p rel
  | none => []

def fitting : Nat :=
  match Path.relativeTo? place settings.root p with
  | some rel => c.activeRules.countP fun r => r.fits rel
  | none => 0

end Config

theorem RuleTable.hits_length {specs : List RuleSpec} {rules : RuleTable}
    (h : List.Forall₂ RuleSpec.Realizes specs rules) (rel : String) :
    (hits rules rel).length = specs.countP fun r => r.fits rel := by
  induction h with
  | nil => rfl
  | @cons spec rule specs rules hrule _ ih =>
    have hfits : spec.fits rel = rule.pattern.isMatch rel := by rw [RuleSpec.fits, hrule.pattern]
    rw [hits_cons, List.length_append, ih, List.countP_cons, hfits, Pattern.isMatch, Nat.add_comm]
    cases rule.pattern.fullMatch? rel <;> rfl

namespace Engine

variable {σ : Type} [FileSystem σ]

def answers (e : Engine σ) : List Path → List (Except BuildError Nat)
  | [] => []
  | p :: ps => (e.submit p).2 :: (e.submit p).1.answers ps

theorem submit_means {c : Config} {e : Engine σ} (hrules : List.Forall₂ RuleSpec.Realizes c.activeRules e.rules)
    (p : Path) :
    (e.submit p).2 = .ok (c.fitting e.settings (FileSystem.place e.world.files) p) ∧
      Mark.offers (e.submitMarks p) = c.tasksFor e.settings (FileSystem.place e.world.files) p := by
  unfold Config.fitting Config.tasksFor
  rcases hrel : Path.relativeTo? (FileSystem.place e.world.files) e.settings.root p with _ | rel
  · rw [(submit_outside hrel).1, (submit_outside hrel).2]
    exact ⟨rfl, rfl⟩
  · have hhits := (project_rules_never_fail hrules).hits rel
    have hfire := RuleTable.fire_ok e.settings (FileSystem.place e.world.files) p rel hhits e.queue e.world.journal
    rcases hran : RuleTable.fire e.settings (FileSystem.place e.world.files) p rel (e.rules.hits rel) e.queue
      e.world.journal with ⟨q, j, fired⟩
    rw [hran] at hfire
    obtain rfl : fired = _ := hfire
    obtain ⟨hsubmit, hmarks⟩ := submit_inside hrel hran
    rw [hsubmit, hmarks]
    refine ⟨?_, RuleTable.fire_realized hrules e.settings _ p rel e.queue e.world.journal⟩
    rw [RuleTable.hits_length hrules]
    rfl

theorem submits_mean {c : Config} (ps : List Path) {e : Engine σ}
    (hrules : List.Forall₂ RuleSpec.Realizes c.activeRules e.rules) :
    e.answers ps = ps.map (fun p => .ok (c.fitting e.settings (FileSystem.place e.world.files) p)) ∧
      Mark.offers (e.performAllMarks (ps.map .submit)) =
        ps.flatMap (c.tasksFor e.settings (FileSystem.place e.world.files)) := by
  induction ps generalizing e with
  | nil => exact ⟨rfl, rfl⟩
  | cons p ps ih =>
    obtain ⟨hanswer, hoffers⟩ := submit_means hrules p
    obtain ⟨q, j, hframe⟩ := e.submit_frame p
    have hsame : (e.submit p).1.rules = e.rules ∧ (e.submit p).1.settings = e.settings ∧
        (e.submit p).1.world.files = e.world.files := by
      rw [hframe]
      exact ⟨rfl, rfl, rfl⟩
    obtain ⟨hrulesSame, hsettings, hfiles⟩ := hsame
    obtain ⟨hanswers, hrest⟩ := ih (hrulesSame.symm ▸ hrules)
    rw [hsettings, hfiles] at hanswers hrest
    constructor
    · rw [answers, hanswer, hanswers, List.map_cons]
    · change Mark.offers (e.submitMarks p ++ (e.submit p).1.performAllMarks (ps.map .submit)) = _
      rw [Mark.offers_append, hoffers, hrest, List.flatMap_cons]

theorem submits_begin_nothing (ps : List Path) (e : Engine σ) : .began ∉ e.performAllMarks (ps.map .submit) := by
  refine (preparations_marks_only_offers _ e fun op hop => ?_).inner.1
  obtain ⟨p, -, rfl⟩ := List.mem_map.mp hop
  trivial

/-- Submitting paths to the rules of an accepted project queues what the rules contribute, in the order of their
first occurrences and without what is pending already. Each submission counts the active rules that fit. -/
theorem rule_table_means (σ : Type) [FileSystem σ] (c : Config) :
    ∃ rules, c.ruleTable = .ok rules ∧
      ∀ e : Engine σ, e.rules = rules → e.queue.Coherent → ∀ ps : List Path,
        let place := FileSystem.place e.world.files
        let contributed := ps.flatMap (c.tasksFor e.settings place)
        Task.Apart (e.queue.pending ++ contributed) →
          let fresh := contributed.eraseDups.filter (· ∉ e.queue.pending)
          let after := (e.performAll (ps.map .submit)).queue
          after.pending = e.queue.pending ++ fresh ∧ after.enqueued = e.queue.enqueued + fresh.length ∧
            e.answers ps = ps.map fun p => .ok (c.fitting e.settings place p) := by
  obtain ⟨rules, hrules, hreal⟩ := c.rule_table_ok
  refine ⟨rules, hrules, ?_⟩
  rintro e rfl hcoherent ps place contributed hapart fresh after
  obtain ⟨hanswers, hoffers⟩ := submits_mean ps (hreal.imp fun _ _ h => h.1)
  have hsteps := perform_all_steps (ps.map .submit) e
  have hnone := submits_begin_nothing ps e
  have haccepted : Mark.accepted (e.performAllMarks (ps.map .submit)) = fresh := by
    have hfresh := hsteps.accepted_fresh hnone hcoherent (hoffers.symm ▸ hapart)
    rwa [hoffers] at hfresh
  refine ⟨?_, ?_, hanswers⟩
  · rw [← haccepted]
    exact hsteps.pending_accepted hnone
  · rw [← haccepted]
    exact hsteps.counters.1

def sheetProject : Config where
  scans := [⟨"src", none, false⟩]
  rules := [
    { pattern := .exact "src/a.css", action := .copy, dest := some "\x7bstem\x7d.min.css" },
    { pattern := .exact "src/a.css", action := .command, cmd := some ["lint", "\x7bpath\x7d"] },
    { pattern := .trailing ".css", action := .reload },
    { pattern := .trailing ".css", action := .manifest, feature := some "release" }]
  accepted := by decide +kernel

def sheetEngine : Engine Memory where
  settings := .ofConfig sheetProject ⟨"/p"⟩ true false
  rules := match sheetProject.ruleTable with
    | .ok rules => rules
    | .error _ => []
  queue := (TaskQueue.empty.enqueue Task.reloadName [.text "b.css"]).1
  world := { files := .new }

def sheetTasks : List Task :=
  [.new Task.copyName [.text "/p/src/a.css", .text "src/a.min.css"],
    .new Task.commandName [.text "lint /p/src/a.css", .list ["lint", "/p/src/a.css"]]]

/-- The one style sheet of the project is copied and checked, and the other one is announced already. A style sheet
outside is passed over. -/
theorem rule_table_means_sheets :
    sheetProject.ruleTable = .ok sheetEngine.rules ∧ sheetEngine.queue.Coherent ∧
      let ps : List Path := [⟨"/p/src/a.css"⟩, ⟨"/q/a.css"⟩, ⟨"/p/build/b.css"⟩]
      (sheetEngine.performAll (ps.map .submit)).queue.pending = sheetEngine.queue.pending ++ sheetTasks ∧
        (sheetEngine.performAll (ps.map .submit)).queue.enqueued = 3 ∧
        sheetEngine.answers ps = [.ok 3, .ok 0, .ok 1] := by
  have hcoherent : sheetEngine.queue.Coherent := TaskQueue.push_coherent TaskQueue.coherent_empty _
  obtain ⟨rules, hrules, hmeaning⟩ := rule_table_means Memory sheetProject
  have hsame : sheetProject.ruleTable = .ok sheetEngine.rules := rfl
  obtain rfl := Except.ok.inj (hsame.symm.trans hrules)
  refine ⟨hsame, hcoherent, ?_⟩
  intro ps
  have hcontributed : ps.flatMap (sheetProject.tasksFor sheetEngine.settings
      (FileSystem.place sheetEngine.world.files)) = sheetTasks ++ sheetEngine.queue.pending := by
    have hcall : Function.Injective fun t : Task => (t.handler, t.args) :=
      fun t u h => Task.ext_call (congrArg Prod.fst h) (congrArg Prod.snd h)
    apply List.map_injective_iff.mpr hcall
    decide +kernel
  have hapart : Task.Apart (sheetEngine.queue.pending ++ sheetTasks) := ⟨by decide +kernel, by decide +kernel⟩
  have hmeant := hmeaning sheetEngine rfl hcoherent ps
  simp only [hcontributed] at hmeant
  obtain ⟨hpending, henqueued, hanswers⟩ := hmeant (hapart.mono (by simp))
  have hfresh : (sheetTasks ++ sheetEngine.queue.pending).eraseDups.filter (· ∉ sheetEngine.queue.pending) =
      sheetTasks := by
    have hkinds : (sheetTasks.map (·.handler)).Nodup := by decide +kernel
    have hnew : ∀ t ∈ sheetTasks, t ∉ sheetEngine.queue.pending := by decide +kernel
    rw [← erase_dups_filter, List.filter_append, List.filter_eq_self.mpr (by simpa using hnew),
      List.filter_eq_nil_iff.mpr (by simp), List.append_nil, erase_dups_of_nodup (List.Nodup.of_map _ hkinds)]
  rw [hfresh] at hpending henqueued
  refine ⟨hpending, henqueued, hanswers.trans ?_⟩
  decide +kernel

end Engine

end BundleWatch
