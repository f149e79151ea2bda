import BundleWatch.Proofs.Engine.History
import BundleWatch.Proofs.List.Results
import BundleWatch.Proofs.Queue.Merging
import BundleWatch.Rule.Actions

/-!
# Offers of project rules

The rules of a project file never fail, and each offers at most one task for a file. The tasks that announce
a file are offered by the reload rules that match its name.
-/

set_option autoImplicit false

namespace BundleWatch

def Work.offering {ω : Type} (w : ω) : Option Task → Work ω
  | some t => .enqueue t fun _ => .finish w (.ok ())
  | none => .finish w (.ok ())

namespace Work

variable {ω : Type}

theorem offering_run (w : ω) (t? : Option Task) (q : TaskQueue) :
    ∃ q', (offering w t?).run q = (q', w, .ok ()) := by
  cases t? <;> exact ⟨_, rfl⟩

theorem offering_offers (w : ω) (t? : Option Task) (q : TaskQueue) :
    Mark.offers ((offering w t?).marks q) = t?.toList := by
  cases t? <;> rfl

end Work

namespace Task

def message? (t : Task) : Option String :=
  match t.args with
  | [.text name] => if t.handler = reloadName then some name else none
  | _ => none

theorem message?_eq_some {t : Task} {name : String} (h : t.message? = some name) :
    t = .new reloadName [.text name] := by
  unfold message? at h
  split at h
  · next hargs =>
    split at h
    · next hname =>
      obtain rfl := Option.some.inj h
      exact ext_call hname hargs
    · cases h
  · cases h

def Ordinary (t : Task) : Prop :=
  t.handler = copyName ∨ t.handler = commandName ∨ t.handler = manifestName ∨
    ∃ name, t = .new reloadName [.text name]

end Task

namespace RuleSpec

def task? (r : RuleSpec) (settings : Settings) (s : Subject) : Option Task :=
  let v := vars settings s
  match r.action with
  | .copy => some (.new Task.copyName [.text v.path, .text (v.render (r.dest.getD ""))])
  | .command =>
    let argv := r.cmd.getD []
    let description := r.description.getD (" ".intercalate argv)
    some (.new Task.commandName [.text (v.render description), .list (argv.map v.render)])
  | .reload =>
    (Path.relativeTo? s.place settings.outputDir s.path).map fun name =>
      .new Task.reloadName [.text name]
  | .manifest => some (.new Task.manifestName [])

/-- A rule of the table does what a rule of the project file says. -/
structure Realizes (r : RuleSpec) (rule : Rule) : Prop where
  pattern : Pattern.compile r.pattern = .ok rule.pattern
  act : ∀ settings s j, rule.act settings s j = .offering j (r.task? settings s)

theorem rule_realizes {r : RuleSpec} {rule : Rule} (h : r.rule = .ok rule) : r.Realizes rule := by
  obtain ⟨pattern, action, feature, dest, cmd, description⟩ := r
  unfold RuleSpec.rule at h
  rcases hp : Pattern.compile pattern with err | p
  · rw [hp] at h
    cases h
  · rw [hp] at h
    cases action with
    | copy =>
      cases dest with
      | none => cases h
      | some dest =>
        cases h
        exact ⟨hp, fun settings s j => rfl⟩
    | command =>
      rcases cmd with _ | _ | ⟨tool, args⟩
      · cases h
      · cases h
      · cases h
        exact ⟨hp, fun settings s j => rfl⟩
    | reload =>
      cases h
      refine ⟨hp, fun settings s j => ?_⟩
      simp only [offerReload, task?]
      cases Path.relativeTo? s.place settings.outputDir s.path <;> rfl
    | manifest =>
      cases h
      exact ⟨hp, fun settings s j => rfl⟩

theorem task?_ordinary {r : RuleSpec} {settings : Settings} {s : Subject} {t : Task}
    (h : r.task? settings s = some t) : t.Ordinary := by
  unfold task? at h
  split at h
  · exact .inl (Option.some.inj h ▸ rfl)
  · exact .inr (.inl (Option.some.inj h ▸ rfl))
  · obtain ⟨name, -, rfl⟩ := Option.map_eq_some_iff.mp h
    exact .inr (.inr (.inr ⟨name, rfl⟩))
  · exact .inr (.inr (.inl (Option.some.inj h ▸ rfl)))

theorem task?_message (r : RuleSpec) (settings : Settings) (s : Subject) :
    (r.task? settings s).bind Task.message? =
      if r.action = .reload then Path.relativeTo? s.place settings.outputDir s.path else none := by
  unfold task?
  rcases r.action
  case reload => cases Path.relativeTo? s.place settings.outputDir s.path <;> rfl
  all_goals rfl

def offer? (r : RuleSpec) (settings : Settings) (place : Path → Option Path) (path : Path)
    (rel : String) : Option Task :=
  match Pattern.compile r.pattern with
  | .ok p => (p.fullMatch? rel).bind fun m => r.task? settings ⟨path, rel, m.capture, place⟩
  | .error _ => none

def announces (r : RuleSpec) (rel : String) : Bool :=
  r.action = .reload &&
    match Pattern.compile r.pattern with
    | .ok p => p.isMatch rel
    | .error _ => false

theorem offer?_ordinary {r : RuleSpec} {settings : Settings} {place : Path → Option Path}
    {path : Path} {rel : String} {t : Task} (h : r.offer? settings place path rel = some t) :
    t.Ordinary := by
  unfold offer? at h
  split at h
  · obtain ⟨m, -, htask⟩ := Option.bind_eq_some_iff.mp h
    exact task?_ordinary htask
  · cases h

theorem offer?_message (r : RuleSpec) (settings : Settings) (place : Path → Option Path)
    (path : Path) (rel : String) :
    (r.offer? settings place path rel).bind Task.message? =
      if r.announces rel then Path.relativeTo? place settings.outputDir path else none := by
  unfold offer? announces
  rcases Pattern.compile r.pattern with err | p
  · simp
  · rcases hm : p.fullMatch? rel with _ | m
    · simp [Pattern.isMatch, hm]
    · simp [Pattern.isMatch, hm, task?_message]

end RuleSpec

def Config.announces (c : Config) (rel : String) : Bool := c.activeRules.any fun r => r.announces rel

theorem Config.rule_table_realizes {c : Config} {rules : RuleTable} (h : c.ruleTable = .ok rules) :
    List.Forall₂ RuleSpec.Realizes c.activeRules rules := by
  unfold ruleTable at h
  exact (map_m_ok.mp h).imp fun r rule hr => RuleSpec.rule_realizes hr

/-- However many rules announce a file, it is announced under its one name. -/
theorem Config.offers_announce (c : Config) (settings : Settings) (place : Path → Option Path)
    (path : Path) (rel : String) :
    ((c.activeRules.filterMap fun r => r.offer? settings place path rel).filterMap
        Task.message?).eraseDups =
      if c.announces rel then (Path.relativeTo? place settings.outputDir path).toList else [] := by
  rw [List.filterMap_filterMap]
  simp only [RuleSpec.offer?_message]
  rcases Path.relativeTo? place settings.outputDir path with _ | name
  · simp
  · have hname : ∀ x ∈ c.activeRules.filterMap fun r => if r.announces rel then some name else none,
        x = name := by
      intro x hx
      obtain ⟨r, -, hr⟩ := List.mem_filterMap.mp hx
      split at hr
      · exact (Option.some.inj hr).symm
      · cases hr
    rw [erase_dups_const hname, ← ite_not]
    simp [announces]

namespace RuleTable

theorem hits_cons (rule : Rule) (rules : RuleTable) (rel : String) :
    hits (rule :: rules) rel =
      ((rule.pattern.fullMatch? rel).map fun m => (rule, m.capture)).toList ++ hits rules rel := by
  unfold hits
  rw [List.filterMap_cons]
  rcases rule.pattern.fullMatch? rel with _ | m <;> rfl

theorem fire_realized {specs : List RuleSpec} {rules : RuleTable}
    (h : List.Forall₂ RuleSpec.Realizes specs rules) (settings : Settings)
    (place : Path → Option Path) (path : Path) (rel : String) (q : TaskQueue) (j : Journal) :
    Mark.offers (fireMarks settings place path rel (hits rules rel) q j) =
      specs.filterMap fun r => r.offer? settings place path rel := by
  induction h generalizing q with
  | nil => rfl
  | @cons spec rule specs rules hrule _ ih =>
    have hspec : spec.offer? settings place path rel = (rule.pattern.fullMatch? rel).bind fun m =>
        spec.task? settings ⟨path, rel, m.capture, place⟩ := by
      rw [RuleSpec.offer?, hrule.pattern]
    rw [hits_cons]
    rcases hm : rule.pattern.fullMatch? rel with _ | m
    · rw [hm] at hspec
      simpa [hspec] using ih q
    · have hact := hrule.act settings ⟨path, rel, m.capture, place⟩ j
      rw [hm] at hspec
      simp only [Option.bind_some] at hspec
      rw [← hspec] at hact
      obtain ⟨q', hrun⟩ := Work.offering_run j (spec.offer? settings place path rel) q
      rw [← hact] at hrun
      simp only [Option.map_some, Option.toList_some, List.singleton_append]
      rw [(fire_goes_on hrun _).2, hact, Mark.offers_append, Work.offering_offers, ih q', List.filterMap_cons]
      cases spec.offer? settings place path rel <;> rfl

end RuleTable

end BundleWatch
