import BundleWatch.Proofs.Engine.Clients
import BundleWatch.Proofs.Queue.Merging
import BundleWatch.Proofs.Rule.Offers

/-!
# Announcements

Changed files of the output directory are announced to the clients. However often a file changed and however
many rules announce it, one flush sends its name once, at the place of its first change.
-/

set_option autoImplicit false

namespace BundleWatch

open Hub

variable {σ : Type}

def Operation.IsReport : Operation σ → Prop
  | .outside _ _ | .step (.pathChanged _ _) => True
  | _ => False

theorem Operation.IsReport.cases {op : Operation σ} (h : op.IsReport) :
    (∃ files hub, op = .outside files hub) ∨ ∃ watch p, op = .step (.pathChanged watch p) := by
  unfold IsReport at h
  split at h
  · exact .inl ⟨_, _, rfl⟩
  · exact .inr ⟨_, _, rfl⟩
  · exact h.elim

def Operation.byClients : Operation σ → Hub → Hub
  | .outside _ hub => hub
  | _ => id

theorem by_clients_acts {ops : List (Operation σ)} (hops : ∀ op ∈ ops, op.ActsOnHub)
    (acts : List Act) :
    ∃ more, ops.foldl (fun h op => op.byClients h) (Hub.empty.performAll acts) =
      Hub.empty.performAll more := by
  induction ops generalizing acts with
  | nil => exact ⟨acts, rfl⟩
  | cons op ops ih =>
    have hfirst : ∃ more, op.byClients (Hub.empty.performAll acts) = Hub.empty.performAll more := by
      cases op with
      | outside files hub =>
        obtain ⟨more, hmore⟩ := hops (.outside files hub) (by simp) (Hub.empty.performAll acts)
        exact ⟨acts ++ more, hmore.trans (perform_all_append _ _ _).symm⟩
      | _ => exact ⟨acts, rfl⟩
    obtain ⟨more, hmore⟩ := hfirst
    rw [List.foldl_cons, hmore]
    exact ih (fun o ho => hops o (by simp [ho])) more

/-! ## Batches -/

namespace Task

theorem message?_none {t : Task} (h : t.handler ≠ reloadName) : t.message? = none := by
  unfold message?
  split
  · exact if_neg h
  · rfl

/-- What project rules offer is carried out by the built-in tasks, and clients hear of it if it is an
announcement. -/
theorem Ordinary.carried_out [Host σ] {t : Task} (ht : t.Ordinary) (r : HandlerRegistry σ)
    (settings : Settings) (w : World σ) :
    ∃ (h : Handler σ) (w' : World σ) (done : Except Failure Unit),
      r.registerBuiltins.get? t.handler = some h ∧ h settings t.args w = .finish w' done ∧
        w'.hub = w.hub.performAll (t.message?.toList.map .notify) := by
  obtain ⟨hcopy, hcommand, hreload, hmanifest⟩ := r.builtins_registered
  rcases ht with hname | hname | hname | ⟨name, rfl⟩
  · obtain ⟨files, done, heq⟩ := copy_frame settings t.args w
    exact ⟨_, _, done, hname ▸ hcopy, heq, by rw [message?_none (hname ▸ by decide)]; rfl⟩
  · obtain ⟨tracker, done, heq⟩ := command_frame settings t.args w
    exact ⟨_, _, done, hname ▸ hcommand, heq, by rw [message?_none (hname ▸ by decide)]; rfl⟩
  · obtain ⟨files, done, heq⟩ := manifest_frame settings t.args w
    exact ⟨_, _, done, hname ▸ hmanifest, heq, by rw [message?_none (hname ▸ by decide)]; rfl⟩
  · exact ⟨_, _, _, hreload, rfl, rfl⟩

end Task

namespace Engine

theorem run_batch_announces [Host σ] {ts : List Task} (hts : ∀ t ∈ ts, t.Ordinary)
    (r : HandlerRegistry σ) (settings : Settings) (q : TaskQueue) (w : World σ)
    (hdone : (runBatch settings r.registerBuiltins ts q w).2.2 = .ok ()) :
    (runBatch settings r.registerBuiltins ts q w).2.1.hub =
      w.hub.performAll ((ts.filterMap Task.message?).map .notify) := by
  induction ts generalizing q w with
  | nil => rfl
  | cons t ts ih =>
    obtain ⟨h, w', done, hget, hwork, hhub⟩ := (hts t (by simp)).carried_out r settings w
    have hmessages : (t :: ts).filterMap Task.message? =
        t.message?.toList ++ ts.filterMap Task.message? := by
      rw [List.filterMap_cons]
      cases t.message? <;> rfl
    have hrun : (workOf settings r.registerBuiltins t w).run q = (q, w', done) := by
      rw [workOf, hget]
      exact congrArg (·.run q) hwork
    rcases done with f | ⟨⟩
    · rw [(batch_gives_up hrun ts).1] at hdone
      cases hdone
    · rw [(batch_goes_on hrun ts).1] at hdone ⊢
      rw [hmessages, List.map_append, perform_all_append, ← hhub]
      exact ih (fun u hu => hts u (by simp [hu])) q.markRun w' hdone

/-! ## Changes -/

section

variable [FileSystem σ]

/-- The name under which a changed file is to be announced: it passed its watch, it is a file and no link,
some rule announces it, and it lies in the output directory. -/
def announcement? (e : Engine σ) (c : Config) (watch : WatchId) (p : Path) : Option String :=
  let s := e.world.files
  if e.watches.accepts (FileSystem.place s) watch p && FileSystem.isFile s p &&
      !FileSystem.isLink s p &&
      ((FileSystem.relative? s e.settings.root p).map c.announces).getD false then
    FileSystem.relative? s e.settings.outputDir p
  else none

def announced (e : Engine σ) (c : Config) : Operation σ → List String
  | .step (.pathChanged watch p) => (e.announcement? c watch p).toList
  | _ => []

def announcements (e : Engine σ) (c : Config) : List (Operation σ) → List String
  | [] => []
  | op :: ops => e.announced c op ++ (e.perform op).announcements c ops

theorem change_offers {c : Config} {e : Engine σ} (hrules : c.ruleTable = .ok e.rules)
    (watch : WatchId) (p : Path) :
    (∀ t ∈ Mark.offers (e.changeMarks watch p), t.Ordinary) ∧
      ((Mark.offers (e.changeMarks watch p)).filterMap Task.message?).eraseDups =
        (e.announcement? c watch p).toList := by
  have hwhen : e.announcement? c watch p = if e.heeds watch p &&
      ((FileSystem.relative? e.world.files e.settings.root p).map c.announces).getD false then
      FileSystem.relative? e.world.files e.settings.outputDir p else none := rfl
  rw [hwhen]
  rcases h : e.heeds watch p
  · rw [(change_unheeded h).2]
    simp [Mark.offers]
  rw [(change_heeded h).2]
  rcases hrel : FileSystem.relative? e.world.files e.settings.root p with _ | rel
  · simp [(submit_outside hrel).2, Mark.offers]
  have hoffers := RuleTable.fire_realized (c.rule_table_realizes hrules) e.settings
    (FileSystem.place e.world.files) p rel e.queue e.world.journal
  rw [(submit_inside hrel rfl).2, hoffers]
  constructor
  · intro t ht
    obtain ⟨r, -, hr⟩ := List.mem_filterMap.mp ht
    exact RuleSpec.offer?_ordinary hr
  · rw [c.offers_announce]
    simp only [Option.map_some, Option.getD_some, Bool.true_and]
    split <;> rfl

theorem step_marks_offers (e : Engine σ) (watch : WatchId) (p : Path) :
    Mark.offers (e.performMarks (.step (.pathChanged watch p))) =
      Mark.offers (e.changeMarks watch p) := by
  change Mark.offers (e.stepMarks (.pathChanged watch p)) = _
  rw [offers_step_marks, handle_marks_change]

theorem reports_offer {c : Config} (ops : List (Operation σ)) {e : Engine σ}
    (hrules : c.ruleTable = .ok e.rules) (hops : ∀ op ∈ ops, op.IsReport) :
    (∀ t ∈ Mark.offers (e.performAllMarks ops), t.Ordinary) ∧
      ((Mark.offers (e.performAllMarks ops)).filterMap Task.message?).eraseDups =
        (e.announcements c ops).eraseDups := by
  induction ops generalizing e with
  | nil => exact ⟨by simp [performAllMarks, performAllTrace, Mark.offers], rfl⟩
  | cons op ops ih =>
    have hsame : (e.perform op).rules = e.rules := congrArg Setup.rules (e.perform_setup op)
    obtain ⟨hrest, hnames⟩ := ih (hsame.symm ▸ hrules) fun o ho => hops o (by simp [ho])
    rw [perform_all_marks_cons, announcements, Mark.offers_append, List.filterMap_append]
    rcases (hops op (by simp)).cases with ⟨files, hub, rfl⟩ | ⟨watch, p, rfl⟩
    · exact ⟨hrest, hnames⟩
    · obtain ⟨hordinary, hname⟩ := change_offers hrules watch p
      rw [step_marks_offers]
      constructor
      · intro t ht
        rcases List.mem_append.mp ht with hfirst | hlater
        · exact hordinary t hfirst
        · exact hrest t hlater
      · refine erase_dups_append_congr ?_ hnames
        rw [hname, announced]
        cases e.announcement? c watch p <;> rfl

theorem reports_begin_nothing (ops : List (Operation σ)) (e : Engine σ)
    (hops : ∀ op ∈ ops, op.IsReport) : .began ∉ e.performAllMarks ops := by
  induction ops generalizing e with
  | nil => exact List.not_mem_nil
  | cons op ops ih =>
    have hrest := ih (e.perform op) fun o ho => hops o (by simp [ho])
    rw [perform_all_marks_cons, List.mem_append, not_or]
    refine ⟨?_, hrest⟩
    rcases (hops op (by simp)).cases with ⟨files, hub, rfl⟩ | ⟨watch, p, rfl⟩
    · exact List.not_mem_nil
    · have hchange := (e.change_marks_only_offers watch p).inner.1
      change .began ∉ e.stepMarks (.pathChanged watch p)
      rwa [mem_step_marks Mark.noConfusion, handle_marks_change]

theorem reports_hub (ops : List (Operation σ)) (e : Engine σ) (hops : ∀ op ∈ ops, op.IsReport) :
    (e.performAll ops).world.hub = ops.foldl (fun h op => op.byClients h) e.world.hub := by
  induction ops generalizing e with
  | nil => rfl
  | cons op ops ih =>
    have hrest := ih (e.perform op) fun o ho => hops o (by simp [ho])
    rw [List.foldl_cons]
    refine hrest.trans (congrArg (ops.foldl _) ?_)
    rcases (hops op (by simp)).cases with ⟨files, hub, rfl⟩ | ⟨watch, p, rfl⟩
    · rfl
    · obtain ⟨q, j, heq⟩ := e.change_frame watch p
      change (e.step (.pathChanged watch p)).1.world.hub = _
      rw [step_world]
      exact congrArg (·.world.hub) heq

end

/-- Files change, the changes are reported, and a flush follows. Each name that is to be announced is sent
once, in the order of the first changes, to the clients that are attached and did not hang up. Nothing else
reaches any mailbox. -/
theorem changes_announced_once [Host σ] {c : Config} {r : HandlerRegistry σ} {e : Engine σ}
    (hrules : c.ruleTable = .ok e.rules) (hhandlers : e.handlers = r.registerBuiltins)
    (hcoherent : e.queue.Coherent) (hnone : e.queue.pending = []) {ops : List (Operation σ)}
    (hops : ∀ op ∈ ops, op.IsReport) (hapart : Task.Apart (Mark.offers (e.performAllMarks ops)))
    {acts : List Act} (hhub : e.world.hub = Hub.empty.performAll acts)
    (hclients : ∀ op ∈ ops, op.ActsOnHub) {s : Step} (hok : ((e.performAll ops).step .flush).2 = .ok s) :
    let before := (e.performAll ops).world.hub
    let after := ((e.performAll ops).step .flush).1.world.hub
    before = ops.foldl (fun h op => op.byClients h) e.world.hub ∧
      ∀ client, after.mailbox? client =
        if client ∈ before.clients ∧ before.isOpen client then
          (before.mailbox? client).map fun b =>
            { b with waiting := b.waiting ++ (e.announcements c ops).eraseDups }
        else before.mailbox? client := by
  intro before after
  refine ⟨reports_hub ops e hops, fun client => ?_⟩
  obtain ⟨hordinary, hnames⟩ := reports_offer ops hrules hops
  -- the batch is what the changes offered
  have hempty : e.queue.Merges [] := ⟨hcoherent, hnone⟩
  have hmerged := (perform_all_steps ops e).merges (reports_begin_nothing ops e hops) hempty hapart
  have hpending : (e.performAll ops).queue.pending =
      (Mark.offers (e.performAllMarks ops)).eraseDups := hmerged.pending
  have hbatch : ∀ t ∈ (e.performAll ops).queue.pending, t.Ordinary := by
    intro t ht
    rw [hpending] at ht
    exact hordinary t (List.mem_eraseDups.mp ht)
  have hmessages : (e.performAll ops).queue.pending.filterMap Task.message? =
      (e.announcements c ops).eraseDups := by
    rw [hpending, erase_dups_filter_map, hnames]
    intro t u name ht hu
    exact (Task.message?_eq_some ht).trans (Task.message?_eq_some hu).symm
  -- and it announces them
  obtain ⟨keepRunning, hhandled⟩ := step_ok hok
  have hdone := flush_done hhandled
  have hbuiltin : (e.performAll ops).handlers = r.registerBuiltins :=
    (congrArg Setup.handlers (perform_all_setup ops e)).trans hhandlers
  rw [hbuiltin] at hdone
  have hafter : after = before.performAll ((e.announcements c ops).eraseDups.map .notify) := by
    have hran := run_batch_announces hbatch r _ _ _ hdone
    rw [hmessages, ← hbuiltin] at hran
    exact (congrArg World.hub ((e.performAll ops).step_world .flush)).trans hran
  obtain ⟨more, hmore⟩ := by_clients_acts hclients acts
  have hbefore : before = Hub.empty.performAll more := by
    rw [← hmore, ← hhub]
    exact reports_hub ops e hops
  have hnodup : before.clients.Nodup := by
    rw [hbefore]
    exact (follows_all more).nodup
  rw [hafter]
  exact mailbox?_notify_all _ before hnodup client

def styleProject : Config where
  scans := [⟨"src", none, false⟩]
  rules := [
    { pattern := .trailing ".css", action := .reload },
    { pattern := .exact "build/a.css", action := .reload },
    { pattern := .exact "src/a.css", action := .copy, dest := some "a.css" }]
  accepted := by decide +kernel

def styled : Engine Memory where
  settings := .ofConfig styleProject ⟨"/p"⟩ true false
  rules := match styleProject.ruleTable with
    | .ok rules => rules
    | .error _ => []
  handlers := HandlerRegistry.empty.registerBuiltins
  world := {
    files := Memory.new.addFile ⟨"/p/build/b.css"⟩ [98]
    hub := Hub.empty.attach.1 }
  watches := WatchRegistry.new.add 0 ⟨"/p/build"⟩ none

/-- A style sheet changes and another one is made, and then both change. A file that is gone is reported as
well. -/
def burstOfStyles : List (Operation Memory) :=
  [.step (.pathChanged 0 ⟨"/p/build/b.css"⟩), .step (.pathChanged 0 ⟨"/p/build/gone.css"⟩),
    .outside (fun files => files.addFile ⟨"/p/build/a.css"⟩ []) id,
    .step (.pathChanged 0 ⟨"/p/build/a.css"⟩), .step (.pathChanged 0 ⟨"/p/build/b.css"⟩)]

theorem styles_run :
    Mark.offers (styled.performAllMarks burstOfStyles) =
      (["b.css", "a.css", "a.css", "b.css"].map fun name => .new Task.reloadName [.text name]) ∧
    ((styled.performAll burstOfStyles).step .flush).2 = .ok ⟨[], true⟩ ∧
    (styled.announcements styleProject burstOfStyles).eraseDups = ["b.css", "a.css"] := by
  decide +kernel

theorem styles_apart : Task.Apart (Mark.offers (styled.performAllMarks burstOfStyles)) := by
  rw [styles_run.1]
  have hsized : ∀ s ∈ ["a.css", "b.css", Task.reloadName], (Bytes.ofText s).length < 2 ^ 64 := by
    decide +kernel
  constructor
  · intro t ht
    obtain ⟨name, hname, rfl⟩ := List.mem_map.mp ht
    have hin : name ∈ ["a.css", "b.css", Task.reloadName] := by
      simp only [List.mem_cons, List.not_mem_nil, or_false] at hname ⊢
      tauto
    refine ⟨hsized _ (by simp [Task.new]), by simp [Task.new], ?_⟩
    intro a ha
    obtain rfl := List.mem_singleton.mp ha
    exact hsized name hin
  · decide +kernel

theorem styles_reported : ∀ op ∈ burstOfStyles, op.IsReport := by
  intro op hop
  simp only [burstOfStyles, List.mem_cons, List.not_mem_nil, or_false] at hop
  rcases hop with rfl | rfl | rfl | rfl | rfl <;> trivial

theorem styles_by_clients : ∀ op ∈ burstOfStyles, op.ActsOnHub := by
  intro op hop
  simp only [burstOfStyles, List.mem_cons, List.not_mem_nil, or_false] at hop
  rcases hop with rfl | rfl | rfl | rfl | rfl <;> try trivial
  exact fun h => ⟨[], rfl⟩

/-- The client hears of two files, once of each. -/
theorem changes_announced_once_styles :
    styleProject.ruleTable = .ok styled.rules ∧
      (∀ op ∈ burstOfStyles, op.IsReport ∧ op.ActsOnHub) ∧
      ((styled.performAll burstOfStyles).step .flush).1.world.hub.mailbox? 0 =
        some ⟨["b.css", "a.css"], false⟩ := by
  have hrules : styleProject.ruleTable = .ok styled.rules := rfl
  have hhandlers : styled.handlers = HandlerRegistry.empty.registerBuiltins := rfl
  have hhub : styled.world.hub = Hub.empty.performAll [.attach] := rfl
  obtain ⟨hbefore, hmailbox⟩ := changes_announced_once hrules hhandlers ⟨rfl, rfl⟩ rfl
    styles_reported styles_apart hhub styles_by_clients styles_run.2.1
  refine ⟨hrules, fun op hop => ⟨styles_reported op hop, styles_by_clients op hop⟩, ?_⟩
  rw [hmailbox 0, styles_run.2.2, hbefore]
  rfl

end Engine

end BundleWatch
