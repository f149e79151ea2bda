import BundleWatch.Files.Memory
import BundleWatch.Proofs.Engine.Setup
import BundleWatch.Proofs.Loop.WakeUp

/-!
# The end of a build

A loop that should stop when it is idle stops exactly when the build is done. A tool runs from its start
until a report of its end was handled, whatever batches and other reports come in between, so a loop that
still runs has a flush to wait for or a tool.
-/

set_option autoImplicit false

namespace BundleWatch

variable {σ : Type}

/-- Only tools that were started report their end. That they do so once is not needed. -/
def Sender.started : Sender σ := fun e _ ev =>
  ∀ id, ev.Reports id → id < e.world.processes.nextId

theorem Sender.Sends.reports_started {e : Engine σ} {sent evs : List Event}
    (h : Sender.started.Sends e sent evs) :
    ∀ ev ∈ evs, ∀ id, ev.Reports id → id < e.world.processes.nextId :=
  h.all (P := fun ev => ∀ id, ev.Reports id → id < e.world.processes.nextId) fun _ _ hmay => hmay

namespace Engine

/-- Tools are added under the numbers that an event used up, and the one that it reports is gone. -/
theorem handle_tracker [Host σ] {e : Engine σ} (hh : e.handlers.OnlySpawns) {ev : Event}
    (hshutdown : ev ≠ .shutdown) :
    e.world.processes.nextId ≤ (e.handle ev).1.world.processes.nextId ∧
      ∀ id, (e.handle ev).1.world.processes.Runs id ↔
        (e.world.processes.Runs id ∨ (e.world.processes.nextId ≤ id ∧
          id < (e.handle ev).1.world.processes.nextId)) ∧ ¬ ev.Reports id := by
  by_cases hreports : ∃ n, ev.Reports n
  · obtain ⟨n, description, status, rfl⟩ := hreports
    rw [handle_exit_tracker]
    refine ⟨Nat.le_refl _, fun id => ?_⟩
    have hid : Event.Reports (.commandExited n description status) id ↔ id = n := by
      simp [Event.Reports, eq_comm]
    have hnone : ¬ (e.world.processes.nextId ≤ id ∧
        id < (e.world.processes.finish n).1.nextId) := by
      change ¬ (e.world.processes.nextId ≤ id ∧ id < e.world.processes.nextId)
      omega
    rw [Tracker.runs_finish, hid, or_iff_left hnone]
  · have hnever : ∀ id, ¬ ev.Reports id := fun id hid => hreports ⟨id, hid⟩
    have hspawned := handle_spawned hh hnever hshutdown
    refine ⟨hspawned.next_id_le, fun id => ?_⟩
    rw [hspawned.runs_iff id, and_iff_left (hnever id)]

end Engine

namespace Loop

/-- A tool runs from its start until a report of its end was handled, and only tools that were started
are reported. -/
structure Tracked (l : Loop σ) (h : List Handled) : Prop where
  runs : ∀ id, l.engine.world.processes.Runs id ↔
    id < l.engine.world.processes.nextId ∧ ∀ x ∈ h, ¬ x.event.Reports id
  started : ∀ ev ∈ l.sent h, ∀ id, ev.Reports id → id < l.engine.world.processes.nextId

/-- The build is done: nothing is pending, no flush is armed, and every tool that was started was
reported to have ended without a failure. -/
structure Done (l : Loop σ) (h : List Handled) : Prop where
  pending : l.engine.queue.pending = []
  armed : l.engine.queue.armed = false
  reported : ∀ id < l.engine.world.processes.nextId, ∃ x ∈ h, ∃ description status,
    x.event = .commandExited id description status ∧ ∀ code, status ≠ .failed code

theorem settled_reports {e : Engine σ} {channel : List Event} {keepRunning : Bool} {ev : Event}
    (hev : ev ∈ (settled e channel keepRunning).channel) {id : Nat} (hid : ev.Reports id) :
    ev ∈ channel := by
  unfold settled at hev
  rcases List.mem_append.mp hev with hev | hev
  · exact hev
  · obtain ⟨description, status, rfl⟩ := hid
    split at hev <;> simp at hev

theorem settled_status (e : Engine σ) (channel : List Event) (honce : e.exitWhenIdle = true) :
    ((settled e channel true).status = .running → e.isIdle = false) ∧
      ((settled e channel true).status = .stopped → e.isIdle = true) := by
  unfold settled
  cases e.isIdle <;> simp [honce]

theorem done_of_idle {l : Loop σ} {h : List Handled} (hidle : l.engine.isIdle = true)
    (ht : l.Tracked h) (hclean : ∀ x ∈ h, ∀ id description code,
      x.event ≠ .commandExited id description (.failed code)) : l.Done h := by
  simp only [Engine.isIdle, TaskQueue.isEmpty, Tracker.isIdle, Bool.and_eq_true,
    List.isEmpty_iff, Bool.not_eq_eq_eq_not, Bool.not_true] at hidle
  obtain ⟨⟨hpending, harmed⟩, hnone⟩ := hidle
  refine ⟨hpending, harmed, ?_⟩
  intro id hid
  have hgone : ¬ l.engine.world.processes.Runs id := by simp [Tracker.Runs, hnone]
  have hreported : ∃ x ∈ h, x.event.Reports id := by
    apply Classical.byContradiction
    intro hno
    exact hgone ((ht.runs id).mpr ⟨hid, fun x hx hr => hno ⟨x, hx, hr⟩⟩)
  obtain ⟨x, hx, description, status, heq⟩ := hreported
  refine ⟨x, hx, description, status, heq, ?_⟩
  rintro code rfl
  exact hclean x hx id description code heq

/-- A loop that is not done has a task to run or a tool to wait for. -/
theorem busy_cases {l : Loop σ} {h : List Handled} (hbusy : l.engine.isIdle = false)
    (hq : l.engine.queue.Coherent) (ht : l.Tracked h) :
    l.engine.queue.pending ≠ [] ∨ ∃ job ∈ l.engine.world.processes.running, ∀ x ∈ h,
      ¬ x.event.Reports job.id := by
  by_cases hpending : l.engine.queue.pending = []
  · have harmed : l.engine.queue.armed = false := by simp [hq.armed, hpending]
    have hsome : l.engine.world.processes.running ≠ [] := by
      intro hnone
      simp [Engine.isIdle, TaskQueue.isEmpty, Tracker.isIdle, hpending, harmed, hnone] at hbusy
    obtain ⟨job, hjob⟩ := List.exists_mem_of_ne_nil _ hsome
    exact .inr ⟨job, hjob, ((ht.runs job.id).mp ⟨job, hjob, rfl⟩).2⟩
  · exact .inl hpending

section

variable [FileSystem σ] {may : Sender σ} {e : Engine σ}

theorem Run.setup {l : Loop σ} {h : List Handled} (hrun : Run may e l h) :
    l.engine.setup = e.setup := by
  induction hrun with
  | start _ =>
    rw [start_eq]
    rfl
  | post _ _ ih => exact ih
  | outside files hub _ ih => exact ih
  | @receive l h ev rest arrivals _ hrunning hc _ ih =>
    have hkept := (l.engine.handle_setup ev).trans ih
    rcases advance_cases arrivals hrunning hc with ⟨err, _, heq⟩ | ⟨keepRunning, _, heq⟩ <;>
      rw [heq] <;> exact hkept

theorem Run.failed_exit {l : Loop σ} {h : List Handled} (hrun : Run may e l h) {x : Handled}
    (hx : x ∈ h) {id : Nat} {description : String} {code : Int}
    (hfailed : x.event = .commandExited id description (.failed code)) :
    l.status = .failed (.commandFailed description code) := by
  induction hrun with
  | start _ => simp at hx
  | post _ _ ih => exact ih hx
  | outside files hub _ ih => exact ih hx
  | @receive l h ev rest arrivals _ hrunning hc _ ih =>
    rcases List.mem_append.mp hx with hx | hx
    · rw [ih hx] at hrunning
      simp at hrunning
    · obtain rfl := List.mem_singleton.mp hx
      simp only at hfailed
      subst hfailed
      have hhandle : (l.engine.handle (.commandExited id description (.failed code))).2 =
          .error (.commandFailed description code) := rfl
      rcases advance_cases arrivals hrunning hc with ⟨err, herr, heq⟩ | ⟨keepRunning, hok, _⟩
      · rw [heq, Except.error.inj (herr.symm.trans hhandle)]
      · cases hok.symm.trans hhandle

/-- The loop goes on while the engine is busy and stops when it is idle. -/
theorem Run.busy_or_stopped {l : Loop σ} {h : List Handled} (hrun : Run may e l h)
    (honce : e.exitWhenIdle = true) (hshutdown : ∀ x ∈ h, x.event ≠ .shutdown) :
    (l.status = .running → l.engine.isIdle = false) ∧
      (l.status = .stopped → l.engine.isIdle = true) := by
  induction hrun with
  | @start channel _ =>
    rw [start_eq]
    exact settled_status e channel honce
  | post _ _ ih => exact ih hshutdown
  | outside files hub _ ih => exact ih hshutdown
  | @receive l h ev rest arrivals hrun hrunning hc _ _ =>
    have hev : ev ≠ .shutdown := hshutdown ⟨ev, l.engine.stepMarks ev⟩ (by simp)
    rcases advance_cases arrivals hrunning hc with ⟨err, _, heq⟩ | ⟨keepRunning, hok, heq⟩
    · rw [heq]
      simp
    · obtain rfl := l.engine.handle_keeps_running hev hok
      have hsetup := (l.engine.handle_setup ev).trans hrun.setup
      have honce' : (l.engine.handle ev).1.exitWhenIdle = true :=
        (congrArg Engine.Setup.exitWhenIdle hsetup).trans honce
      rw [heq]
      exact settled_status (l.engine.handle ev).1 (rest ++ arrivals) honce'

theorem advance_reports {l : Loop σ} {ev : Event} {rest : List Event} (arrivals : List Event)
    (hl : l.status = .running) (hc : l.channel = ev :: rest) {a : Event}
    (ha : a ∈ (l.postAll arrivals).advance.channel) {id : Nat} (hid : a.Reports id) :
    a ∈ rest ++ arrivals := by
  rcases advance_cases arrivals hl hc with ⟨err, _, heq⟩ | ⟨keepRunning, _, heq⟩
  · rw [heq] at ha
    exact ha
  · rw [heq] at ha
    exact settled_reports ha hid

end

variable [Host σ] {e : Engine σ}

/-- One turn. What it starts was never reported before, because only what was started is reported. -/
theorem Tracked.turn {l : Loop σ} {h : List Handled} (ht : l.Tracked h)
    (hh : l.engine.handlers.OnlySpawns) {ev : Event} {rest arrivals : List Event}
    (hl : l.status = .running) (hc : l.channel = ev :: rest) (hshutdown : ev ≠ .shutdown)
    (hsent : Sender.started.Sends (l.postAll arrivals).advance.engine (l.sent h) arrivals) :
    (l.postAll arrivals).advance.Tracked (h ++ [⟨ev, l.engine.stepMarks ev⟩]) := by
  obtain ⟨hgrows, hruns⟩ := l.engine.handle_tracker hh hshutdown
  have hworld := advance_world arrivals hl hc
  constructor
  · intro id
    have hfresh : l.engine.world.processes.nextId ≤ id → ∀ x ∈ h, ¬ x.event.Reports id := by
      intro hle x hx hid
      have hlt := ht.started x.event (List.mem_append_left _ (List.mem_map_of_mem hx)) id hid
      omega
    rw [hworld, hruns id, ht.runs id]
    simp only [List.mem_append, List.mem_singleton, or_imp, forall_and, forall_eq]
    constructor
    · rintro ⟨⟨hlt, hunreported⟩ | ⟨hle, hlt⟩, hev⟩
      · exact ⟨by omega, hunreported, hev⟩
      · exact ⟨hlt, hfresh hle, hev⟩
    · rintro ⟨hlt, hunreported, hev⟩
      refine ⟨?_, hev⟩
      by_cases hold : id < l.engine.world.processes.nextId
      · exact .inl ⟨hold, hunreported⟩
      · exact .inr ⟨by omega, hlt⟩
  · intro a ha id hid
    have hbefore : a ∈ l.sent h → id < (l.engine.handle ev).1.world.processes.nextId := by
      intro hin
      have hlt := ht.started a hin id hid
      omega
    have harrived := hsent.reports_started
    rw [hworld] at harrived ⊢
    rcases List.mem_append.mp ha with ha | ha
    · -- a report that was handled
      rw [List.map_append] at ha
      apply hbefore
      unfold sent
      rw [hc]
      rcases List.mem_append.mp ha with ha | ha
      · exact List.mem_append_left _ ha
      · obtain rfl := List.mem_singleton.mp ha
        simp
    · -- a report that waits, or that arrived during the turn
      rcases List.mem_append.mp (advance_reports arrivals hl hc ha hid) with ha | ha
      · apply hbefore
        unfold sent
        rw [hc]
        simp [ha]
      · exact harrived a ha id hid

theorem Run.tracked {l : Loop σ} {h : List Handled} (hrun : Run .started e l h) (he : e.Prepared)
    (hh : e.handlers.OnlySpawns) (hshutdown : ∀ x ∈ h, x.event ≠ .shutdown) : l.Tracked h := by
  induction hrun with
  | @start channel hsent =>
    have hnone : (settled e channel true).engine.world.processes = .empty := he.no_tools
    rw [start_eq]
    constructor
    · simp [hnone, Tracker.Runs, Tracker.empty]
    · intro ev hev id hid
      have hwaits : ev ∈ (settled e channel true).channel := hev
      have hin := settled_reports hwaits hid
      exact hsent.reports_started ev hin id hid
  | @post l h evs _ hsent ih =>
    have ht := ih hshutdown
    refine ⟨ht.runs, ?_⟩
    intro ev hev id hid
    have hev' : ev ∈ l.sent h ++ evs := by
      unfold sent
      rw [List.append_assoc]
      exact hev
    rcases List.mem_append.mp hev' with hev | hev
    · exact ht.started ev hev id hid
    · exact hsent.reports_started ev hev id hid
  | outside files hub _ ih =>
    have ht := ih hshutdown
    exact ⟨ht.runs, ht.started⟩
  | @receive l h ev rest arrivals hrun hrunning hc hsent ih =>
    have hhandlers : l.engine.handlers = e.handlers := congrArg Engine.Setup.handlers hrun.setup
    have hev : ev ≠ .shutdown := hshutdown ⟨ev, l.engine.stepMarks ev⟩ (by simp)
    have ht := ih fun x hx => hshutdown x (by simp [hx])
    exact ht.turn (by rw [hhandlers]; exact hh) hrunning hc hev hsent

/-- A loop that should stop when it is idle ends exactly when the build is done. It stops only then, and
is not done as long as it runs; the failure of a tool is what it ends with; and when it waits on an
empty channel, a tool is running that has not reported its end. -/
theorem once_ends_when_done {l : Loop σ} {h : List Handled} (he : e.Prepared)
    (honce : e.exitWhenIdle = true) (hh : e.handlers.OnlySpawns) (hrun : Run .started e l h)
    (hshutdown : ∀ x ∈ h, x.event ≠ .shutdown) :
    (l.status = .stopped → l.Done h) ∧
      (l.status = .running → ¬ l.Done h) ∧
      (∀ x ∈ h, ∀ id description code,
        x.event = .commandExited id description (.failed code) →
          l.status = .failed (.commandFailed description code)) ∧
      (l.status = .running → l.channel = [] →
        ∃ job ∈ l.engine.world.processes.running, ∀ ev ∈ l.sent h, ¬ ev.Reports job.id) := by
  have ht := hrun.tracked he hh hshutdown
  obtain ⟨hbusy, hidle⟩ := hrun.busy_or_stopped honce hshutdown
  refine ⟨?_, ?_, ?_, ?_⟩
  · intro hl
    apply done_of_idle (hidle hl) ht
    intro x hx id description code heq
    rw [hrun.failed_exit hx heq] at hl
    cases hl
  · intro hl hdone
    rcases busy_cases (hbusy hl) (hrun.alert he hl).coherent ht with hpending | ⟨job, hjob, hnot⟩
    · exact hpending hdone.pending
    · obtain ⟨hid, -⟩ := (ht.runs job.id).mp ⟨job, hjob, rfl⟩
      obtain ⟨x, hx, description, status, heq, -⟩ := hdone.reported job.id hid
      exact hnot x hx ⟨description, status, heq⟩
  · intro x hx id description code heq
    exact hrun.failed_exit hx heq
  · intro hl hempty
    have ha := hrun.alert he hl
    rcases busy_cases (hbusy hl) ha.coherent ht with hpending | ⟨job, hjob, hnot⟩
    · have hwoken := ha.woken hpending
      rw [ha.lowered, hempty] at hwoken
      simp at hwoken
    · refine ⟨job, hjob, ?_⟩
      intro ev hev
      unfold sent at hev
      rw [hempty, List.append_nil] at hev
      obtain ⟨x, hx, rfl⟩ := List.mem_map.mp hev
      exact hnot x hx

end Loop

def Bench : Type := Memory

instance : Host Bench where
  toFileSystem := inferInstanceAs (FileSystem Memory)
  startFault? _ _ _ := none

def Engine.bench : Engine Bench where
  settings := { root := ⟨"/p"⟩, outputDir := ⟨"/p/out"⟩ }
  handlers := HandlerRegistry.empty.registerBuiltins
  world := { files := Memory.new }
  exitWhenIdle := true

def Engine.building : Engine Bench :=
  Engine.bench.perform (.enqueue "command" [.text "build", .list ["make"]])

def Event.built : Event := .commandExited 0 "build" .success

namespace Loop

def building : Loop Bench := .start .building []

def buildingHistory : List Handled := [⟨.flush, building.engine.stepMarks .flush⟩]

def built : Loop Bench := (building.advance.postAll [.built]).advance

def builtHistory : List Handled :=
  buildingHistory ++ [⟨.built, (building.advance.postAll [.built]).engine.stepMarks .built⟩]

theorem building_run : Run .started .building building.advance buildingHistory := by
  have hstart : Run .started .building building [] := .start trivial
  have hchannel : building.channel = [.flush] := rfl
  exact hstart.turn rfl hchannel

theorem built_run : Run .started .building built builtHistory := by
  have hstarted : building.advance.engine.world.processes.nextId = 1 := by decide +kernel
  have hchannel : building.advance.channel = [] := by decide +kernel
  have hmay : Sender.started.Sends building.advance.engine (building.advance.sent buildingHistory)
      [.built] := by
    refine ⟨?_, trivial⟩
    rintro id ⟨description, status, heq⟩
    cases heq
    omega
  have hposted : (building.advance.postAll [.built]).channel = [.built] := by
    rw [postAll, hchannel, List.nil_append]
  exact (building_run.post hmay).turn (by decide +kernel) hposted

/-- The loop waits for the tool, and it ends when the tool has reported. -/
theorem once_ends_when_done_built :
    Engine.building.Prepared ∧ Engine.building.exitWhenIdle = true ∧
      Engine.building.handlers.OnlySpawns ∧
      Run .started .building building.advance buildingHistory ∧
      (∃ job ∈ building.advance.engine.world.processes.running,
        ∀ ev ∈ building.advance.sent buildingHistory, ¬ ev.Reports job.id) ∧
      Run .started .building built builtHistory ∧
      built.status = .stopped ∧ built.Done builtHistory := by
  have he : Engine.building.Prepared :=
    ⟨.bench, [.enqueue "command" [.text "build", .list ["make"]]], ⟨rfl, rfl⟩,
      by simp [Operation.IsPreparation], rfl⟩
  have hh : Engine.building.handlers.OnlySpawns :=
    HandlerRegistry.OnlySpawns.register_builtins (by simp [HandlerRegistry.OnlySpawns,
      HandlerRegistry.empty])
  have hwaiting := (once_ends_when_done he rfl hh building_run (by simp [buildingHistory])).2.2.2
  have hdone := (once_ends_when_done he rfl hh built_run
    (by simp [builtHistory, buildingHistory, Event.built])).1
  have hended : built.status = .stopped := by decide +kernel
  exact ⟨he, rfl, hh, building_run, hwaiting (by decide +kernel) (by decide +kernel), built_run, hended,
    hdone hended⟩

end Loop

end BundleWatch
