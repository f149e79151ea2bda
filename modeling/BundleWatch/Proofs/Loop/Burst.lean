import BundleWatch.Proofs.Engine.Setup
import BundleWatch.Proofs.Engine.Success
import BundleWatch.Proofs.Loop.WakeUp
import BundleWatch.Proofs.Queue.Merging

/-!
# Bursts

Changes that wait together are handled together. The flush for them is posted behind all that waits when the
first task is queued, so that the batch begins with what all the changes offer, each task once.
-/

set_option autoImplicit false

namespace BundleWatch

variable {σ : Type}

def Handled.RanNothing (x : Handled) : Prop := Mark.executed x.marks = [] ∧ Mark.dropped x.marks = []

namespace Engine

theorem batch_runs (settings : Settings) (handlers : HandlerRegistry σ) {ts : List Task} (hts : ts ≠ [])
    (q : TaskQueue) (w : World σ) :
    Mark.executed (batchMarks settings handlers ts q w) ≠ [] ∨
      Mark.dropped (batchMarks settings handlers ts q w) ≠ [] := by
  obtain ⟨t, ts, rfl⟩ := List.exists_cons_of_ne_nil hts
  rcases hrun : (workOf settings handlers t w).run q with ⟨q', w', f | ⟨⟩⟩
  · rw [(batch_gives_up hrun ts).2, Mark.dropped_append]
    exact .inr (List.append_ne_nil_of_right_ne_nil _ (List.cons_ne_nil _ _))
  · rw [(batch_goes_on hrun ts).2, Mark.executed_append]
    exact .inl (List.append_ne_nil_of_right_ne_nil _ (List.cons_ne_nil _ _))

variable [FileSystem σ]

theorem ran_nothing {e : Engine σ} {ev : Event} (hev : ev ≠ .flush) :
    Handled.RanNothing ⟨ev, e.stepMarks ev⟩ := by
  have hmarks := (e.handle_marks_only_offers hev).ran_nothing
  obtain ⟨hexecuted, hdropped⟩ := e.ran_step_marks ev
  exact ⟨hexecuted.trans hmarks.1, hdropped.trans hmarks.2⟩

theorem flush_runs {e : Engine σ} (hp : e.queue.pending ≠ []) :
    ¬Handled.RanNothing ⟨.flush, e.stepMarks .flush⟩ := by
  rintro ⟨hexecuted, hdropped⟩
  have hbatch := batch_runs e.settings e.handlers hp e.queue.takeBatch.1 e.world
  have hmarks := e.ran_step_marks .flush
  rw [handle_marks_flush, flush_marks] at hmarks
  rcases hbatch with hne | hne
  · exact hne (hmarks.1.symm.trans hexecuted)
  · exact hne (hmarks.2.symm.trans hdropped)

end Engine

namespace Loop

def offered (h : List Handled) : List Task := h.flatMap fun x => Mark.offers x.marks

theorem offered_concat (h : List Handled) (x : Handled) :
    offered (h ++ [x]) = offered h ++ Mark.offers x.marks := by
  simp [offered]

variable [FileSystem σ]

/-- What may come of a loop from some point on, with the history since then. -/
inductive Onward (may : Sender σ) (l₀ : Loop σ) : Loop σ → List Handled → Prop
  | here : Onward may l₀ l₀ []
  | post {l : Loop σ} {h : List Handled} {evs : List Event} : Onward may l₀ l h →
      may.Sends l.engine (l.sent h) evs → Onward may l₀ (l.postAll evs) h
  | outside {l : Loop σ} {h : List Handled} (files : σ → σ) (hub : Hub → Hub) : Onward may l₀ l h →
      Onward may l₀ (l.disturb files hub) h
  | receive {l : Loop σ} {h : List Handled} {ev : Event} {rest arrivals : List Event} :
      Onward may l₀ l h → l.status = .running → l.channel = ev :: rest →
      may.Sends (l.postAll arrivals).advance.engine (l.sent h) arrivals →
      Onward may l₀ (l.postAll arrivals).advance (h ++ [⟨ev, l.engine.stepMarks ev⟩])

variable {may : Sender σ} {l₀ l : Loop σ} {h : List Handled}

theorem Onward.turn {ev : Event} {rest : List Event} (honward : Onward may l₀ l h)
    (hl : l.status = .running) (hc : l.channel = ev :: rest) :
    Onward may l₀ l.advance (h ++ [⟨ev, l.engine.stepMarks ev⟩]) := by
  have hturn : Onward may l₀ (l.postAll []).advance _ := .receive honward hl hc trivial
  rwa [post_all_nil] at hturn

theorem Run.rested {e : Engine σ} (hrun : Run may e l h) (he : e.queue.Coherent)
    (hl : l.status = .running) :
    l.engine.queue.Coherent ∧ l.engine.queue.scheduleRequested = false := by
  induction hrun with
  | start _ =>
    rw [start_eq]
    exact ⟨⟨he.ids, he.armed⟩, rfl⟩
  | post _ _ ih => exact ih hl
  | outside files hub _ ih => exact ih hl
  | @receive l h ev rest arrivals _ hrunning hc _ ih =>
    rcases advance_cases arrivals hrunning hc with ⟨err, _, heq⟩ | ⟨keepRunning, _, heq⟩
    · rw [heq] at hl
      cases hl
    · have hcoherent := Engine.handle_coherent (ih hrunning).1 ev
      rw [heq]
      exact ⟨⟨hcoherent.ids, hcoherent.armed⟩, rfl⟩

theorem advance_channel {ev : Event} {rest : List Event} (arrivals : List Event)
    (hl : l.status = .running) (hc : l.channel = ev :: rest) :
    ∃ posted, (l.postAll arrivals).advance.channel = rest ++ arrivals ++ posted ∧
      (posted = [] ∨ posted = [.flush]) := by
  rcases advance_cases arrivals hl hc with ⟨err, _, heq⟩ | ⟨keepRunning, _, heq⟩
  · exact ⟨[], by rw [heq, List.append_nil], .inl rfl⟩
  · rw [heq]
    refine ⟨_, rfl, ?_⟩
    split
    · exact .inr rfl
    · exact .inl rfl

theorem Onward.in_order (honward : Onward may l₀ l h) : l₀.channel <+: l.sent h := by
  induction honward with
  | here => exact List.prefix_rfl
  | @post l h evs _ _ ih =>
    refine ih.trans ⟨evs, ?_⟩
    simp [sent, postAll]
  | outside files hub _ ih => exact ih
  | @receive l h ev rest arrivals _ hrunning hc _ ih =>
    obtain ⟨posted, hchannel, -⟩ := advance_channel arrivals hrunning hc
    refine ih.trans ⟨arrivals ++ posted, ?_⟩
    simp [sent, hc, hchannel]

theorem Onward.setup (honward : Onward may l₀ l h) : l.engine.setup = l₀.engine.setup := by
  induction honward with
  | here => rfl
  | post _ _ ih => exact ih
  | outside files hub _ ih => exact ih
  | @receive l h ev rest arrivals _ hrunning hc _ ih =>
    have hkept := (l.engine.handle_setup ev).trans ih
    rcases advance_cases arrivals hrunning hc with ⟨err, _, heq⟩ | ⟨keepRunning, _, heq⟩ <;>
      rw [heq] <;> exact hkept

/-! ## Before the batch -/

structure Collecting (l : Loop σ) (h : List Handled) : Prop where
  alert : l.Alert
  once : l.engine.queue.WokenOnce (l.channel.count .flush)
  collects : l.engine.queue.Collects (offered h)

omit [FileSystem σ] in
theorem Collecting.flush_pending {rest : List Event} (hcollecting : l.Collecting h)
    (hc : l.channel = .flush :: rest) : l.engine.queue.pending ≠ [] := by
  intro hp
  have honce := hcollecting.once
  rw [hc, TaskQueue.WokenOnce, if_pos hp, List.count_cons_self] at honce
  omega

theorem Collecting.not_flush {ev : Event} {rest : List Event} (hcollecting : l.Collecting h)
    (hc : l.channel = ev :: rest) (hidle : Handled.RanNothing ⟨ev, l.engine.stepMarks ev⟩) :
    ev ≠ .flush := by
  rintro rfl
  exact Engine.flush_runs (hcollecting.flush_pending hc) hidle

theorem Collecting.turn {ev : Event} {rest arrivals : List Event} (hcollecting : l.Collecting h)
    (hl : l.status = .running) (hc : l.channel = ev :: rest) (hsent : arrivals.count .flush = 0)
    (hl' : (l.postAll arrivals).advance.status = .running) (hev : ev ≠ .flush) :
    (l.postAll arrivals).advance.Collecting (h ++ [⟨ev, l.engine.stepMarks ev⟩]) where
  alert := hcollecting.alert.turn hl hc hl'
  once := hcollecting.alert.turn_once hcollecting.once hl hc hsent hl'
  collects := by
    have hbegan := (l.engine.handle_marks_only_offers hev).inner.1
    have hcollects := (l.engine.handle_steps ev).collects hbegan hcollecting.collects
    have halert := hcollecting.alert.turn hl hc hl'
    refine ⟨halert.coherent, ?_⟩
    rw [advance_pending arrivals hl hc, offered_concat, Engine.offers_step_marks]
    exact hcollects.pending

theorem Onward.collecting (hstart : l₀.Collecting []) (honward : Onward .noFlush l₀ l h)
    (hl : l.status = .running) (hidle : ∀ x ∈ h, x.RanNothing) : l.Collecting h := by
  induction honward with
  | here => exact hstart
  | @post l h evs _ hsent ih =>
    have hbefore := ih hl hidle
    refine ⟨hbefore.alert.post_all evs, ?_, hbefore.collects⟩
    change l.engine.queue.WokenOnce ((l.channel ++ evs).count .flush)
    rw [List.count_append, hsent.no_flush]
    exact hbefore.once
  | outside files hub _ ih =>
    have hbefore := ih hl hidle
    exact ⟨⟨hbefore.alert.coherent, hbefore.alert.lowered, hbefore.alert.woken⟩, hbefore.once,
      ⟨hbefore.collects.coherent, hbefore.collects.pending⟩⟩
  | @receive l h ev rest arrivals _ hrunning hc hsent ih =>
    obtain ⟨hfirst, hlast⟩ := List.forall_mem_append.mp hidle
    have hbefore := ih hrunning hfirst
    have hev := hbefore.not_flush hc (hlast _ (List.mem_singleton.mpr rfl))
    exact hbefore.turn hrunning hc hsent.no_flush hl hev

/-- The flush was posted behind `waiting` and what was handled since then. -/
structure Posted (l₀ l : Loop σ) (h : List Handled) (waiting later : List Event) : Prop where
  channel : l.channel = waiting ++ .flush :: later
  quiet : .flush ∉ waiting
  posted : ∃ before after lk, h = before ++ after ∧ Onward .noFlush l₀ lk before ∧
    lk.channel = after.map (·.event) ++ waiting ++ [.flush]

theorem Onward.posted (hstart : l₀.Collecting []) (hquiet : .flush ∉ l₀.channel)
    (honward : Onward .noFlush l₀ l h) (hl : l.status = .running) (hidle : ∀ x ∈ h, x.RanNothing)
    (hflush : .flush ∈ l.channel) : ∃ waiting later, Posted l₀ l h waiting later := by
  induction honward with
  | here => exact absurd hflush hquiet
  | @post l h evs _ hsent ih =>
    have hbefore : .flush ∈ l.channel := by
      rcases List.mem_append.mp hflush with hin | hin
      · exact hin
      · exact absurd hin (List.count_eq_zero.mp hsent.no_flush)
    obtain ⟨waiting, later, hchannel, hwaiting, hposted⟩ := ih hl hidle hbefore
    refine ⟨waiting, later ++ evs, ?_, hwaiting, hposted⟩
    change l.channel ++ evs = _
    rw [hchannel, List.append_assoc, List.cons_append]
  | outside files hub _ ih =>
    obtain ⟨waiting, later, hchannel, hwaiting, hposted⟩ := ih hl hidle hflush
    exact ⟨waiting, later, hchannel, hwaiting, hposted⟩
  | @receive l h ev rest arrivals honward hrunning hc hsent ih =>
    obtain ⟨hfirst, hlast⟩ := List.forall_mem_append.mp hidle
    have hev := (honward.collecting hstart hrunning hfirst).not_flush hc
      (hlast _ (List.mem_singleton.mpr rfl))
    have harrivals := List.count_eq_zero.mp hsent.no_flush
    obtain ⟨posted, hchannel, hkind⟩ := advance_channel arrivals hrunning hc
    by_cases hbefore : .flush ∈ l.channel
    · -- the flush was posted earlier, and the event came before it
      obtain ⟨waiting, later, hwas, hwaiting, before, after, lk, rfl, hlk, hsince⟩ :=
        ih hrunning hfirst hbefore
      rcases waiting with _ | ⟨first, waiting⟩
      · exact absurd (List.cons.inj (hc.symm.trans hwas)).1 hev
      · obtain ⟨rfl, rfl⟩ := List.cons.inj (hc.symm.trans hwas)
        refine ⟨waiting, later ++ arrivals ++ posted, by simp [hchannel],
          fun hin => hwaiting (List.mem_cons_of_mem _ hin), before,
          after ++ [⟨ev, l.engine.stepMarks ev⟩], lk, by simp, hlk, by simp [hsince]⟩
    · -- the flush is posted now, behind all that waits
      have hrest : .flush ∉ rest ++ arrivals := by
        intro hin
        rcases List.mem_append.mp hin with hin | hin
        · exact hbefore (hc ▸ List.mem_cons_of_mem _ hin)
        · exact harrivals hin
      have hposted : posted = [.flush] := by
        refine hkind.resolve_left ?_
        rintro rfl
        rw [hchannel, List.append_nil] at hflush
        exact hrest hflush
      subst hposted
      exact ⟨rest ++ arrivals, [], hchannel, hrest, _, [], _, by rw [List.append_nil],
        honward.receive hrunning hc hsent, by simpa using hchannel⟩

/-! ## The burst -/

theorem Onward.next_waits {ev : Event} {rest : List Event} (honward : Onward may l₀ l h)
    (hc : l.channel = ev :: rest) (hlen : h.length < l₀.channel.length) : ev ∈ l₀.channel := by
  obtain ⟨tail, htail⟩ := honward.in_order
  rw [sent, hc, List.append_eq_append_iff] at htail
  have hevents : (h.map (·.event)).length = h.length := List.length_map _
  rcases htail with ⟨extra, hevents', -⟩ | ⟨extra, hchannel, hextra⟩
  · rw [hevents', List.length_append] at hevents
    omega
  · rcases extra with _ | ⟨first, extra⟩
    · rw [hchannel, List.append_nil] at hlen
      omega
    · obtain ⟨rfl, -⟩ := List.cons.inj hextra
      rw [hchannel]
      simp

/-- While the changes of a burst are handled, the loop goes on and no task runs. -/
theorem Onward.burst_handled (hl₀ : l₀.status = .running) (hwatch : l₀.engine.exitWhenIdle = false)
    (hrules : l₀.engine.RulesNeverFail) (hchanges : ∀ ev ∈ l₀.channel, ∃ w p, ev = .pathChanged w p)
    (honward : Onward may l₀ l h) (hlen : h.length ≤ l₀.channel.length) :
    l.status = .running ∧ ∀ x ∈ h, x.RanNothing := by
  induction honward with
  | here => exact ⟨hl₀, by simp⟩
  | post _ _ ih => exact ih hlen
  | outside files hub _ ih => exact ih hlen
  | @receive l h ev rest arrivals honward hrunning hc _ ih =>
    rw [List.length_append, List.length_singleton] at hlen
    have hbefore := (ih (by omega)).2
    obtain ⟨w, p, rfl⟩ := hchanges ev (honward.next_waits hc (by omega))
    constructor
    · have hkept := (l.engine.handle_setup (.pathChanged w p)).trans honward.setup
      have hok := Engine.handle_change_ok
        (hrules.congr (congrArg Engine.Setup.rules honward.setup)) w p
      have hexit : (l.engine.handle (.pathChanged w p)).1.exitWhenIdle = false :=
        (congrArg Engine.Setup.exitWhenIdle hkept).trans hwatch
      rcases advance_cases arrivals hrunning hc with ⟨err, herr, -⟩ | ⟨keepRunning, hkeep, heq⟩
      · rw [hok] at herr
        cases herr
      · obtain rfl := Except.ok.inj (hok.symm.trans hkeep)
        rw [heq, settled, hexit]
        rfl
    · refine List.forall_mem_append.mpr ⟨hbefore, ?_⟩
      intro x hx
      obtain rfl := List.mem_singleton.mp hx
      exact Engine.ran_nothing Event.noConfusion

/-- A loop that is about to receive has nothing pending, and changes and nothing else wait in the channel. While
they are handled no task runs. The next batch begins with what they offer, the first task of each identity in
the order of the changes; whatever follows was offered for events that came before the flush was posted. -/
theorem burst_runs_as_one_batch {new : Engine σ} (hnew : new.IsNew) {ops : List (Operation σ)}
    {may : Sender σ} (hrun : Run may (new.performAll ops) l h) (hl : l.status = .running)
    (hwatch : l.engine.exitWhenIdle = false) (hrules : l.engine.RulesNeverFail)
    (hempty : l.engine.queue.pending = [])
    (hchanges : ∀ ev ∈ l.channel, ∃ w p, ev = .pathChanged w p) {l' : Loop σ} {more : List Handled}
    (honward : Onward .noFlush l l' more) :
    (more.length ≤ l.channel.length → l'.status = .running ∧ ∀ x ∈ more, x.RanNothing) ∧
    (l'.status = .running → (∀ x ∈ more, x.RanNothing) → l'.channel.head? = some .flush →
      let batch := l'.engine.queue.takeBatch.2
      batch ≠ [] ∧ l.channel <+: more.map (·.event) ∧
      Task.firsts (offered (more.take l.channel.length)) <+: batch ∧
      batch = Task.firsts (offered more) ∧
      ∃ before after lk, more = before ++ after ∧ Onward .noFlush l lk before ∧
        lk.channel = after.map (·.event) ++ [.flush]) := by
  refine ⟨honward.burst_handled hl hwatch hrules hchanges, fun hl' hidle hhead => ?_⟩
  have hquiet : .flush ∉ l.channel := by
    intro hin
    obtain ⟨w, p, heq⟩ := hchanges _ hin
    cases heq
  have hcoherent : (new.performAll ops).queue.Coherent :=
    (Engine.perform_all_steps ops new).coherent (hnew.1 ▸ TaskQueue.coherent_empty)
  obtain ⟨hrest, hlowered⟩ := hrun.rested hcoherent hl
  have hstart : l.Collecting [] := by
    refine ⟨⟨hrest, hlowered, fun hp => absurd hempty hp⟩, ?_, hrest, hempty⟩
    rw [List.count_eq_zero.mpr hquiet, TaskQueue.WokenOnce, hlowered]
    exact Nat.zero_le _
  have hcollecting := honward.collecting hstart hl' hidle
  obtain ⟨rest, hc⟩ : ∃ rest, l'.channel = .flush :: rest := by
    rcases hchannel : l'.channel with _ | ⟨ev, rest⟩
    · rw [hchannel] at hhead
      cases hhead
    · rw [hchannel] at hhead
      cases hhead
      exact ⟨rest, rfl⟩
  have hbatch : l'.engine.queue.takeBatch.2 = Task.firsts (offered more) :=
    hcollecting.collects.pending
  refine ⟨hcollecting.flush_pending hc, ?_, ?_, hbatch, ?_⟩
  · -- no change of the burst is left, since the flush is the next event
    have hlen : l.channel.length ≤ more.length := by
      by_contra hlt
      exact hquiet (honward.next_waits hc (Nat.lt_of_not_le hlt))
    exact List.prefix_of_prefix_length_le honward.in_order (List.prefix_append _ _)
      (by rwa [List.length_map])
  · have hoffered : offered (more.take l.channel.length) ++ offered (more.drop l.channel.length) =
        offered more := by
      rw [offered, offered, ← List.flatMap_append, List.take_append_drop, offered]
    rw [hbatch, ← hoffered]
    exact Task.firsts_prefix _ _
  · obtain ⟨waiting, later, hchannel, hwaiting, before, after, lk, hmore, hlk, hsince⟩ :=
      honward.posted hstart hquiet hl' hidle (hc ▸ List.mem_cons_self)
    have hnone : waiting = [] := by
      rcases waiting with _ | ⟨first, waiting⟩
      · rfl
      · obtain ⟨rfl, -⟩ := List.cons.inj (hc.symm.trans hchannel)
        exact absurd List.mem_cons_self hwaiting
    refine ⟨before, after, lk, hmore, hlk, ?_⟩
    rw [hsince, hnone, List.append_nil]

theorem burst_onward : Onward .noFlush burst burst.advance.advance burstHistory := by
  have hready : burst.advance.status = .running ∧ burst.advance.channel = [.touched, .flush] := by
    decide +kernel
  have hstart : Onward .noFlush burst burst [] := .here
  have hfirst := hstart.turn rfl (rfl : burst.channel = [.touched, .touched])
  exact hfirst.turn hready.1 hready.2

/-- Both changes offer the one task, and the batch has it once. -/
theorem burst_runs_as_one_batch_touched :
    burst.engine.RulesNeverFail ∧ Onward .noFlush burst burst.advance.advance burstHistory ∧
      (∀ x ∈ burstHistory, x.RanNothing) ∧
      offered burstHistory = [.new "touch" [], .new "touch" []] ∧
      burst.advance.advance.engine.queue.takeBatch.2 = [.new "touch" []] := by
  have hstart : Run .noFlush (Engine.watching.performAll []) burst [] :=
    .start ⟨Event.noConfusion, Event.noConfusion, trivial⟩
  have hrules : burst.engine.RulesNeverFail := by
    intro rule hrule settings s j q
    obtain rfl := List.mem_singleton.mp hrule
    rfl
  have hchanges : ∀ ev ∈ burst.channel, ∃ w p, ev = .pathChanged w p := by
    intro ev hev
    change ev ∈ [Event.touched, Event.touched] at hev
    obtain rfl : ev = .touched := by simpa using hev
    exact ⟨_, _, rfl⟩
  obtain ⟨hhandled, hbatch⟩ := burst_runs_as_one_batch ⟨rfl, rfl⟩ hstart rfl rfl hrules rfl hchanges
    burst_onward
  obtain ⟨hl, hidle⟩ := hhandled (by decide)
  have hoffered : offered burstHistory = [.new "touch" [], .new "touch" []] := by decide +kernel
  obtain ⟨-, -, -, heq, -⟩ := hbatch hl hidle (by decide +kernel)
  refine ⟨hrules, burst_onward, hidle, hoffered, ?_⟩
  rw [heq, hoffered]
  decide +kernel

end Loop

end BundleWatch
