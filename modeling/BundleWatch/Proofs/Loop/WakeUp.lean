import BundleWatch.Files.Memory
import BundleWatch.Proofs.Loop.Run

/-!
# Wake-ups of the loop

Whenever the loop is about to receive, pending tasks have a flush in the channel. If nobody outside sends
flushes there is exactly one, and none when nothing is pending. The invariant counts the request of the
queue as a flush that is still to be sent, so that it holds in the middle of a turn as well.
-/

set_option autoImplicit false

namespace BundleWatch

variable {σ : Type}

namespace TaskQueue

theorem woken_more {q : TaskQueue} {n : Nat} (h : q.Woken n) (k : Nat) : q.Woken (n + k) := by
  intro hp
  have := h hp
  omega

/-- Reading the request moves a wake-up to the channel. -/
theorem woken_asked {q : TaskQueue} {n : Nat} (h : q.Woken n) :
    q.takeScheduleRequest.1.Woken (n + q.scheduleRequested.toNat) := by
  intro hp
  have := h hp
  simpa [takeScheduleRequest] using this

theorem woken_once_asked {q : TaskQueue} {n : Nat} (h : q.WokenOnce n) :
    q.takeScheduleRequest.1.WokenOnce (n + q.scheduleRequested.toNat) :=
  Nat.le_trans (Nat.le_of_eq (Nat.add_zero _)) h

end TaskQueue

namespace Engine

variable [FileSystem σ]

theorem handle_coherent {e : Engine σ} (hq : e.queue.Coherent) (ev : Event) :
    (e.handle ev).1.queue.Coherent :=
  (e.handle_steps ev).coherent hq

/-- The flush that is handled may have been the last wake-up: nothing is pending when its batch
begins. -/
theorem handle_woken {e : Engine σ} {ev : Event} {n : Nat} (hq : e.queue.Coherent)
    (h : ev ≠ .flush → e.queue.Woken n) : (e.handle ev).1.queue.Woken n := by
  by_cases hev : ev = .flush
  · subst hev
    have hb := batch_marks_inner e.settings e.handlers e.queue.pending e.queue.takeBatch.1 e.world
    exact (batch_steps e.settings e.handlers e.queue.pending _ e.world).woken hb.2 ⟨rfl, rfl⟩
      (fun hp => absurd rfl hp)
  · exact (e.handle_steps ev).woken (e.handle_marks_only_offers hev).inner.2 hq (h hev)

theorem handle_woken_once {e : Engine σ} {ev : Event} {n : Nat} (hq : e.queue.Coherent)
    (hev : ev ≠ .flush → e.queue.WokenOnce n)
    (hflush : ev = .flush → n + e.queue.scheduleRequested.toNat = 0) :
    (e.handle ev).1.queue.WokenOnce n := by
  by_cases h : ev = .flush
  · have hn := hflush h
    subst h
    have hb := batch_marks_inner e.settings e.handlers e.queue.pending e.queue.takeBatch.1 e.world
    exact (batch_steps e.settings e.handlers e.queue.pending _ e.world).woken_once hb.1 ⟨rfl, rfl⟩
      (Nat.le_of_eq hn)
  · exact (e.handle_steps ev).woken_once (e.handle_marks_only_offers h).inner.1 hq (hev h)

end Engine

/-! ## The loop -/

def Sender.noFlush : Sender σ := fun _ _ ev => ev ≠ .flush

theorem Sender.Sends.all {may : Sender σ} {P : Event → Prop} {e : Engine σ}
    (hmay : ∀ sent ev, may e sent ev → P ev) {sent evs : List Event} (h : may.Sends e sent evs) :
    ∀ ev ∈ evs, P ev := by
  induction evs generalizing sent with
  | nil => simp
  | cons ev evs ih =>
    intro a ha
    rcases List.mem_cons.mp ha with rfl | ha
    · exact hmay sent a h.1
    · exact ih h.2 a ha

theorem Sender.Sends.no_flush {e : Engine σ} {sent evs : List Event}
    (h : Sender.noFlush.Sends e sent evs) : evs.count .flush = 0 :=
  List.count_eq_zero.mpr fun hin => h.all (P := (· ≠ .flush)) (fun _ _ hne => hne) _ hin rfl

/-- An engine that watches a directory with one file, for which a rule offers one task. -/
def Engine.watching : Engine Memory where
  settings := { root := ⟨"/p"⟩, outputDir := ⟨"/p/out"⟩ }
  rules := [⟨.exact "a", fun _ _ j => .offer j "touch" []⟩]
  handlers := ⟨[("touch", fun _ _ w => .finish w (.ok ()))]⟩
  world := { files := Memory.new.addFile ⟨"/p/a"⟩ [] }
  watches := WatchRegistry.new.add 0 ⟨"/p"⟩ none

def Event.touched : Event := .pathChanged 0 ⟨"/p/a"⟩

namespace Loop

/-- A loop that is about to receive: the request was read, and pending tasks are woken by a flush in the
channel. -/
structure Alert (l : Loop σ) : Prop where
  coherent : l.engine.queue.Coherent
  lowered : l.engine.queue.scheduleRequested = false
  woken : l.engine.queue.Woken (l.channel.count .flush)

theorem count_settled (e : Engine σ) (channel : List Event) (keepRunning : Bool) :
    (settled e channel keepRunning).channel.count .flush =
      channel.count .flush + e.queue.scheduleRequested.toNat := by
  unfold settled
  cases e.queue.scheduleRequested <;> simp

theorem settled_alert {e : Engine σ} {channel : List Event} (hq : e.queue.Coherent)
    (hw : e.queue.Woken (channel.count .flush)) (keepRunning : Bool) :
    (settled e channel keepRunning).Alert where
  coherent := ⟨hq.ids, hq.armed⟩
  lowered := rfl
  woken := by
    rw [count_settled]
    exact TaskQueue.woken_asked hw

theorem Alert.post_all {l : Loop σ} (h : l.Alert) (evs : List Event) : (l.postAll evs).Alert where
  coherent := h.coherent
  lowered := h.lowered
  woken := by
    change l.engine.queue.Woken ((l.channel ++ evs).count .flush)
    rw [List.count_append]
    exact TaskQueue.woken_more h.woken _

variable [FileSystem σ] {may : Sender σ} {e : Engine σ}

section Turn

variable {l : Loop σ} {ev : Event} {rest arrivals : List Event}

theorem Alert.turn (h : l.Alert) (hl : l.status = .running) (hc : l.channel = ev :: rest)
    (hl' : (l.postAll arrivals).advance.status = .running) : (l.postAll arrivals).advance.Alert := by
  rcases advance_cases arrivals hl hc with ⟨err, _, heq⟩ | ⟨keepRunning, _, heq⟩
  · rw [heq] at hl'
    cases hl'
  · rw [heq]
    refine settled_alert (Engine.handle_coherent h.coherent ev) ?_ keepRunning
    apply Engine.handle_woken h.coherent
    intro hev
    have hw := h.woken
    rw [hc, List.count_cons_of_ne hev] at hw
    rw [List.count_append]
    exact TaskQueue.woken_more hw _

/-- The other half of the count. A turn that handles a flush takes the only one out of the channel. -/
theorem Alert.turn_once (h : l.Alert) (honce : l.engine.queue.WokenOnce (l.channel.count .flush))
    (hl : l.status = .running) (hc : l.channel = ev :: rest) (hsent : arrivals.count .flush = 0)
    (hl' : (l.postAll arrivals).advance.status = .running) :
    (l.postAll arrivals).advance.engine.queue.WokenOnce
      ((l.postAll arrivals).advance.channel.count .flush) := by
  rcases advance_cases arrivals hl hc with ⟨err, _, heq⟩ | ⟨keepRunning, _, heq⟩
  · rw [heq] at hl'
    cases hl'
  · rw [heq, count_settled]
    refine TaskQueue.woken_once_asked (Engine.handle_woken_once h.coherent ?_ ?_)
    · intro hev
      rw [hc, List.count_cons_of_ne hev] at honce
      rwa [List.count_append, hsent]
    · intro hev
      unfold TaskQueue.WokenOnce at honce
      rw [hc, hev, List.count_cons_self, h.lowered] at honce
      rw [List.count_append, hsent, h.lowered]
      split at honce
      · simp at honce
      · simp at honce ⊢
        omega

end Turn

theorem Run.alert {l : Loop σ} {h : List Handled} (hrun : Run may e l h) (he : e.Prepared)
    (hl : l.status = .running) : l.Alert := by
  obtain ⟨hcoherent, hwoken, -⟩ := he.scheduled
  induction hrun with
  | @start channel hsent =>
    rw [start_eq]
    exact settled_alert hcoherent (by simpa using TaskQueue.woken_more hwoken (channel.count .flush)) true
  | @post l h evs _ _ ih => exact (ih hl).post_all evs
  | outside files hub _ ih => exact ⟨(ih hl).coherent, (ih hl).lowered, (ih hl).woken⟩
  | receive _ hrunning hc _ ih => exact (ih hrunning).turn hrunning hc hl

theorem Run.alert_once {l : Loop σ} {h : List Handled} (hrun : Run .noFlush e l h)
    (he : e.Prepared) (hl : l.status = .running) :
    l.engine.queue.WokenOnce (l.channel.count .flush) := by
  obtain ⟨hcoherent, -, honce⟩ := he.scheduled
  induction hrun with
  | @start channel hsent =>
    rw [start_eq, count_settled, hsent.no_flush]
    exact TaskQueue.woken_once_asked honce
  | @post l h evs _ hsent ih =>
    have ha := ih hl
    change l.engine.queue.WokenOnce ((l.channel ++ evs).count .flush)
    rwa [List.count_append, hsent.no_flush]
  | outside files hub _ ih => exact ih hl
  | receive hrun hrunning hc hsent ih =>
    exact (hrun.alert he hrunning).turn_once (ih hrunning) hrunning hc hsent.no_flush hl

/-- Each time the loop is about to receive, exactly one flush is in the channel if tasks are pending, and
none otherwise. Work is never left without a wake-up, and no burst schedules two flushes. -/
theorem one_flush_in_flight {l : Loop σ} {h : List Handled} (he : e.Prepared)
    (hrun : Run .noFlush e l h) (hl : l.status = .running) :
    l.channel.count .flush = if l.engine.queue.pending = [] then 0 else 1 := by
  have ha := hrun.alert he hl
  have honce := hrun.alert_once he hl
  have hwoken := ha.woken
  unfold TaskQueue.WokenOnce at honce
  rw [ha.lowered] at honce
  by_cases hp : l.engine.queue.pending = []
  · simp only [hp, if_true] at honce ⊢
    omega
  · have := hwoken hp
    rw [ha.lowered] at this
    simp only [hp, if_false, Bool.toNat_false] at honce this ⊢
    omega

def burst : Loop Memory := .start .watching [.touched, .touched]

def burstHistory : List Handled :=
  [⟨.touched, burst.engine.stepMarks .touched⟩,
    ⟨.touched, burst.advance.engine.stepMarks .touched⟩]

theorem burst_run : Run .noFlush .watching burst.advance.advance burstHistory := by
  have hstart : Run .noFlush .watching burst [] :=
    .start ⟨Event.noConfusion, Event.noConfusion, trivial⟩
  have hfirst := hstart.turn rfl (rfl : burst.channel = [.touched, .touched])
  have hready : burst.advance.status = .running ∧
      burst.advance.channel = [.touched, .flush] := by decide +kernel
  exact hfirst.turn hready.1 hready.2

/-- Both changes are handled, and the one flush of the first is still to come. -/
theorem one_flush_in_flight_burst :
    Engine.watching.Prepared ∧ Run .noFlush .watching burst.advance.advance burstHistory ∧
      burst.advance.advance.status = .running ∧
      burst.advance.advance.channel.count .flush = 1 := by
  have he : Engine.watching.Prepared := ⟨.watching, [], ⟨rfl, rfl⟩, by simp, rfl⟩
  obtain ⟨hl, hpending⟩ : burst.advance.advance.status = .running ∧
      burst.advance.advance.engine.queue.pending ≠ [] := by decide +kernel
  have hcount := one_flush_in_flight he burst_run hl
  rw [if_neg hpending] at hcount
  exact ⟨he, burst_run, hl, hcount⟩

end Loop

end BundleWatch
