import BundleWatch.Engine.Loop
import BundleWatch.Proofs.Engine.Operation

/-!
# Runs of the loop

A run starts on a prepared engine and interleaves, in any order, events that are sent from outside,
changes of files and mailboxes, and events that the loop receives. Events may also arrive while the loop
handles one, before it posts the flush that the engine asks for. A run carries the history of the events
handled so far, with the marks that each of them left.
-/

set_option autoImplicit false

namespace BundleWatch

variable {σ : Type}

/-- What may be sent from outside next, given the engine and all that was sent before. -/
abbrev Sender (σ : Type) := Engine σ → List Event → Event → Prop

def Sender.Sends (may : Sender σ) (e : Engine σ) : List Event → List Event → Prop
  | _, [] => True
  | sent, ev :: evs => may e sent ev ∧ may.Sends e (sent ++ [ev]) evs

structure Handled where
  event : Event
  marks : List Mark

namespace Loop

def postAll (l : Loop σ) (evs : List Event) : Loop σ := { l with channel := l.channel ++ evs }

theorem post_all_nil (l : Loop σ) : l.postAll [] = l := by
  simp [postAll]

def disturb (l : Loop σ) (files : σ → σ) (hub : Hub → Hub) : Loop σ :=
  { l with engine := l.engine.disturb files hub }

def sent (l : Loop σ) (h : List Handled) : List Event := h.map (·.event) ++ l.channel

inductive Run [FileSystem σ] (may : Sender σ) (e : Engine σ) : Loop σ → List Handled → Prop
  | start {channel : List Event} : may.Sends e [] channel → Run may e (.start e channel) []
  | post {l : Loop σ} {h : List Handled} {evs : List Event} : Run may e l h →
      may.Sends l.engine (l.sent h) evs → Run may e (l.postAll evs) h
  | outside {l : Loop σ} {h : List Handled} (files : σ → σ) (hub : Hub → Hub) : Run may e l h →
      Run may e (l.disturb files hub) h
  | receive {l : Loop σ} {h : List Handled} {ev : Event} {rest arrivals : List Event} :
      Run may e l h → l.status = .running → l.channel = ev :: rest →
      may.Sends (l.postAll arrivals).advance.engine (l.sent h) arrivals →
      Run may e (l.postAll arrivals).advance (h ++ [⟨ev, l.engine.stepMarks ev⟩])

theorem Run.turn [FileSystem σ] {may : Sender σ} {e : Engine σ} {l : Loop σ} {h : List Handled}
    {ev : Event} {rest : List Event} (hrun : Run may e l h) (hl : l.status = .running)
    (hc : l.channel = ev :: rest) : Run may e l.advance (h ++ [⟨ev, l.engine.stepMarks ev⟩]) := by
  have hturn : Run may e (l.postAll []).advance _ := .receive hrun hl hc trivial
  rwa [post_all_nil] at hturn

/-! ## One turn of the loop -/

/-- The loop when it has done what the engine asks for: a request became a flush in the channel, and a
loop that should end when it is idle ended if it is. -/
def settled (e : Engine σ) (channel : List Event) (keepRunning : Bool) : Loop σ where
  engine := { e with queue := e.queue.takeScheduleRequest.1 }
  channel := channel ++ if e.queue.scheduleRequested then [.flush] else []
  status := if keepRunning && !(e.exitWhenIdle && e.isIdle) then .running else .stopped

theorem apply_next_step (e : Engine σ) (channel : List Event) (keepRunning : Bool) :
    Loop.apply { engine := (e.nextStep keepRunning).1, channel := channel }
      (e.nextStep keepRunning).2 = settled e channel keepRunning := by
  have hidle : Engine.isIdle { e with queue := e.queue.takeScheduleRequest.1 } = e.isIdle := rfl
  unfold Engine.nextStep Engine.nextStepTrace settled
  simp only [Traced.bind_value]
  rw [hidle]
  change (Loop.apply _ _ : Loop σ) = ⟨_, channel ++ (if e.queue.takeScheduleRequest.2 then _ else _), _⟩
  cases e.queue.takeScheduleRequest.2 <;> cases keepRunning <;> cases e.exitWhenIdle <;>
    cases e.isIdle <;> rfl

theorem start_eq (e : Engine σ) (channel : List Event) :
    Loop.start e channel = settled e channel true :=
  apply_next_step e channel true

theorem advance_failed [FileSystem σ] {l : Loop σ} {ev : Event} {rest : List Event}
    (hl : l.status = .running) (hc : l.channel = ev :: rest) {e : Engine σ} {err : BuildError}
    (hhandle : l.engine.handle ev = (e, .error err)) : l.advance = ⟨e, rest, .failed err⟩ := by
  obtain ⟨engine, channel, status⟩ := l
  obtain ⟨rfl, rfl⟩ : status = _ ∧ channel = _ := ⟨hl, hc⟩
  simp only [advance, Engine.step_of_error hhandle]

theorem advance_settled [FileSystem σ] {l : Loop σ} {ev : Event} {rest : List Event}
    (hl : l.status = .running) (hc : l.channel = ev :: rest) {e : Engine σ} {keepRunning : Bool}
    (hhandle : l.engine.handle ev = (e, .ok keepRunning)) : l.advance = settled e rest keepRunning := by
  obtain ⟨engine, channel, status⟩ := l
  obtain ⟨rfl, rfl⟩ : status = _ ∧ channel = _ := ⟨hl, hc⟩
  simp only [advance, Engine.step_of_ok hhandle]
  exact apply_next_step e rest keepRunning

theorem advance_cases [FileSystem σ] {l : Loop σ} {ev : Event} {rest : List Event}
    (arrivals : List Event) (hl : l.status = .running) (hc : l.channel = ev :: rest) :
    (∃ err, (l.engine.handle ev).2 = .error err ∧ (l.postAll arrivals).advance =
        ⟨(l.engine.handle ev).1, rest ++ arrivals, .failed err⟩) ∨
      (∃ keepRunning, (l.engine.handle ev).2 = .ok keepRunning ∧ (l.postAll arrivals).advance =
        settled (l.engine.handle ev).1 (rest ++ arrivals) keepRunning) := by
  have hlonger : (l.postAll arrivals).channel = ev :: (rest ++ arrivals) := by
    simp [postAll, hc]
  rcases hhandle : l.engine.handle ev with ⟨e, err | keepRunning⟩
  · exact .inl ⟨err, rfl, @advance_failed _ _ (l.postAll arrivals) _ _ hl hlonger _ _ hhandle⟩
  · exact .inr ⟨keepRunning, rfl, @advance_settled _ _ (l.postAll arrivals) _ _ hl hlonger _ _ hhandle⟩

theorem advance_pending [FileSystem σ] {l : Loop σ} {ev : Event} {rest : List Event}
    (arrivals : List Event) (hl : l.status = .running) (hc : l.channel = ev :: rest) :
    (l.postAll arrivals).advance.engine.queue.pending =
      (l.engine.handle ev).1.queue.pending := by
  rcases advance_cases arrivals hl hc with ⟨err, _, heq⟩ | ⟨keepRunning, _, heq⟩ <;> rw [heq]
  rfl

theorem advance_world [FileSystem σ] {l : Loop σ} {ev : Event} {rest : List Event}
    (arrivals : List Event) (hl : l.status = .running) (hc : l.channel = ev :: rest) :
    (l.postAll arrivals).advance.engine.world = (l.engine.handle ev).1.world := by
  rcases advance_cases arrivals hl hc with ⟨err, _, heq⟩ | ⟨keepRunning, _, heq⟩ <;> rw [heq]
  rfl

end Loop

end BundleWatch
