import BundleWatch.Proofs.Queue.History

/-!
# The ledger of accepted tasks

The ledger has one line for each time a task was accepted, in the order of acceptance, and the line says
what became of it. It is kept from the marks of a history alone. What waits, what runs and what is
settled stand one behind the other, so no history loses a line, settles one twice, or changes the order.
-/

set_option autoImplicit false

namespace BundleWatch

inductive Fate
  | waiting
  | running
  | executed
  | dropped
deriving DecidableEq

/-- One acceptance of a task. A task that was accepted twice has two lines. -/
structure Line where
  task : Task
  fate : Fate
deriving DecidableEq

abbrev Ledger := List Line

namespace Ledger

def turn (l : Ledger) (old new : Fate) : Ledger :=
  l.map fun a => if a.fate = old then { a with fate := new } else a

def finishFirst : Ledger → Ledger
  | [] => []
  | a :: l => if a.fate = .running then { a with fate := .executed } :: l else a :: finishFirst l

def enter (l : Ledger) : Mark → Ledger
  | .offered t isNew => if isNew then l ++ [⟨t, .waiting⟩] else l
  | .began => l.turn .waiting .running
  | .ran _ => l.finishFirst
  | .gaveUp _ => l.turn .running .dropped
  | .asked => l

def ofMarks (ms : List Mark) : Ledger := ms.foldl enter []

def without (l : Ledger) (f : Fate) : List Task := (l.filter (·.fate ≠ f)).map (·.task)

def only (l : Ledger) (f : Fate) : List Task := (l.filter (·.fate = f)).map (·.task)

def lines (ts : List Task) (f : Fate) : Ledger := ts.map (⟨·, f⟩)

theorem turn_append (l k : Ledger) (old new : Fate) :
    (l ++ k).turn old new = l.turn old new ++ k.turn old new :=
  List.map_append

theorem turn_absent (l : Ledger) (old new : Fate) (h : ∀ a ∈ l, a.fate ≠ old) :
    l.turn old new = l := by
  induction l with
  | nil => rfl
  | cons a l ih =>
    have hl := ih fun b hb => h b (by simp [hb])
    unfold turn at *
    rw [List.map_cons, hl, if_neg (h a (by simp))]

theorem turn_lines (ts : List Task) (old new : Fate) : (lines ts old).turn old new = lines ts new := by
  simp [turn, lines, Function.comp_def]

theorem finish_first_append (l k : Ledger) (h : ∀ a ∈ l, a.fate ≠ .running) :
    (l ++ k).finishFirst = l ++ k.finishFirst := by
  induction l with
  | nil => rfl
  | cons a l ih =>
    rw [List.cons_append, finishFirst, if_neg (h a (by simp)), ih fun b hb => h b (by simp [hb])]
    rfl

theorem only_append (l k : Ledger) (f : Fate) : (l ++ k).only f = l.only f ++ k.only f := by
  simp [only]

theorem without_append (l k : Ledger) (f : Fate) :
    (l ++ k).without f = l.without f ++ k.without f := by
  simp [without]

theorem without_eq_tasks {l : Ledger} {f : Fate} (h : l.only f = []) :
    l.without f = l.map (·.task) := by
  have hnone : l.filter (·.fate = f) = [] := List.map_eq_nil_iff.mp h
  unfold without
  congr 1
  apply List.filter_eq_self.mpr
  intro a ha
  have := List.filter_eq_nil_iff.mp hnone a ha
  simpa using this

theorem only_lines (ts : List Task) (f g : Fate) :
    (lines ts f).only g = if f = g then ts else [] := by
  by_cases h : f = g <;> simp [only, lines, h, List.filter_map, Function.comp_def]

theorem without_lines (ts : List Task) (f g : Fate) :
    (lines ts f).without g = if f = g then [] else ts := by
  by_cases h : f = g <;> simp [without, lines, h, List.filter_map, Function.comp_def]

theorem map_task_turn (l : Ledger) (old new : Fate) :
    (l.turn old new).map (·.task) = l.map (·.task) := by
  induction l with
  | nil => rfl
  | cons a l ih =>
    by_cases h : a.fate = old <;> simpa [turn, h] using ih

theorem map_task_finish_first (l : Ledger) : l.finishFirst.map (·.task) = l.map (·.task) := by
  induction l with
  | nil => rfl
  | cons a l ih =>
    by_cases h : a.fate = .running <;> simp [finishFirst, h, ih]

theorem foldl_tasks (ms : List Mark) (l : Ledger) :
    (ms.foldl enter l).map (·.task) = l.map (·.task) ++ Mark.accepted ms := by
  induction ms generalizing l with
  | nil => simp [Mark.accepted]
  | cons m ms ih =>
    rw [List.foldl_cons, ih]
    cases m with
    | offered t isNew => cases isNew <;> simp [enter, Mark.accepted]
    | began => simp [enter, map_task_turn, Mark.accepted]
    | ran t => simp [enter, map_task_finish_first, Mark.accepted]
    | gaveUp ts => simp [enter, map_task_turn, Mark.accepted]
    | asked => simp [enter, Mark.accepted]

theorem of_marks_tasks (ms : List Mark) : (ofMarks ms).map (·.task) = Mark.accepted ms := by
  simpa [ofMarks] using foldl_tasks ms []

/-- The ledger after a history, in the middle of a batch as well: the settled lines, then those of the
batch, then those that wait. Among the settled ones are the executed and the dropped tasks. -/
structure Shows (l : Ledger) (ms : List Mark) (s : Progress) (settled : Ledger) : Prop where
  eq : l = settled ++ lines s.batch .running ++ lines s.queue.pending .waiting
  final : ∀ a ∈ settled, a.fate = .executed ∨ a.fate = .dropped
  kept : settled.without .dropped = Mark.executed ms
  lost : settled.only .dropped = Mark.dropped ms

theorem Shows.absent {l settled : Ledger} {ms : List Mark} {s : Progress}
    (h : Shows l ms s settled) {f : Fate} (he : f ≠ .executed) (hd : f ≠ .dropped) :
    ∀ a ∈ settled, a.fate ≠ f := by
  intro a ha hf
  rcases h.final a ha with h | h
  · exact he (hf ▸ h)
  · exact hd (hf ▸ h)

theorem shows_empty (q : TaskQueue) (h : q.pending = []) : Shows [] [] ⟨q, []⟩ [] where
  eq := by simp [lines, h]
  final := by simp
  kept := rfl
  lost := rfl

/-- One mark settles the lines that it is about and leaves the others in their places. -/
theorem Shows.step {l settled : Ledger} {ms : List Mark} {m : Mark} {s t : Progress}
    (h : Shows l ms s settled) (hs : Progress.Step s m t) :
    ∃ after, Shows (l.enter m) (ms ++ [m]) t after := by
  have hw := h.absent (f := .waiting) (by decide) (by decide)
  have hr := h.absent (f := .running) (by decide) (by decide)
  have hkept := h.kept
  have hlost := h.lost
  cases hs with
  | offered q b t =>
    refine ⟨settled, ?_, h.final, ?_, ?_⟩
    · by_cases ht : t.id ∈ q.pendingIds
      · simpa [enter, TaskQueue.push_old ht] using h.eq
      · simp [enter, TaskQueue.push_new ht, h.eq, lines]
    · simp [hkept, Mark.executed]
    · simp [hlost, Mark.dropped]
  | began q =>
    refine ⟨settled, ?_, h.final, ?_, ?_⟩
    · have heq := h.eq
      simp only [lines, List.map_nil, List.append_nil] at heq
      change l = settled ++ lines q.pending .waiting at heq
      rw [heq, enter, turn_append, turn_absent settled _ _ hw, turn_lines]
      simp [TaskQueue.takeBatch, lines]
    · simp [hkept, Mark.executed]
    · simp [hlost, Mark.dropped]
  | ran q t b =>
    refine ⟨settled ++ lines [t] .executed, ?_, ?_, ?_, ?_⟩
    · rw [h.eq, enter, List.append_assoc, finish_first_append settled _ hr]
      simp [lines, finishFirst, TaskQueue.markRun]
    · intro a ha
      rcases List.mem_append.mp ha with ha | ha
      · exact h.final a ha
      · simp [lines] at ha
        simp [ha]
    · rw [without_append, hkept, without_lines, Mark.executed_append]
      simp [Mark.executed]
    · rw [only_append, hlost, only_lines, Mark.dropped_append]
      simp [Mark.dropped]
  | gaveUp q t b =>
    refine ⟨settled ++ lines (t :: b) .dropped, ?_, ?_, ?_, ?_⟩
    · have hp : (lines q.pending .waiting).turn .running .dropped = lines q.pending .waiting :=
        turn_absent _ _ _ (by simp [lines])
      rw [h.eq, enter, turn_append, turn_append, turn_absent settled _ _ hr, turn_lines, hp]
      simp [lines]
    · intro a ha
      rcases List.mem_append.mp ha with ha | ha
      · exact h.final a ha
      · obtain ⟨u, _, rfl⟩ := List.mem_map.mp ha
        exact .inr rfl
    · rw [without_append, hkept, without_lines, Mark.executed_append]
      simp [Mark.executed]
    · rw [only_append, hlost, only_lines, Mark.dropped_append]
      simp [Mark.dropped]
  | asked q b =>
    refine ⟨settled, by simpa [enter, TaskQueue.takeScheduleRequest] using h.eq, h.final, ?_, ?_⟩
    · simp [hkept, Mark.executed]
    · simp [hlost, Mark.dropped]

theorem Shows.steps {l settled : Ledger} {ms ns : List Mark} {s t : Progress}
    (h : Shows l ms s settled) (hs : Progress.Steps s ns t) :
    ∃ after, Shows (ns.foldl enter l) (ms ++ ns) t after := by
  induction hs generalizing l settled ms with
  | nil s => exact ⟨settled, by simpa using h⟩
  | cons hstep _ ih =>
    obtain ⟨mid, hmid⟩ := h.step hstep
    simpa using ih hmid

/-- After a history from the empty queue, when no batch is under way: the lines that were not dropped
are the executed tasks and then the pending ones. -/
theorem shows_between_batches {ms : List Mark} {q r : TaskQueue} (hq : q.pending = [])
    (h : Progress.Steps ⟨q, []⟩ ms ⟨r, []⟩) :
    (ofMarks ms).without .dropped = Mark.executed ms ++ r.pending ∧
      (ofMarks ms).only .dropped = Mark.dropped ms := by
  obtain ⟨settled, hs⟩ := (shows_empty q hq).steps h
  have heq : ofMarks ms = settled ++ lines r.pending .waiting := by
    simpa [ofMarks, lines] using hs.eq
  have hkept := hs.kept
  have hlost := hs.lost
  rw [List.nil_append] at hkept hlost
  rw [heq, without_append, only_append, hkept, hlost, without_lines, only_lines]
  simp

end Ledger

end BundleWatch
