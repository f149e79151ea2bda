import BundleWatch.Proofs.Engine.Frame

/-!
# Rules that never fail

Where no rule of the table ever fails, no file that is submitted is refused.
-/

set_option autoImplicit false

namespace BundleWatch

def Rule.NeverFails (r : Rule) : Prop :=
  ∀ settings s j q, ((r.act settings s j).run q).2.2 = .ok ()

theorem RuleTable.fire_ok (settings : Settings) (place : Path → Option Path) (path : Path)
    (rel : String) {hits : List (Rule × Option String)} (h : ∀ hit ∈ hits, hit.1.NeverFails)
    (q : TaskQueue) (j : Journal) :
    (fire settings place path rel hits q j).2.2 = .ok hits.length := by
  induction hits generalizing q j with
  | nil => rfl
  | cons hit hits ih =>
    obtain ⟨rule, capture⟩ := hit
    have hok := h _ List.mem_cons_self settings ⟨path, rel, capture, place⟩ j q
    rcases hrun : (rule.act settings ⟨path, rel, capture, place⟩ j).run q with ⟨q', j', done⟩
    rw [hrun] at hok
    obtain rfl : done = _ := hok
    rw [(fire_goes_on hrun hits).1, ih fun hit hhit => h hit (List.mem_cons_of_mem _ hhit)]
    rfl

namespace Engine

variable {σ : Type}

def RulesNeverFail (e : Engine σ) : Prop := ∀ rule ∈ e.rules, rule.NeverFails

theorem RulesNeverFail.congr {e e' : Engine σ} (h : e.RulesNeverFail) (hrules : e'.rules = e.rules) :
    e'.RulesNeverFail := by
  unfold RulesNeverFail
  rw [hrules]
  exact h

theorem RulesNeverFail.hits {e : Engine σ} (h : e.RulesNeverFail) (rel : String) :
    ∀ hit ∈ e.rules.hits rel, hit.1.NeverFails := by
  intro hit hhit
  obtain ⟨rule, hrule, hmatch⟩ := List.mem_filterMap.mp hhit
  obtain ⟨m, -, rfl⟩ := Option.map_eq_some_iff.mp hmatch
  exact h rule hrule

variable [FileSystem σ]

theorem submit_ok {e : Engine σ} (h : e.RulesNeverFail) (p : Path) :
    ∃ n, (e.submit p).2 = .ok n := by
  rcases hrel : FileSystem.relative? e.world.files e.settings.root p with _ | rel
  · rw [(submit_outside hrel).1]
    exact ⟨0, rfl⟩
  · have hfire := RuleTable.fire_ok e.settings (FileSystem.place e.world.files) p rel (h.hits rel) e.queue
      e.world.journal
    rcases hran : RuleTable.fire e.settings (FileSystem.place e.world.files) p rel (e.rules.hits rel) e.queue
      e.world.journal with ⟨q, j, fired⟩
    rw [hran] at hfire
    obtain rfl : fired = _ := hfire
    exact ⟨_, congrArg Prod.snd (submit_inside hrel hran).1⟩

theorem submit_all_ok {e : Engine σ} (h : e.RulesNeverFail) (ps : List Path) :
    (e.submitAll ps).2 = .ok () := by
  induction ps generalizing e with
  | nil => rfl
  | cons p ps ih =>
    obtain ⟨q, j, hframe⟩ := e.submit_frame p
    obtain ⟨n, hn⟩ := e.submit_ok h p
    rcases hs : e.submit p with ⟨e', done⟩
    rw [hs] at hframe hn
    obtain rfl : done = _ := hn
    rw [(submit_all_of_ok hs ps).1]
    exact ih (h.congr (congrArg (·.rules) hframe))

theorem handle_change_ok {e : Engine σ} (h : e.RulesNeverFail) (w : WatchId) (p : Path) :
    (e.handle (.pathChanged w p)).2 = .ok true := by
  obtain ⟨n, hn⟩ := e.submit_ok h p
  change (e.handleChange w p).2.map (fun _ => true) = _
  rcases hheeds : e.heeds w p
  · rw [(change_unheeded hheeds).1]
    rfl
  · rw [(change_heeded hheeds).1, hn]
    rfl

end Engine

end BundleWatch
