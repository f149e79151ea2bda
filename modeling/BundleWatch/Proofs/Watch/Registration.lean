import BundleWatch.Watch.Registry

/-!
# Registrations

What a run of calls leaves in the registry. The list, the index and the answers tell the same: of each directory the
first call that succeeded, under the number that it was given. What the backend is asked is recorded on the way.
-/

set_option autoImplicit false

namespace BundleWatch

structure WatchStep where
  call : Registration
  asked : List (WatchId × Path)
  answer : Except Failure (Option WatchId)

namespace Registration

def firsts : List Registration → List Registration
  | [] => []
  | g :: gs => g :: (firsts gs).filter fun h => ¬h.dir.Same g.dir

def admits (g : Registration) (place : Path → Option Path) (p : Path) : Bool :=
  match g.filter with
  | none => true
  | some f => ((Path.relativeTo? place g.dir p).map f.isMatch).getD false

theorem exists_firsts (gs : List Registration) (d : Path) :
    (∃ g ∈ firsts gs, g.dir.Same d) ↔ ∃ g ∈ gs, g.dir.Same d := by
  induction gs with
  | nil => rfl
  | cons h gs ih =>
    simp only [firsts, List.mem_cons, or_and_right, exists_or, exists_eq_left, ← ih]
    by_cases hd : h.dir.Same d
    · simp [hd]
    · refine or_congr_right ⟨fun ⟨g, hg, hsame⟩ => ⟨g, (List.mem_filter.mp hg).1, hsame⟩, ?_⟩
      rintro ⟨g, hg, hsame⟩
      have hother : ¬g.dir.Same h.dir := fun hgh => hd (Eq.trans (Eq.symm hgh) hsame)
      exact ⟨g, List.mem_filter.mpr ⟨hg, by simpa using hother⟩, hsame⟩

theorem firsts_concat (gs : List Registration) (g : Registration) :
    firsts (gs ++ [g]) = if ∃ h ∈ gs, h.dir.Same g.dir then firsts gs else firsts gs ++ [g] := by
  induction gs with
  | nil => simp [firsts]
  | cons h gs ih =>
    rw [List.cons_append, firsts, ih, firsts]
    by_cases hhead : h.dir.Same g.dir
    · have hdrop : g.dir.Same h.dir := Eq.symm hhead
      split <;> simp [hhead, hdrop]
    · have hkeep : ¬g.dir.Same h.dir := fun hgh => hhead (Eq.symm hgh)
      split <;> simp_all

end Registration

namespace WatchStep

def Refused (u : WatchStep) : Prop := ∃ f, u.answer = .error f

instance (u : WatchStep) : Decidable u.Refused :=
  match h : u.answer with
  | .error f => .isTrue ⟨f, h⟩
  | .ok i => .isFalse fun ⟨f, hf⟩ => by rw [hf] at h; cases h

def granted (log : List WatchStep) : List Registration :=
  log.filterMap fun u =>
    match u.answer with
    | .ok (some _) => some u.call
    | _ => none

theorem mem_granted {log : List WatchStep} {g : Registration} :
    g ∈ granted log ↔ ∃ u ∈ log, u.call = g ∧ ∃ i, u.answer = .ok (some i) := by
  unfold granted
  rw [List.mem_filterMap]
  refine exists_congr fun u => and_congr_right fun _ => ?_
  rcases u.answer with f | (_ | i) <;> simp

theorem granted_refused (log : List WatchStep) {u : WatchStep} (h : u.Refused) :
    granted (log ++ [u]) = granted log := by
  obtain ⟨f, hf⟩ := h
  simp [granted, hf]

theorem granted_concat (log : List WatchStep) {u : WatchStep} {i : WatchId} (h : u.answer = .ok (some i)) :
    granted (log ++ [u]) = granted log ++ [u.call] := by
  simp [granted, h]

end WatchStep

def WatchBackend.recorded {ω : Type} (backend : WatchBackend ω) : WatchBackend (ω × List (WatchId × Path)) :=
  fun id dir s => (((backend id dir s.1).1, s.2 ++ [(id, dir)]), (backend id dir s.1).2)

namespace WatchRegistry

variable {ω : Type}

def attempt (r : WatchRegistry) (backend : WatchBackend ω) (g : Registration) (s : ω) :
    WatchRegistry × ω × WatchStep :=
  let (r, (s, asked), answer) := r.register backend.recorded g.dir g.filter (s, [])
  (r, s, ⟨g, asked, answer⟩)

def registerAll (r : WatchRegistry) (backend : WatchBackend ω) (s : ω) : List Registration → WatchRegistry × ω
  | [] => (r, s)
  | g :: gs =>
    let (r, s, _) := r.attempt backend g s
    r.registerAll backend s gs

def history (r : WatchRegistry) (backend : WatchBackend ω) (s : ω) : List Registration → List WatchStep
  | [] => []
  | g :: gs =>
    let (r, s, step) := r.attempt backend g s
    step :: r.history backend s gs

/-! ## One call -/

section

variable {r : WatchRegistry} {backend : WatchBackend ω} {g : Registration} {s : ω}

theorem attempt_disabled (h : r.enabled = false) : r.attempt backend g s = (r, s, ⟨g, [], .ok none⟩) := by
  simp [attempt, register, h]

theorem attempt_known (h : r.enabled = true) {i : WatchId} (hfind : r.find? g.dir = some i) :
    r.attempt backend g s = (r, s, ⟨g, [], .ok (some i)⟩) := by
  simp [attempt, register, h, hfind]

theorem attempt_refused (h : r.enabled = true) (hfind : r.find? g.dir = none) {f : Failure}
    (hback : (backend r.registrations.length g.dir s).2 = .error f) :
    r.attempt backend g s =
      (r, (backend r.registrations.length g.dir s).1, ⟨g, [(r.registrations.length, g.dir)], .error f⟩) := by
  simp [attempt, register, h, hfind, WatchBackend.recorded, hback]

theorem attempt_granted (h : r.enabled = true) (hfind : r.find? g.dir = none)
    (hback : (backend r.registrations.length g.dir s).2 = .ok ()) :
    r.attempt backend g s =
      (r.add r.registrations.length g.dir g.filter, (backend r.registrations.length g.dir s).1,
        ⟨g, [(r.registrations.length, g.dir)], .ok (some r.registrations.length)⟩) := by
  simp [attempt, register, h, hfind, WatchBackend.recorded, hback]

theorem register_eq_attempt (r : WatchRegistry) (backend : WatchBackend ω) (g : Registration) (s : ω) :
    r.register backend g.dir g.filter s =
      ((r.attempt backend g s).1, (r.attempt backend g s).2.1, (r.attempt backend g s).2.2.answer) := by
  unfold attempt register WatchBackend.recorded
  cases hon : r.enabled
  · rfl
  · rcases hfind : r.find? g.dir with _ | id
    · rcases hback : backend r.registrations.length g.dir s with ⟨s', f | ⟨⟩⟩ <;> simp [hback]
    · rfl

end

theorem find?_congr (r : WatchRegistry) {d d' : Path} (h : d.Same d') : r.find? d = r.find? d' := by
  have hsame (p : Path) : p.Same d ↔ p.Same d' := ⟨fun hp => Eq.trans hp h, fun hp => Eq.trans hp (Eq.symm h)⟩
  simp only [find?, hsame]

theorem find?_add (r : WatchRegistry) (id : WatchId) (dir : Path) (filter : Option Pattern) (d : Path) :
    (r.add id dir filter).find? d = if dir.Same d then some id else r.find? d := by
  unfold find? add
  by_cases hd : dir.Same d
  · simp [hd]
  · rw [if_neg hd, List.find?_cons_of_neg (by simpa using hd), List.find?_filter]
    congr 2
    funext e
    by_cases he : e.1.Same d
    · have hother : ¬e.1.Same dir := fun hed => hd (Eq.trans (Eq.symm hed) he)
      simp [he, hother]
    · simp [he]

/-! ## Runs of calls -/

def Indexed (r : WatchRegistry) : Prop :=
  ∀ d i, r.find? d = some i ↔ ∃ g, r.registrations[i]? = some g ∧ g.dir.Same d

theorem Indexed.apart {r : WatchRegistry} (h : r.Indexed) :
    r.registrations.Pairwise fun g h => ¬g.dir.Same h.dir := by
  rw [List.pairwise_iff_getElem]
  intro i j hi hj hij hsame
  have hfirst := (h r.registrations[i].dir i).mpr ⟨_, List.getElem?_eq_getElem hi, rfl⟩
  have hsecond := (h r.registrations[i].dir j).mpr ⟨_, List.getElem?_eq_getElem hj, Eq.symm hsame⟩
  rw [hfirst] at hsecond
  exact absurd (Option.some.inj hsecond) (Nat.ne_of_lt hij)

theorem Indexed.find?_none {r : WatchRegistry} (h : r.Indexed) (d : Path) :
    r.find? d = none ↔ ¬∃ g ∈ r.registrations, g.dir.Same d := by
  rw [Option.eq_none_iff_forall_ne_some, not_exists]
  constructor
  · rintro hnone g ⟨hg, hsame⟩
    obtain ⟨i, hi⟩ := List.mem_iff_getElem?.mp hg
    exact hnone i ((h d i).mpr ⟨g, hi, hsame⟩)
  · intro hnone i hi
    obtain ⟨g, hg, hsame⟩ := (h d i).mp hi
    exact hnone g ⟨List.mem_of_getElem? hg, hsame⟩

theorem Indexed.add {r : WatchRegistry} (h : r.Indexed) {dir : Path} (hfind : r.find? dir = none)
    (filter : Option Pattern) : (r.add r.registrations.length dir filter).Indexed := by
  intro d i
  have hnone := (h.find?_none dir).mp hfind
  rw [find?_add]
  change _ ↔ ∃ g, (r.registrations ++ [⟨dir, filter⟩])[i]? = some g ∧ g.dir.Same d
  rw [List.getElem?_append]
  split
  · next hd =>
    split
    · next hi =>
      -- an older entry of the same directory would have been found
      refine iff_of_false (fun heq => absurd (Option.some.inj heq) (Nat.ne_of_gt hi)) ?_
      rintro ⟨g, hg, hsame⟩
      exact hnone ⟨g, List.mem_of_getElem? hg, Eq.trans hsame (Eq.symm hd)⟩
    · next hi =>
      rw [List.getElem?_singleton]
      split
      · next hlast =>
        have hplace : r.registrations.length = i := by omega
        exact iff_of_true (congrArg some hplace) ⟨_, rfl, hd⟩
      · next hlast =>
        refine iff_of_false (fun heq => hlast ?_) (fun ⟨g, hg, _⟩ => nomatch hg)
        rw [← Option.some.inj heq, Nat.sub_self]
  · next hd =>
    rw [h d i]
    split
    · rfl
    · next hi =>
      rw [List.getElem?_eq_none (Nat.le_of_not_lt hi), List.getElem?_singleton]
      refine iff_of_false (fun ⟨g, hg, _⟩ => nomatch hg) ?_
      rintro ⟨g, hg, hsame⟩
      split at hg
      · cases hg
        exact hd hsame
      · cases hg

structure Follows (r : WatchRegistry) (log : List WatchStep) : Prop where
  enabled : r.enabled = true
  registrations : r.registrations = Registration.firsts (WatchStep.granted log)
  indexed : r.Indexed
  answers : ∀ u ∈ log, u.Refused ∨ ∃ i, u.answer = .ok (some i) ∧ r.find? u.call.dir = some i

theorem follows_new : Follows .new [] := by
  refine ⟨rfl, rfl, fun d i => iff_of_false (fun h => nomatch h) ?_, fun u hu => absurd hu List.not_mem_nil⟩
  rintro ⟨g, hg, -⟩
  cases hg

section

variable {r : WatchRegistry} {log : List WatchStep} (h : r.Follows log)

include h

theorem Follows.granted_iff (d : Path) :
    (∃ g ∈ WatchStep.granted log, g.dir.Same d) ↔ r.find? d ≠ none := by
  rw [← Registration.exists_firsts, ← h.registrations, Ne, h.indexed.find?_none, Classical.not_not]

theorem Follows.refused {u : WatchStep} (hu : u.Refused) : r.Follows (log ++ [u]) := by
  refine ⟨h.enabled, ?_, h.indexed, ?_⟩
  · rw [WatchStep.granted_refused log hu, h.registrations]
  · intro v hv
    rcases List.mem_append.mp hv with hv | hv
    · exact h.answers v hv
    · rw [List.mem_singleton.mp hv]
      exact .inl hu

theorem Follows.known {u : WatchStep} {i : WatchId} (hfind : r.find? u.call.dir = some i)
    (hu : u.answer = .ok (some i)) : r.Follows (log ++ [u]) := by
  refine ⟨h.enabled, ?_, h.indexed, ?_⟩
  · have hbefore := (h.granted_iff u.call.dir).mpr (by simp [hfind])
    rw [WatchStep.granted_concat log hu, Registration.firsts_concat, if_pos hbefore, h.registrations]
  · intro v hv
    rcases List.mem_append.mp hv with hv | hv
    · exact h.answers v hv
    · rw [List.mem_singleton.mp hv]
      exact .inr ⟨i, hu, hfind⟩

theorem Follows.granted {u : WatchStep} (hfind : r.find? u.call.dir = none)
    (hu : u.answer = .ok (some r.registrations.length)) :
    (r.add r.registrations.length u.call.dir u.call.filter).Follows (log ++ [u]) := by
  refine ⟨h.enabled, ?_, h.indexed.add hfind u.call.filter, ?_⟩
  · have hbefore : ¬∃ g ∈ WatchStep.granted log, g.dir.Same u.call.dir := by simp [h.granted_iff, hfind]
    rw [WatchStep.granted_concat log hu, Registration.firsts_concat, if_neg hbefore, ← h.registrations]
    rfl
  · intro v hv
    rcases List.mem_append.mp hv with hv | hv
    · refine (h.answers v hv).imp_right fun ⟨i, hanswer, hi⟩ => ⟨i, hanswer, ?_⟩
      have hother : ¬u.call.dir.Same v.call.dir := fun hsame => by
        rw [find?_congr r hsame, hi] at hfind
        cases hfind
      rw [find?_add, if_neg hother, hi]
    · rw [List.mem_singleton.mp hv]
      exact .inr ⟨_, hu, by simp [find?_add, Path.Same]⟩

theorem Follows.attempt {ω : Type} (backend : WatchBackend ω) (g : Registration) (s : ω) :
    (r.attempt backend g s).1.Follows (log ++ [(r.attempt backend g s).2.2]) := by
  rcases hfind : r.find? g.dir with _ | i
  · rcases hback : (backend r.registrations.length g.dir s).2 with f | ⟨⟩
    · rw [attempt_refused h.enabled hfind hback]
      exact h.refused ⟨f, rfl⟩
    · rw [attempt_granted h.enabled hfind hback]
      exact h.granted (u := ⟨g, _, _⟩) hfind rfl
  · rw [attempt_known h.enabled hfind]
    exact h.known (u := ⟨g, _, _⟩) hfind rfl

theorem Follows.issued {g : Registration} {i : WatchId} (hi : r.registrations[i]? = some g) :
    ∃ u ∈ log, u.answer = .ok (some i) := by
  have hfind := (h.indexed g.dir i).mpr ⟨g, hi, rfl⟩
  obtain ⟨g', hg', hsame⟩ := (h.granted_iff g.dir).mpr (by simp [hfind])
  obtain ⟨u, hu, rfl, j, hj⟩ := WatchStep.mem_granted.mp hg'
  rcases h.answers u hu with ⟨f, hf⟩ | ⟨k, hk, hknown⟩
  · rw [hf] at hj
    cases hj
  · rw [find?_congr r hsame, hfind] at hknown
    exact ⟨u, hu, hknown ▸ hk⟩

theorem Follows.attempt_granted_before {ω : Type} (backend : WatchBackend ω) (s : ω) {g : Registration}
    {u : WatchStep} (hu : u ∈ log) (hsame : u.call.dir.Same g.dir) {i : WatchId} (hanswer : u.answer = .ok (some i)) :
    r.attempt backend g s = (r, s, ⟨g, [], .ok (some i)⟩) := by
  apply attempt_known h.enabled
  rcases h.answers u hu with ⟨f, hf⟩ | ⟨j, hj, hknown⟩
  · rw [hf] at hanswer
    cases hanswer
  · rw [hj] at hanswer
    cases hanswer
    rwa [find?_congr r hsame] at hknown

theorem Follows.find?_refused {g : Registration} (hrefused : ∀ u ∈ log, u.call.dir.Same g.dir → u.Refused) :
    r.find? g.dir = none := by
  rcases hfind : r.find? g.dir with _ | i
  · rfl
  · obtain ⟨g', hg', hsame⟩ := (h.granted_iff g.dir).mpr (by simp [hfind])
    obtain ⟨u, hu, rfl, j, hj⟩ := WatchStep.mem_granted.mp hg'
    obtain ⟨f, hf⟩ := hrefused u hu hsame
    rw [hf] at hj
    cases hj

end

theorem Follows.register_all {r : WatchRegistry} {log : List WatchStep} (h : r.Follows log) (backend : WatchBackend ω)
    (calls : List Registration) (s : ω) :
    (r.registerAll backend s calls).1.Follows (log ++ r.history backend s calls) := by
  induction calls generalizing r log s with
  | nil => simpa [WatchRegistry.registerAll, history] using h
  | cons g calls ih =>
    simpa [WatchRegistry.registerAll, history] using ih (h.attempt backend g s) (r.attempt backend g s).2.1

theorem attempt_prefix (r : WatchRegistry) (backend : WatchBackend ω) (g : Registration) (s : ω) :
    r.registrations <+: (r.attempt backend g s).1.registrations := by
  cases hon : r.enabled
  · simp only [attempt_disabled hon, List.prefix_rfl]
  · rcases hfind : r.find? g.dir with _ | i
    · rcases hback : (backend r.registrations.length g.dir s).2 with f | ⟨⟩
      · simp only [attempt_refused hon hfind hback, List.prefix_rfl]
      · rw [attempt_granted hon hfind hback]
        exact List.prefix_append _ _
    · simp only [attempt_known hon hfind, List.prefix_rfl]

theorem register_all_prefix (r : WatchRegistry) (backend : WatchBackend ω) (calls : List Registration) (s : ω) :
    r.registrations <+: (r.registerAll backend s calls).1.registrations := by
  induction calls generalizing r s with
  | nil => exact List.prefix_rfl
  | cons g calls ih => exact (r.attempt_prefix backend g s).trans (ih _ _)

theorem register_all_disabled {r : WatchRegistry} (h : r.enabled = false) (backend : WatchBackend ω)
    (calls : List Registration) (s : ω) :
    r.registerAll backend s calls = (r, s) ∧
      ∀ u ∈ r.history backend s calls, u.asked = [] ∧ u.answer = .ok none := by
  induction calls with
  | nil => simp [registerAll, history]
  | cons g calls ih => simpa [registerAll, history, attempt_disabled h] using ih

theorem accepts_eq_admits {r : WatchRegistry} {g : Registration} {i : WatchId} (h : r.registrations[i]? = some g)
    (place : Path → Option Path) (p : Path) : r.accepts place i p = g.admits place p := by
  rw [accepts, h]
  rfl

/-- After any calls on an enabled registry, it holds of each directory the first call that succeeded, and the index
leads to it. The backend is asked for a directory until it grants the watch, and never again. -/
theorem watches_registered_once (backend : WatchBackend ω) (s : ω) (calls : List Registration) :
    let r := (new.registerAll backend s calls).1
    let s' := (new.registerAll backend s calls).2
    let log := new.history backend s calls
    (r.registrations = Registration.firsts (WatchStep.granted log) ∧
      r.registrations.Pairwise fun g h => ¬g.dir.Same h.dir) ∧
    (∀ d i, r.find? d = some i ↔ ∃ g, r.registrations[i]? = some g ∧ g.dir.Same d) ∧
    (∀ u ∈ log, u.Refused ∨ ∃ i, u.answer = .ok (some i) ∧ r.find? u.call.dir = some i) ∧
    (∀ g : Registration,
      let next := r.attempt backend g s'
      let id := r.registrations.length
      r.register backend g.dir g.filter s' = (next.1, next.2.1, next.2.2.answer) ∧
        (∀ u ∈ log, ∀ i, u.call.dir.Same g.dir → u.answer = .ok (some i) →
          next = (r, s', ⟨g, [], .ok (some i)⟩)) ∧
        ((∀ u ∈ log, u.call.dir.Same g.dir → u.Refused) →
          next.2.2.asked = [(id, g.dir)] ∧
            (∀ f, (backend id g.dir s').2 = .error f → next.1 = r ∧ next.2.2.answer = .error f) ∧
            ((backend id g.dir s').2 = .ok () →
              next.1.registrations = r.registrations ++ [g] ∧ next.2.2.answer = .ok (some id)))) ∧
    (∀ i,
      (∀ g, r.registrations[i]? = some g → ∀ more place p,
        (r.registerAll backend s' more).1.accepts place i p = g.admits place p) ∧
      ((∀ u ∈ log, u.answer ≠ .ok (some i)) → ∀ place p, r.accepts place i p = false)) ∧
    ∀ off : WatchRegistry, off.enabled = false →
      off.registerAll backend s calls = (off, s) ∧
        ∀ u ∈ off.history backend s calls, u.asked = [] ∧ u.answer = .ok none := by
  intro r s' log
  have hfollows : r.Follows log := follows_new.register_all backend calls s
  refine ⟨⟨hfollows.registrations, hfollows.indexed.apart⟩, hfollows.indexed, hfollows.answers, ?next, ?accepts,
    fun off hoff => register_all_disabled hoff backend calls s⟩
  case next =>
    intro g next id
    refine ⟨register_eq_attempt r backend g s', fun u hu i hsame hanswer => ?_, fun hrefused => ?_⟩
    · exact hfollows.attempt_granted_before backend s' hu hsame hanswer
    · have hfind := hfollows.find?_refused hrefused
      rcases hback : (backend id g.dir s').2 with f | ⟨⟩
      · rw [show next = _ from attempt_refused hfollows.enabled hfind hback]
        exact ⟨rfl, fun f' hf' => ⟨rfl, Except.error.inj hf' ▸ rfl⟩, fun hok => nomatch hok⟩
      · rw [show next = _ from attempt_granted hfollows.enabled hfind hback]
        exact ⟨rfl, fun f hf => (nomatch hf), fun _ => ⟨rfl, rfl⟩⟩
  case accepts =>
    refine fun i => ⟨fun g hg more place p => accepts_eq_admits ?_ place p, fun hnone place p => ?_⟩
    · obtain ⟨later, hlater⟩ := r.register_all_prefix backend more s'
      rw [← hlater, List.getElem?_append_left (List.getElem?_eq_some_iff.mp hg).1, hg]
    · rcases hi : r.registrations[i]? with _ | g
      · rw [accepts, hi]
      · obtain ⟨u, hu, hanswer⟩ := hfollows.issued hi
        exact absurd hanswer (hnone u hu)

/-- Refuses every directory when it is asked for it the first time. -/
def reluctant : WatchBackend (List Path) := fun _ dir known =>
  if known.any (·.Same dir) then (known, .ok ()) else (dir :: known, .error ⟨"busy", []⟩)

theorem watches_registered_once_retried :
    let calls : List Registration :=
      [⟨⟨"/p/a"⟩, some (.trailing ".css")⟩, ⟨⟨"/p/b"⟩, none⟩, ⟨⟨"/p/b/"⟩, some (.trailing ".js")⟩,
        ⟨⟨"/p/./b"⟩, none⟩, ⟨⟨"/p//a"⟩, none⟩]
    let r := (new.registerAll reluctant [] calls).1
    let s := (new.registerAll reluctant [] calls).2
    r.registrations.map (·.dir) = [⟨"/p/b/"⟩, ⟨"/p//a"⟩] ∧
      (r.attempt reluctant ⟨⟨"/p/b/."⟩, none⟩ s).2.2.asked = [] ∧
      (r.attempt reluctant ⟨⟨"/p/c"⟩, none⟩ s).2.2.asked = [(2, ⟨"/p/c"⟩)] ∧
      (r.attempt reluctant ⟨⟨"/p/c"⟩, none⟩ s).1 = r := by
  intro calls r s
  obtain ⟨⟨hregistrations, -⟩, -, hanswers, hnext, -, -⟩ := watches_registered_once reluctant [] calls
  obtain ⟨-, hknown, -⟩ := hnext ⟨⟨"/p/b/."⟩, none⟩
  obtain ⟨-, -, hrefused⟩ := hnext ⟨⟨"/p/c"⟩, none⟩
  obtain ⟨hasked, hfailed, -⟩ := hrefused (by decide +kernel)
  have hdirs : (Registration.firsts (WatchStep.granted (new.history reluctant [] calls))).map (·.dir) =
      [⟨"/p/b/"⟩, ⟨"/p//a"⟩] := by decide +kernel
  have hgranted : ∃ u ∈ new.history reluctant [] calls, u.call.dir.Same ⟨"/p/b/."⟩ ∧ ¬u.Refused := by
    decide +kernel
  obtain ⟨u, hu, hsame, hnot⟩ := hgranted
  obtain ⟨i, hanswer, -⟩ := (hanswers u hu).resolve_left hnot
  have hlength : r.registrations.length = 2 := by decide +kernel
  have hunseen : s.any (·.Same ⟨"/p/c"⟩) = false := by decide +kernel
  refine ⟨hregistrations ▸ hdirs, ?_, hlength ▸ hasked, (hfailed ⟨"busy", []⟩ ?_).1⟩
  · rw [hknown u hu i hsame hanswer]
  · exact congrArg Prod.snd (if_neg (Bool.eq_false_iff.mp hunseen))

end WatchRegistry

end BundleWatch
