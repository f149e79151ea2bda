import BundleWatch.Proofs.Files.Contents
import BundleWatch.Proofs.Watch.Walk

/-!
# Walks end

The loop of a walk is taken here without any bound on its turns. A turn takes a directory from the stack and passes
over it or reads it. What is read is stored under a key that was not met before, so the loop ends, however links
lead, and reads no more directories than there are keys. The bounded walk does what this loop does.
-/

set_option autoImplicit false

namespace BundleWatch

open FileSystem

structure WalkLoop where
  seen : List Path
  stack : List Path
  files : List Path

def WalkLoop.start (base : Path) : WalkLoop := ⟨[], [base], []⟩

section Loop

variable {σ : Type} [FileSystem σ]

inductive WalkTurn (s : σ) (base : Path) (filter : Option Pattern) : WalkLoop → List Path → WalkLoop → Prop
  | pass {seen stack files : List Path} {dir : Path} :
      (seen.any fun p => p.Same (identity s dir)) = true →
      WalkTurn s base filter ⟨seen, dir :: stack, files⟩ [] ⟨seen, stack, files⟩
  | read {seen stack files entries : List Path} {dir : Path} :
      ¬(seen.any fun p => p.Same (identity s dir)) = true → readDir s dir = .ok entries →
      WalkTurn s base filter ⟨seen, dir :: stack, files⟩ [dir]
        ⟨identity s dir :: seen, (entries.filter (isDir s)).reverse ++ stack,
          files ++ filesAmong s base filter entries⟩

/-- Turns one after the other, with the directories that they read, in order. -/
inductive WalkTurns (s : σ) (base : Path) (filter : Option Pattern) : WalkLoop → List Path → WalkLoop → Prop
  | nil (l : WalkLoop) : WalkTurns s base filter l [] l
  | cons {l l' l'' : WalkLoop} {dirs dirs' : List Path} : WalkTurn s base filter l dirs l' →
      WalkTurns s base filter l' dirs' l'' → WalkTurns s base filter l (dirs ++ dirs') l''

/-- The loop is over: nothing is left on the stack, or what is on top cannot be read. -/
inductive WalkHalts (s : σ) : WalkLoop → Except Failure (List Path) → Prop
  | done {seen files : List Path} : WalkHalts s ⟨seen, [], files⟩ (.ok files)
  | failed {seen stack files : List Path} {dir : Path} {f : Failure} :
      ¬(seen.any fun p => p.Same (identity s dir)) = true → readDir s dir = .error f →
      WalkHalts s ⟨seen, dir :: stack, files⟩ (.error f)

/-- A loop that read the directories in `done`, the last one first. -/
structure WalkLoop.After (s : σ) (base : Path) (filter : Option Pattern) (l : WalkLoop) (done : List Path) :
    Prop where
  seen : l.seen = done.map (identity s)
  walked : Walked s base filter done l.stack l.files

variable {s : σ} {base : Path} {filter : Option Pattern} {l l' : WalkLoop} {done dirs : List Path}

theorem start_after (s : σ) (base : Path) (filter : Option Pattern) :
    (WalkLoop.start base).After s base filter [] :=
  ⟨rfl, walked_begin s base filter⟩

theorem WalkTurn.after (h : WalkTurn s base filter l dirs l') (hl : l.After s base filter done) :
    l'.After s base filter (dirs.reverse ++ done) := by
  obtain ⟨hseen, hwalked⟩ := hl
  cases h with
  | pass hany =>
    obtain rfl := hseen
    exact ⟨rfl, hwalked.pass (seen_known.mp hany)⟩
  | read hany hread =>
    obtain rfl := hseen
    exact ⟨rfl, hwalked.enter (fun hknown => hany (seen_known.mpr hknown)) hread⟩

theorem WalkTurns.after (h : WalkTurns s base filter l dirs l') (hl : l.After s base filter done) :
    l'.After s base filter (dirs.reverse ++ done) := by
  induction h generalizing done with
  | nil l => exact hl
  | cons hturn _ ih => simpa using ih (hturn.after hl)

theorem WalkLoop.After.read_le [CountsDirectories σ] (h : l.After s base filter done) : done.length ≤ entryCount s :=
  CountsDirectories.length_le s done (fun d hd => (h.walked.read d hd).imp fun _ hread => hread.1) h.walked.apart

/-- No loop takes turns for ever: it reads a new directory, or the stack gets shorter. -/
theorem WalkLoop.After.accessible [CountsDirectories σ] (h : l.After s base filter done) :
    Acc (fun l' l => ∃ dirs, WalkTurn s base filter l dirs l') l := by
  induction hleft : entryCount s - done.length using Nat.strong_induction_on generalizing l done with
  | _ left ih =>
    obtain ⟨seen, stack, files⟩ := l
    induction stack with
    | nil =>
      constructor
      rintro l' ⟨dirs, hturn⟩
      cases hturn
    | cons dir stack ihstack =>
      constructor
      rintro l' ⟨dirs, hturn⟩
      have hafter := hturn.after h
      cases hturn with
      | pass _ => exact ihstack hafter
      | read _ _ =>
        have hle := hafter.read_le
        simp only [List.reverse_singleton, List.length_append, List.length_singleton] at hle
        exact ih _ (by simp only [List.reverse_singleton, List.length_append, List.length_singleton]; omega) hafter rfl

/-- The bounded walk takes the turns of the loop until it is over. -/
theorem walk_from_turns [CountsDirectories σ] {n : Nat} (h : l.After s base filter done)
    (hn : n + done.length = entryCount s + 1) :
    ∃ dirs l', WalkTurns s base filter l dirs l' ∧
      WalkHalts s l' (walkFrom s base filter n l.seen l.stack l.files) := by
  obtain ⟨seen, stack, files⟩ := l
  fun_induction walkFrom s base filter n seen stack files generalizing done
  case case1 n seen files => exact ⟨[], _, .nil _, .done⟩
  case case2 n seen dir stack files id hany ih =>
    have hturn : WalkTurn s base filter ⟨seen, dir :: stack, files⟩ [] ⟨seen, stack, files⟩ := .pass hany
    obtain ⟨dirs, l', hturns, hhalts⟩ := ih hn (hturn.after h)
    exact ⟨_, l', .cons hturn hturns, hhalts⟩
  case case3 seen files dir stack id hany =>
    -- the bound leaves one turn more than there are directories
    have hle := h.read_le
    omega
  case case4 seen dir stack files id hany n ih =>
    rcases hread : readDir s dir with f | entries
    · exact ⟨[], _, .nil _, .failed hany hread⟩
    · have hturn : WalkTurn s base filter ⟨seen, dir :: stack, files⟩ [dir] _ := .read hany hread
      have hnext : n + ([dir].reverse ++ done).length = entryCount s + 1 := by
        simp only [List.reverse_singleton, List.length_append, List.length_singleton]
        omega
      obtain ⟨dirs, l', hturns, hhalts⟩ := ih entries hnext (hturn.after h)
      exact ⟨_, l', .cons hturn hturns, hhalts⟩

end Loop

namespace Memory

variable {m : Memory} {base p : Path} {filter : Option Pattern} {l : WalkLoop} {done : List Path}

theorem read_le_keys (h : l.After m base filter done) : done.length ≤ m.keys.length := by
  have hreads : ∀ d ∈ done, ∃ entries, m.readDir d = .ok entries :=
    fun d hd => (h.walked.read d hd).imp fun _ hread => hread.1
  refine length_le_of_stored (fun d => (m.resolve d).components) (fun d hd => ?_) ?_
  · obtain ⟨entries, hread⟩ := hreads d hd
    exact List.mem_dedup.mpr (identity_eq hread).1
  · refine h.walked.apart.imp_of_mem fun {d d'} hd hd' hne heq => hne ?_
    obtain ⟨entries, hread⟩ := hreads d hd
    obtain ⟨entries', hread'⟩ := hreads d' hd'
    rw [(identity_eq hread).2, (identity_eq hread').2]
    exact heq

/-- Every walk ends, whatever is stored and wherever links lead. It reads no more directories than there are keys. A
walk from a directory ends with its files, and any other walk with its first attempt to read. -/
theorem walk_terminates (m : Memory) (base : Path) (filter : Option Pattern) :
    Acc (fun l' l => ∃ dirs, WalkTurn m base filter l dirs l') (.start base) ∧
      (∀ dirs l, WalkTurns m base filter (.start base) dirs l → dirs.length ≤ m.keys.length) ∧
      (m.isDir base = true → ∃ dirs l, WalkTurns m base filter (.start base) dirs l ∧ l.stack = [] ∧
        walkFiles m base filter = .ok (Path.sort l.files)) ∧
      (m.isDir base = false → (∀ dirs l, ¬WalkTurn m base filter (.start base) dirs l) ∧
        ∃ f, m.readDir base = .error f ∧ walkFiles m base filter = .error f) := by
  have hstart := start_after m base filter
  obtain ⟨dirs, l, hturns, hhalts⟩ := walk_from_turns (n := entryCount m + 1) hstart rfl
  have hentered := (hturns.after hstart).walked.entered
  change WalkHalts m l (walkFrom m base filter (entryCount m + 1) [] [base] []) at hhalts
  generalize hr : walkFrom m base filter (entryCount m + 1) [] [base] [] = r at hhalts
  have hwalk : walkFiles m base filter = r.map Path.sort := congrArg (Except.map Path.sort) hr
  refine ⟨hstart.accessible, fun dirs l hturns => ?_, fun hdir => ?_, fun hdir => ?_⟩
  · simpa using read_le_keys (hturns.after hstart)
  · refine ⟨dirs, l, hturns, ?_⟩
    cases hhalts with
    | done => exact ⟨rfl, hwalk⟩
    | @failed seen stack files dir f _ hread =>
      -- what a walk enters can be read
      have hreads : m.isDir dir = true := by
        rcases hentered dir (by simp) with _ | ⟨_, _, _, hisDir⟩
        · exact hdir
        · exact hisDir
      obtain ⟨entries, hok⟩ := is_dir_reads.mp hreads
      cases hread.symm.trans hok
  · have hnot : ∀ entries, m.readDir base ≠ .ok entries := by
      intro entries hread
      rw [is_dir_reads.mpr ⟨entries, hread⟩] at hdir
      cases hdir
    have hnone : ∀ dirs l, ¬WalkTurn m base filter (.start base) dirs l := by
      intro dirs l hturn
      cases hturn with
      | pass hany => cases hany
      | read _ hread => exact hnot _ hread
    refine ⟨hnone, ?_⟩
    cases hturns with
    | nil =>
      cases hhalts with
      | @failed _ _ _ _ f _ hread => exact ⟨f, hread, hwalk⟩
    | cons hturn _ => exact absurd hturn (hnone _ _)

end Memory

end BundleWatch
