import BundleWatch.Proofs.Files.Hops
import BundleWatch.Proofs.Output.Listing

/-!
# Listings end

The loop of a listing is taken here without any bound on its turns. A turn reads the directory on top of the stack and
puts the directories that it lists in its place. The loop does not know what it read before, but a directory that it
reads has a path of bounded length, and the paths of its children are longer. The bounded listing finds what this loop
finds.
-/

set_option autoImplicit false

namespace BundleWatch

open FileSystem

structure ListingLoop where
  stack : List Path
  found : List String

def ListingLoop.start (out : Path) : ListingLoop := ⟨[out], []⟩

section Loop

variable {σ : Type} [FileSystem σ]

def dirsAmong (s : σ) (entries : List Path) : List Path := (entries.filter fun p => !isLink s p).filter (isDir s)

def namesAmong (s : σ) (out : Path) (entries : List Path) : List String :=
  ((entries.filter fun p => !isLink s p).filter fun p => !isDir s p && isFile s p).filterMap (relative? s out)

inductive ListingTurn (s : σ) (out : Path) : ListingLoop → Path → ListingLoop → Prop
  | read {dir : Path} {stack entries : List Path} {found : List String} : readDir s dir = .ok entries →
      ListingTurn s out ⟨dir :: stack, found⟩ dir ⟨(dirsAmong s entries).reverse ++ stack, found ++ namesAmong s out entries⟩

/-- Turns one after the other, with the directories that they read, in order. -/
inductive ListingTurns (s : σ) (out : Path) : ListingLoop → List Path → ListingLoop → Prop
  | nil (l : ListingLoop) : ListingTurns s out l [] l
  | cons {l l' l'' : ListingLoop} {dir : Path} {dirs : List Path} : ListingTurn s out l dir l' →
      ListingTurns s out l' dirs l'' → ListingTurns s out l (dir :: dirs) l''

variable {s : σ} {out dir dir' : Path} {l l' l'' : ListingLoop} {dirs dirs' : List Path}

theorem ListingTurn.unique (h : ListingTurn s out l dir l') (h' : ListingTurn s out l dir' l'') : l' = l'' := by
  cases h with
  | read hread =>
    cases h' with
    | read hread' =>
      obtain rfl := Except.ok.inj (hread.symm.trans hread')
      rfl

theorem ListingTurns.append (h : ListingTurns s out l dirs l') (h' : ListingTurns s out l' dirs' l'') :
    ListingTurns s out l (dirs ++ dirs') l'' := by
  induction h with
  | nil l => exact h'
  | cons hturn _ ih => exact .cons hturn (ih h')

/-- A loop that comes to an end takes no other turns. -/
theorem ListingTurns.accessible (h : ListingTurns s out l dirs l') (hend : l'.stack = []) :
    Acc (fun l' l => ∃ dir, ListingTurn s out l dir l') l := by
  induction h with
  | nil l =>
    constructor
    rintro l' ⟨dir, hturn⟩
    cases hturn
    cases hend
  | cons hturn _ ih =>
    constructor
    rintro l'' ⟨dir', hturn'⟩
    obtain rfl := hturn.unique hturn'
    exact ih hend

/-- Directories that are read one after the other leave what stands below them on the stack. -/
theorem listing_turns_each {n : Nat}
    (hdir : ∀ dir ts, namesBelow s out n dir = .ok ts → ∀ stack found, ∃ dirs found',
      ListingTurns s out ⟨dir :: stack, found⟩ dirs ⟨stack, found'⟩ ∧ found'.Perm (found ++ ts))
    {ds : List Path} {tss : List (List String)} (h : List.Forall₂ (fun dir ts => namesBelow s out n dir = .ok ts) ds tss)
    (stack : List Path) (found : List String) :
    ∃ dirs found', ListingTurns s out ⟨ds.reverse ++ stack, found⟩ dirs ⟨stack, found'⟩ ∧
      found'.Perm (found ++ tss.flatten) := by
  induction h generalizing stack found with
  | nil => exact ⟨[], found, .nil _, by simp⟩
  | @cons dir ts ds tss hfirst _ ih =>
    obtain ⟨dirs, found', hturns, hperm⟩ := ih (dir :: stack) found
    obtain ⟨dirs', found'', hturns', hperm'⟩ := hdir dir ts hfirst stack found'
    refine ⟨dirs ++ dirs', found'', ?_, hperm'.trans ?_⟩
    · rw [List.reverse_cons, List.append_assoc]
      exact hturns.append hturns'
    · -- the last directory on the stack is read first
      refine (hperm.append_right ts).trans ?_
      rw [List.append_assoc, List.flatten_cons]
      exact List.perm_append_comm.append_left found

/-- If the bounded listing finds the names below a directory, the loop takes the directory from the stack and finds
them too. -/
theorem names_below_turns {n : Nat} {dir : Path} {ts : List String} (h : namesBelow s out n dir = .ok ts)
    (stack : List Path) (found : List String) :
    ∃ dirs found', ListingTurns s out ⟨dir :: stack, found⟩ dirs ⟨stack, found'⟩ ∧ found'.Perm (found ++ ts) := by
  induction n generalizing dir ts stack found with
  | zero => cases h
  | succ n ih =>
    rw [namesBelow] at h
    obtain ⟨entries, hread, h⟩ := bind_eq_ok.mp h
    obtain ⟨tss, hinner, h⟩ := bind_eq_ok.mp h
    obtain rfl := Except.ok.inj h
    obtain ⟨dirs, found', hturns, hperm⟩ := listing_turns_each (fun dir ts h => ih h) (map_m_ok.mp hinner) stack
      (found ++ namesAmong s out entries)
    refine ⟨dir :: dirs, found', .cons (.read hread) hturns, ?_⟩
    rwa [List.append_assoc] at hperm

/-- What holds of every directory on the stack and of what it lists holds of all that is read. -/
theorem ListingTurns.forall {P : Path → Prop} (h : ListingTurns s out l dirs l') (hl : ∀ d ∈ l.stack, P d)
    (hnew : ∀ d, isDir s d = true → P d) : ∀ d ∈ dirs, P d := by
  induction h with
  | nil l => simp
  | cons hturn _ ih =>
    cases hturn with
    | @read dir stack entries found hread =>
      obtain ⟨hdir, hstack⟩ := List.forall_mem_cons.mp hl
      refine List.forall_mem_cons.mpr ⟨hdir, ih fun d hd => ?_⟩
      rcases List.mem_append.mp hd with hd | hd
      · exact hnew d (List.mem_filter.mp (List.mem_reverse.mp hd)).2
      · exact hstack d hd

end Loop

namespace Memory

variable {m : Memory} {out d : Path}

/-- The bound is never reached: the paths of children are longer, and no path to a directory is too long. -/
theorem names_below_succeeds (hm : m.Named) (n : Nat) (hdir : m.isDir d = true)
    (hn : (maxLinkHops + 1) * m.longestKey < n + d.components.length) : ∃ ts, namesBelow m out n d = .ok ts := by
  obtain ⟨cs, hcs⟩ := is_dir_iff_lookup.mp hdir
  induction n generalizing d cs with
  | zero =>
    have hle := lookup?_length hcs
    omega
  | succ n ih =>
    have hread : FileSystem.readDir m d = .ok (cs.map fun c => d.join ⟨c⟩) := read_dir_lookup hcs
    have hinner : ∃ tss, (dirsAmong m (cs.map fun c => d.join ⟨c⟩)).mapM (namesBelow m out n) = .ok tss := by
      refine map_m_succeeds.mpr fun p hp => ?_
      obtain ⟨hin, hisDir⟩ := List.mem_filter.mp hp
      obtain ⟨c, hc, rfl⟩ := List.mem_map.mp (List.mem_filter.mp hin).1
      obtain ⟨ds, hds⟩ := is_dir_iff_lookup.mp hisDir
      refine ih hisDir ?_ ds hds
      rw [Path.components_join_name (hm _ c ⟨cs, hcs, hc⟩), List.length_append, List.length_singleton]
      omega
    obtain ⟨tss, htss⟩ := hinner
    exact ⟨_, by rw [namesBelow]; exact bind_eq_ok.mpr ⟨_, hread, bind_eq_ok.mpr ⟨tss, htss, rfl⟩⟩⟩

end Memory

/-- Every listing ends, whatever was done to the memory and wherever links lead. All directories that it reads have
paths of bounded length. It finds the artifacts, and without a directory to begin with there are none. -/
theorem listing_terminates {m : Memory} (hm : m.Built) (out : Path) :
    (isDir m out = true →
      Acc (fun l' l => ∃ dir, ListingTurn m out l dir l') (.start out) ∧
      (∀ dirs l, ListingTurns m out (.start out) dirs l →
        ∀ d ∈ dirs, d.components.length ≤ (maxLinkHops + 1) * m.longestKey) ∧
      ∃ dirs l, ListingTurns m out (.start out) dirs l ∧ l.stack = [] ∧
        artifacts m out = .ok (sortedTexts l.found)) ∧
    (isDir m out = false → artifacts m out = .ok []) := by
  refine ⟨fun hdir => ?_, fun hnone => by rw [artifacts, hnone]; rfl⟩
  have hbound : (maxLinkHops + 1) * m.longestKey < depthBound m + 1 + out.components.length := by
    change _ < (maxLinkHops + 1) * m.longestKey + 1 + 1 + _
    omega
  obtain ⟨ts, hts⟩ : ∃ ts, namesBelow m out (depthBound m + 1) out = .ok ts :=
    Memory.names_below_succeeds hm.named _ hdir hbound
  obtain ⟨dirs, found, hturns, hperm⟩ := names_below_turns hts [] []
  refine ⟨hturns.accessible rfl, fun dirs l hturns => ?_, dirs, _, hturns, rfl, ?_⟩
  · refine hturns.forall (List.forall_mem_singleton.mpr ?_) fun d hd => ?_
    · obtain ⟨cs, hcs⟩ := Memory.is_dir_iff_lookup.mp hdir
      exact Memory.lookup?_length hcs
    · obtain ⟨cs, hcs⟩ := Memory.is_dir_iff_lookup.mp hd
      exact Memory.lookup?_length hcs
  · have hsame : sortedTexts ts = sortedTexts found := by
      refine (sorted_texts_tidy ts).ext (sorted_texts_tidy found) fun t => ?_
      rw [mem_sorted_texts, mem_sorted_texts]
      exact (hperm.mem_iff.trans (by simp)).symm
    rw [artifacts, if_pos hdir, hts, ← hsame]
    rfl

/-- A link that leads further with every step, with a file beneath it, and a link that leads back. -/
def spiral : Memory :=
  (((Memory.new.place (.link ⟨"/p/a"⟩ ⟨"/p/a/b"⟩)).place (.file ⟨"/p/a/b/x.txt"⟩ [])).place
    (.link ⟨"/p/css/back"⟩ ⟨"/p"⟩)).place (.file ⟨"/p/css/app.css"⟩ [])

theorem listing_terminates_spiral :
    (spiral.Built ∧ isDir spiral (⟨"/p"⟩ : Path) = true) ∧
      Acc (fun l' l => ∃ dir, ListingTurn spiral ⟨"/p"⟩ l dir l') (.start ⟨"/p"⟩) ∧
      ∃ dirs l, ListingTurns spiral ⟨"/p"⟩ (.start ⟨"/p"⟩) dirs l ∧ l.stack = [] ∧
        sortedTexts l.found = ["css/app.css"] := by
  have hbuilt : spiral.Built := .place _ (.place _ (.place _ (.place _ .new)))
  have hdir : isDir spiral (⟨"/p"⟩ : Path) = true := by decide +kernel
  have hlisted : artifacts spiral ⟨"/p"⟩ = .ok ["css/app.css"] := by decide +kernel
  obtain ⟨hends, -, dirs, l, hturns, hstack, hfound⟩ := (listing_terminates hbuilt ⟨"/p"⟩).1 hdir
  exact ⟨⟨hbuilt, hdir⟩, hends, dirs, l, hturns, hstack, (Except.ok.inj (hlisted.symm.trans hfound)).symm⟩

end BundleWatch
