import BundleWatch.Proofs.Files.Resolution
import Mathlib.Data.List.Dedup

/-!
# What a memory holds

The keys under which something is stored, each of them once, and the files below one of them by the names that lead
to them.
-/

set_option autoImplicit false

namespace BundleWatch

namespace Key

def names? : Key → Option (List String)
  | [] => some []
  | .name n :: k => (names? k).map (n :: ·)
  | _ :: _ => none

theorem names?_eq_some (k : Key) (ns : List String) : k.names? = some ns ↔ k = ns.map .name := by
  induction k generalizing ns with
  | nil => cases ns <;> simp [names?]
  | cons c k ih =>
    cases c with
    | name n => cases ns <;> simp [names?, ih, and_comm]
    | root | here | up => cases ns <;> simp [names?]

def namesBelow? (base k : Key) : Option (List String) := if base <+: k then names? (k.drop base.length) else none

theorem names_below?_eq_some (base k : Key) (ns : List String) :
    base.namesBelow? k = some ns ↔ k = base ++ ns.map .name := by
  unfold namesBelow?
  constructor
  · intro h
    split at h
    · next hbelow =>
      obtain ⟨r, rfl⟩ := hbelow
      rw [List.drop_left] at h
      rw [(names?_eq_some r ns).mp h]
    · cases h
  · rintro rfl
    rw [if_pos (List.prefix_append _ _), List.drop_left]
    exact (names?_eq_some _ ns).mpr rfl

end Key

namespace Memory

variable {m : Memory} {base : Key} {ns : List String}

def keys (m : Memory) : List Key := (m.entries.map (·.1)).dedup

theorem mem_keys {k : Key} : k ∈ m.keys ↔ ∃ e, m.get? k = some e := by
  unfold keys get?
  rw [List.mem_dedup]
  induction m.entries with
  | nil => simp
  | cons x entries ih =>
    obtain ⟨j, e⟩ := x
    by_cases hk : k = j
    · simp [hk]
    · have hne : (k == j) = false := by simpa using hk
      simp [List.lookup_cons, hne, hk, ih]

theorem keys_nodup (m : Memory) : m.keys.Nodup := List.nodup_dedup _

def isFileAt (m : Memory) (k : Key) : Bool :=
  match m.get? k with
  | some (.file _) => true
  | _ => false

theorem is_file_at_iff {k : Key} : m.isFileAt k = true ↔ ∃ bytes, m.get? k = some (.file bytes) := by
  unfold isFileAt
  rcases m.get? k with _ | bytes | cs | target <;> simp

def filesBelow (m : Memory) (base : Key) : List (List String) :=
  (m.keys.filter fun k => m.isFileAt k && k ≠ base).filterMap base.namesBelow?

theorem mem_files_below :
    ns ∈ m.filesBelow base ↔ ns ≠ [] ∧ ∃ bytes, m.get? (base ++ ns.map .name) = some (.file bytes) := by
  simp only [filesBelow, List.mem_filterMap, Key.names_below?_eq_some, List.mem_filter, Bool.and_eq_true,
    is_file_at_iff, decide_eq_true_eq]
  constructor
  · rintro ⟨k, ⟨-, hfile, hne⟩, rfl⟩
    refine ⟨?_, hfile⟩
    rintro rfl
    exact hne (by simp)
  · rintro ⟨hne, bytes, hfile⟩
    refine ⟨_, ⟨mem_keys.mpr ⟨_, hfile⟩, ⟨bytes, hfile⟩, ?_⟩, rfl⟩
    simpa using hne

theorem files_below_nodup (m : Memory) (base : Key) : (m.filesBelow base).Nodup := by
  refine List.Nodup.filterMap ?_ ((keys_nodup m).filter _)
  intro k k' ns hk hk'
  rw [Option.mem_def, Key.names_below?_eq_some] at hk hk'
  exact hk.trans hk'.symm

end Memory

end BundleWatch
