import BundleWatch.Proofs.Files.Resolution

/-!
# Reading what was written

A file is stored under the path as it is written, but reading follows the links on the path. So what was written can
be read back if no link stands above it, and below a link only if the link leads back.
-/

set_option autoImplicit false

namespace BundleWatch.Memory

variable {m : Memory} {p : Path} {bytes : Bytes}

/-- No link stands above a key. Under the key itself there may be one. -/
def Unlinked (m : Memory) (k : Key) : Prop :=
  ∀ j, OnTheWay j k → j ≠ k → ∀ target, m.get? j ≠ some (.link target)

/-- The new file takes the place of a link that was there, and all other links stay. -/
theorem add_file_link_free : (m.addFile p bytes).LinkFree p.components ↔ m.Unlinked p.components := by
  have hsolid := (m.add_file_stored p bytes).solid
  constructor
  · intro hfree j hj hne target hlink
    refine hfree j hj target ((hsolid j _ fun _ => Entry.noConfusion).mpr ?_)
    rwa [if_neg hne]
  · intro hnone j hj target hlink
    have hold := (hsolid j _ fun _ => Entry.noConfusion).mp hlink
    split at hold
    · cases hold
    · next hne => exact hnone j hj hne target hold

theorem add_file_contents {bs : Bytes} : (m.addFile p bytes).contents p = .ok bs ↔
    if ((m.addFile p bytes).resolve p).Same p then bs = bytes
    else m.get? ((m.addFile p bytes).resolve p).components = some (.file bs) := by
  have hsolid := (m.add_file_stored p bytes).solid ((m.addFile p bytes).resolve p).components (.file bs)
    fun _ => Entry.noConfusion
  rw [contents_lookup, lookup?, hsolid, Entry.file.injEq]
  rfl

structure ReadBack (m : Memory) (p : Path) (bytes : Bytes) (after : Memory) : Prop where
  exactly : (FileSystem.isFile after p = true ∧ FileSystem.readBytes after p = .ok bytes) ↔
    (after.resolve p).Same p ∨ m.get? (after.resolve p).components = some (.file bytes)
  unlinked : m.Unlinked p.components → FileSystem.isFile after p = true ∧ FileSystem.readBytes after p = .ok bytes
  /-- Below a link that leads anywhere is read what was there before. -/
  linked : ¬ m.Unlinked p.components → after.LinkFree (after.resolve p).components →
    ∀ bs, FileSystem.readBytes after p = .ok bs ↔ m.get? (after.resolve p).components = some (.file bs)

theorem read_back (m : Memory) (p : Path) (bytes : Bytes) : ReadBack m p bytes (m.addFile p bytes) := by
  have hread : ∀ {m : Memory} {p : Path} {bs : Bytes}, m.contents p = .ok bs ↔
      FileSystem.isFile m p = true ∧ FileSystem.readBytes m p = .ok bs := by
    intro m p bs
    rw [read_bytes_eq]
    exact ⟨fun h => ⟨is_file_iff_contents.mpr ⟨bs, h⟩, h⟩, And.right⟩
  constructor
  case exactly =>
    rw [← hread, add_file_contents]
    split
    · next hsame => exact iff_of_true rfl (.inl hsame)
    · next hother => exact (or_iff_right hother).symm
  case unlinked =>
    intro hnone
    rw [← hread, add_file_contents, resolve_eq (add_file_link_free.mpr hnone)]
    exact (if_pos rfl).mpr rfl
  case linked =>
    intro hlinked hends bs
    have hother : ¬ ((m.addFile p bytes).resolve p).Same p := fun hsame =>
      hlinked (add_file_link_free.mp (hsame ▸ hends))
    rw [read_bytes_eq, add_file_contents, if_neg hother]

/-- Writing and copying succeed, and then what is read is told by `ReadBack`. -/
theorem written_read_back (m : Memory) (p : Path) (bytes : Bytes) :
    (∃ after, FileSystem.write m p bytes = (after, .ok ()) ∧ ReadBack m p bytes after) ∧
      ∀ source n, (FileSystem.copy m source p).2 = .ok n → ∃ bs, FileSystem.readBytes m source = .ok bs ∧
        bs.length = n ∧ ReadBack m p bs (FileSystem.copy m source p).1 := by
  refine ⟨⟨m.addFile p bytes, m.write_eq p bytes, read_back m p bytes⟩, fun source n hcopied => ?_⟩
  change (m.copy source p).2 = .ok n at hcopied
  change ∃ bs, _ ∧ _ ∧ ReadBack m p bs (m.copy source p).1
  rcases hread : m.contents source with f | bs
  · rw [copy, hread] at hcopied
    cases hcopied
  · rw [copy, hread] at hcopied
    cases hcopied
    refine ⟨bs, (m.read_bytes_eq source).trans hread, rfl, ?_⟩
    rw [copy, hread]
    exact read_back m p bs

def linkedFile : Memory :=
  ((Memory.new.addFile ⟨"/p/real/a.txt"⟩ (.ofText "a")).addLink ⟨"/p/link"⟩ ⟨"/p/real"⟩).addLink ⟨"/p/alias"⟩
    ⟨"/p/real/a.txt"⟩

/-- A copy takes the place of a link, and its source is read through another one. -/
theorem written_read_back_alias :
    let after := (FileSystem.copy linkedFile ⟨"/p/link/a.txt"⟩ ⟨"/p/alias"⟩).1
    ∃ bs : Bytes, bs.length = 1 ∧ FileSystem.isFile after ⟨"/p/alias"⟩ = true ∧
      FileSystem.readBytes after ⟨"/p/alias"⟩ = .ok bs := by
  intro after
  obtain ⟨bs, -, hlength, hback⟩ :=
    (written_read_back linkedFile ⟨"/p/alias"⟩ []).2 ⟨"/p/link/a.txt"⟩ 1 (by decide +kernel)
  exact ⟨bs, hlength, hback.exactly.mpr (.inl (by decide +kernel))⟩

/-- Below a link to a directory the old contents are read after the new ones were written, and a new file is not
found. -/
theorem written_below_link_lost :
    let known := FileSystem.write linkedFile ⟨"/p/link/a.txt"⟩ (.ofText "x")
    let fresh := FileSystem.write linkedFile ⟨"/p/link/b.txt"⟩ (.ofText "x")
    (known.2 = .ok () ∧ FileSystem.readBytes known.1 ⟨"/p/link/a.txt"⟩ = .ok (.ofText "a")) ∧
      fresh.2 = .ok () ∧ FileSystem.isFile fresh.1 ⟨"/p/link/b.txt"⟩ = false := by
  decide +kernel

end BundleWatch.Memory
