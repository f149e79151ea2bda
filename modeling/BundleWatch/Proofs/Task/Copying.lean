import BundleWatch.Proofs.Files.Resolution
import BundleWatch.Proofs.Output.Confinement

/-!
# What a copy does

A copy that is refused, or whose source is no file, changes nothing. Any other stores what the source held before,
below the output directory, and makes the directories above it.
-/

set_option autoImplicit false

namespace BundleWatch.Task

variable {settings : Settings} {args : List Arg} {source target : Path} {dest : String}

structure Copied (out : Path) (dest : String) (bytes : Bytes) (m m' : Memory) : Prop where
  written : dest ≠ ""
  inside : ∀ k ∈ (Path.mk dest).components, k = .here ∨ ∃ n, k = .name n
  place : (out.join ⟨dest⟩).components = out.components ++ (Path.mk dest).components.filter (· ≠ .here)
  stored : m'.get? (out.join ⟨dest⟩).components = some (.file bytes)
  solid : ∀ (j : Key) e, j ≠ (out.join ⟨dest⟩).components → (∀ cs, e ≠ .dir cs) → (m'.get? j = some e ↔ m.get? j = some e)
  frame : ∀ j : Key, j ≠ (out.join ⟨dest⟩).components → m'.get? j ≠ m.get? j →
    j.IsAbove (out.join ⟨dest⟩).components ∧ ∃ cs, m'.get? j = some (.dir cs)
  kept : ∀ (j : Key) n, j ≠ (out.join ⟨dest⟩).components → m.Lists j n → m'.Lists j n

theorem names_of_inside {ns : List String} (hstays : ∀ k ∈ (Path.mk dest).components, staysInside k)
    (hbody : Segment.components (Path.mk dest).body = ns.map .name) :
    (Path.mk dest).components.filter (· ≠ .here) = ns.map .name := by
  have hnames : (ns.map Component.name).filter (· ≠ .here) = ns.map .name :=
    List.filter_eq_self.mpr (by simp)
  rw [Path.components, hbody] at hstays ⊢
  rw [List.filter_append, hnames]
  cases hanchor : (Path.mk dest).anchor with
  | here | bare => rfl
  | root =>
    rw [hanchor] at hstays
    exact absurd (hstays .root List.mem_cons_self) (by decide)

theorem copied {out : Path} (hout : out.text ≠ "") (hdest : destination out dest = .ok target) (m : Memory)
    (bytes : Bytes) : Copied out dest bytes m (m.addFile target bytes) := by
  obtain ⟨hstays, hwritten, rfl⟩ := destination_ok.mp hdest
  have hstored := m.add_file_stored (out.join ⟨dest⟩) bytes
  constructor
  case written => exact hwritten
  case inside =>
    intro k hk
    cases k with
    | here => exact .inl rfl
    | name n => exact .inr ⟨n, rfl⟩
    | root | up => exact absurd (hstays _ hk) (by decide)
  case place =>
    obtain ⟨ns, -, hbody, hcomponents⟩ := Path.join_inside hout hstays
    rw [hcomponents, names_of_inside hstays hbody]
  case stored =>
    exact (hstored.solid _ _ fun _ => Entry.noConfusion).mpr (by rw [if_pos rfl])
  case solid =>
    intro j e hj he
    rw [hstored.solid j e he, if_neg hj]
  case frame =>
    intro j hj hchanged
    exact (m.add_file_frame _ bytes hj).resolve_left hchanged
  case kept => exact hstored.kept

structure CopyEffect (out : Path) (args : List Arg) (m m' : Memory) (done : Except Failure Unit) : Prop where
  refused : (∃ f, done = .error f) ↔ CopyRefused args
  unchanged : ∀ f, done = .error f → m' = m
  gone : ∀ source, args[0]? = some (.text source) → m.isFile ⟨source⟩ = false → m' = m
  copied : ∀ source dest, args[0]? = some (.text source) → args[1]? = some (.text dest) → done = .ok () →
    m.isFile ⟨source⟩ = true → ∃ bytes, FileSystem.readBytes m ⟨source⟩ = .ok bytes ∧ Copied out dest bytes m m'

variable {w : World Memory}

theorem copy_refused {e : ArgumentError} (h : copyArgs settings args = .error e) :
    copy settings args w = .finish w (.error e.failure) := by
  rw [copy, h]

theorem copy_gone (h : copyArgs settings args = .ok (source, target)) (hgone : w.files.isFile source = false) :
    copy settings args w = .finish w (.ok ()) := by
  have hskip : FileSystem.isFile w.files source = false := hgone
  simp only [copy, h, hskip]
  rfl

theorem copy_stores {bytes : Bytes} (h : copyArgs settings args = .ok (source, target))
    (hread : w.files.contents source = .ok bytes) :
    copy settings args w = .finish { w with files := w.files.addFile target bytes } (.ok ()) := by
  have hfile : FileSystem.isFile w.files source = true := Memory.is_file_iff_contents.mpr ⟨bytes, hread⟩
  have hcopy : FileSystem.copy w.files source target = (w.files.addFile target bytes, .ok bytes.length) := by
    change Memory.copy w.files source target = _
    rw [Memory.copy, hread]
  simp only [copy, h, hfile, hcopy]
  rfl

/-- A copy changes the files only if it is not refused and its source is a file, and then it succeeds. -/
theorem copy_effect (settings : Settings) (args : List Arg) (w : World Memory) (hout : settings.outputDir.text ≠ "") :
    ∃ files done, (∀ q, (copy settings args w).run q = (q, { w with files := files }, done)) ∧
      CopyEffect settings.outputDir args w.files files done := by
  have hrefused : (∃ e, copyArgs settings args = .error e) ↔ CopyRefused args := copy_args_refused
  rcases hargs : copyArgs settings args with e | ⟨source, target⟩
  · refine ⟨w.files, .error e.failure, fun q => by rw [copy_refused hargs]; rfl, ?_⟩
    constructor
    case refused => exact iff_of_true ⟨_, rfl⟩ (hrefused.mp ⟨e, hargs⟩)
    case unchanged => exact fun _ _ => rfl
    case gone => exact fun _ _ _ => rfl
    case copied => exact fun _ _ _ _ hdone => nomatch hdone
  have haccepted : ¬ CopyRefused args := by
    rw [← hrefused, hargs]
    exact fun ⟨_, h⟩ => nomatch h
  obtain ⟨hsource, dest, hdest, hplace⟩ := copy_args_ok.mp hargs
  rcases hfile : w.files.isFile source with _ | _
  · refine ⟨w.files, .ok (), fun q => by rw [copy_gone hargs hfile]; rfl, ?_⟩
    constructor
    case refused => exact iff_of_false (fun ⟨_, h⟩ => nomatch h) haccepted
    case unchanged => exact fun _ _ => rfl
    case gone => exact fun _ _ _ => rfl
    case copied =>
      intro s d hs _ _ hthere
      obtain rfl := Arg.text.inj (Option.some.inj (hsource.symm.trans hs))
      exact absurd (hfile.symm.trans hthere) (by decide)
  · obtain ⟨bytes, hread⟩ := Memory.is_file_iff_contents.mp hfile
    refine ⟨w.files.addFile target bytes, .ok (), fun q => by rw [copy_stores hargs hread]; rfl, ?_⟩
    constructor
    case refused => exact iff_of_false (fun ⟨_, h⟩ => nomatch h) haccepted
    case unchanged => exact fun _ h => nomatch h
    case gone =>
      intro s hs hgone
      obtain rfl := Arg.text.inj (Option.some.inj (hsource.symm.trans hs))
      exact absurd (hfile.symm.trans hgone) (by decide)
    case copied =>
      intro s d hs hd _ _
      obtain rfl := Arg.text.inj (Option.some.inj (hsource.symm.trans hs))
      obtain rfl := Arg.text.inj (Option.some.inj (hdest.symm.trans hd))
      exact ⟨bytes, (Memory.read_bytes_eq _ _).trans hread, copied hout hplace w.files bytes⟩

def linkedSheet : World Memory where
  files := (Memory.new.addFile ⟨"/p/src/a.css"⟩ (.ofText "a")).addLink ⟨"/p/link"⟩ ⟨"/p/src"⟩

/-- The directories of the copy and the one in which a relative output directory lies are made. -/
theorem copy_effect_linked_sheet :
    let settings : Settings := { root := ⟨"/p"⟩, outputDir := ⟨"build"⟩ }
    let args := [Arg.text "/p/link/a.css", .text "./css//a.css"]
    let after := ((copy settings args linkedSheet).run .empty).2.1.files
    (∃ files done, (∀ q, (copy settings args linkedSheet).run q = (q, { linkedSheet with files := files }, done)) ∧
      CopyEffect ⟨"build"⟩ args linkedSheet.files files done) ∧
      after.get? [.name "build", .name "css", .name "a.css"] = some (.file (.ofText "a")) ∧
      after.get? [.name "build", .name "css"] = some (.dir ["a.css"]) ∧
      after.get? Key.here = some (.dir ["build"]) :=
  ⟨copy_effect _ _ linkedSheet (by decide), by decide +kernel⟩

end BundleWatch.Task
