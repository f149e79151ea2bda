import BundleWatch.Proofs.Files.Contents
import BundleWatch.Proofs.Output.Exact
import BundleWatch.Proofs.Output.Settling

/-!
# What the manifest covers

The listing names files by texts, and the manifest reads the files back by these texts. Where the text leads to the
file again, the manifest has one entry for each file below the output directory, with the version of its contents.
A backslash in a name does not survive the way through the text.
-/

set_option autoImplicit false

namespace BundleWatch

open FileSystem

def listedName (ns : List String) : String :=
  String.ofList ((Path.ofNames ns).chars.map fun c => if c = '\\' then '/' else c)

theorem relative_text?_listed_name {ns : List String} (hns : ∀ n ∈ ns, IsName n) (hne : ns ≠ []) :
    (Path.ofNames ns).relativeText? = some (listedName ns) := by
  have htext : (Path.ofNames ns).text ≠ "" := by
    intro hempty
    have hsplit := Path.split_of_names hns hne
    obtain ⟨n, ms, rfl⟩ := List.exists_cons_of_ne_nil hne
    rw [Path.chars_empty.mpr hempty] at hsplit
    exact (hns n (by simp)).ne_special.1 (List.cons.inj hsplit).1.symm
  rw [Path.relativeText?]
  simp only [List.isEmpty_iff, List.map_eq_nil_iff, String.toList_eq_nil_iff, Encoding.lossy_eq_empty]
  exact if_neg htext

theorem listed_name_plain {ns : List String} (hns : ∀ n ∈ ns, IsName n) (hne : ns ≠ [])
    (hplain : ∀ n ∈ ns, '\\' ∉ n.toList) : listedName ns = (Path.ofNames ns).text := by
  have htext := Path.relative_text?_of_names hns hne hplain
  rw [relative_text?_listed_name hns hne] at htext
  exact Option.some.inj htext

theorem of_names_injective {ns ms : List String} (hns : ∀ n ∈ ns, IsName n) (hne : ns ≠ [])
    (hms : ∀ n ∈ ms, IsName n) (hme : ms ≠ []) (h : (Path.ofNames ns).text = (Path.ofNames ms).text) : ns = ms := by
  have hpaths : Path.ofNames ns = Path.ofNames ms := congrArg Path.mk h
  have hsplit := Path.split_of_names hns hne
  rw [hpaths, Path.split_of_names hms hme] at hsplit
  exact List.map_injective_iff.mpr (fun _ _ => String.toList_injective) hsplit.symm

theorem lookup_of_mem {α β : Type} [DecidableEq α] {l : List (α × β)} {a : α} {b : β}
    (hkeys : (l.map (·.1)).Nodup) (h : (a, b) ∈ l) : l.lookup a = some b := by
  obtain ⟨before, after, rfl⟩ := List.append_of_mem h
  refine List.lookup_eq_some_iff.mpr ⟨before, after, rfl, fun x hx => ?_⟩
  rw [List.map_append, List.nodup_append] at hkeys
  have hne := hkeys.2.2 x.1 (List.mem_map_of_mem hx) a (by simp)
  simpa using Ne.symm hne

/-! ## The listing -/

variable {m : Memory} {out : Path} {ns : List String}

namespace Memory.Tree

theorem names_below (htree : m.Tree) {base : Key} (h : ns ∈ m.filesBelow base) : ∀ n ∈ ns, IsName n := by
  obtain ⟨-, bytes, hfile⟩ := mem_files_below.mp h
  by_cases hbase : base = []
  · subst hbase
    -- below no key at all stand only keys that start with the root
    obtain ⟨n, ms, rfl⟩ := List.exists_cons_of_ne_nil (mem_files_below.mp h).1
    rcases htree.absolute _ _ hfile with hhere | ⟨hroot, -⟩
    · cases hhere
    · cases hroot
  · exact ((htree.leads_iff hbase).mpr ⟨bytes, hfile⟩).forall fun j n _ => htree.named j n

theorem artifacts_listed (htree : m.Tree) (hlinks : m.NoLinks) (habs : out.isAbsolute = true) :
    ∃ ts, artifacts m out = .ok ts ∧ ts.Nodup ∧
      ∀ t, t ∈ ts ↔ ∃ ns ∈ m.filesBelow out.components, listedName ns = t := by
  obtain ⟨ts, hts, htidy, hmem⟩ := artifacts_leads htree.named (hlinks.link_free out.components)
  refine ⟨ts, hts, htidy.nodup, fun t => (hmem t).trans ?_⟩
  refine exists_congr fun ns => ?_
  rw [mem_files_below, and_assoc, ← htree.leads_iff (Path.is_absolute_ne_nil habs)]
  refine and_congr_right fun hne => and_congr_right fun hleads => ?_
  have hnames : ∀ n ∈ ns, IsName n := hleads.forall fun j n _ => htree.named j n
  rw [relative?, Path.relativeTo?, Path.below?_descend hnames hne]
  exact (relative_text?_listed_name hnames hne).congr_left.trans Option.some_inj

end Memory.Tree

/-! ## The manifest -/

namespace Manifest

/-- The files below an output directory, but the one that goes by the name of the manifest. -/
def otherFiles (m : Memory) (out : Path) (name : String) : List (List String) :=
  (m.filesBelow out.components).filter fun ns => listedName ns ≠ name

theorem entry_ok {t : String} {e : String × String} :
    entry m out t = .ok e ↔ e.1 = t ∧ ∃ bytes, m.lookup? (out.join ⟨t⟩) = some (.file bytes) ∧
      e.2 = (Digest.ofBytes bytes).short versionLength := by
  obtain ⟨name, version⟩ := e
  unfold entry
  rcases hd : fileDigest m (out.join ⟨t⟩) with f | d
  · refine iff_of_false (fun h => by cases h) ?_
    rintro ⟨-, bytes, hbytes, -⟩
    cases hd.symm.trans (file_digest_ok.mpr ⟨bytes, hbytes, rfl⟩)
  · obtain ⟨bytes, hbytes, rfl⟩ := file_digest_ok.mp hd
    simp [bind, Except.bind, pure, Except.pure, hbytes, eq_comm]

theorem entry_exists (t : String) : (∃ e, entry m out t = .ok e) ↔ m.isFile (out.join ⟨t⟩) = true := by
  rw [Memory.is_file_iff_lookup]
  constructor
  · rintro ⟨e, he⟩
    obtain ⟨-, bytes, hbytes, -⟩ := entry_ok.mp he
    exact ⟨bytes, hbytes⟩
  · rintro ⟨bytes, hbytes⟩
    exact ⟨(t, _), entry_ok.mpr ⟨rfl, bytes, hbytes, rfl⟩⟩

theorem entries_named {ts : List String} {es : List (String × String)}
    (h : List.Forall₂ (fun t e => entry m out t = .ok e) ts es) :
    es.map (·.1) = ts ∧ ∀ e ∈ es, entry m out e.1 = .ok e := by
  induction h with
  | nil => simp
  | cons he _ ih =>
    have hname := (entry_ok.mp he).1
    rw [List.map_cons, ih.1, hname, List.forall_mem_cons, hname]
    exact ⟨rfl, he, ih.2⟩

theorem others_listed_once (htree : m.Tree) (hlinks : m.NoLinks) (habs : out.isAbsolute = true) (name : String) :
    ∃ ts, artifacts m out = .ok ts ∧ (ts.filter (· ≠ name)).Nodup ∧
      ∀ t, t ∈ ts.filter (· ≠ name) ↔ ∃ ns ∈ otherFiles m out name, listedName ns = t := by
  obtain ⟨ts, hts, hnodup, hmem⟩ := htree.artifacts_listed hlinks habs
  refine ⟨ts, hts, hnodup.filter _, fun t => ?_⟩
  simp only [otherFiles, List.mem_filter, hmem, decide_eq_true_eq]
  constructor
  · rintro ⟨⟨ns, hns, rfl⟩, hother⟩
    exact ⟨ns, ⟨hns, hother⟩, rfl⟩
  · rintro ⟨ns, ⟨hns, hother⟩, rfl⟩
    exact ⟨⟨ns, hns, rfl⟩, hother⟩

theorem build_succeeds (htree : m.Tree) (hlinks : m.NoLinks) (habs : out.isAbsolute = true) (name : String) :
    (∃ made, build m out name = .ok made) ↔
      ∀ ns ∈ otherFiles m out name, m.isFile (out.join ⟨listedName ns⟩) = true := by
  obtain ⟨ts, hts, -, hmem⟩ := others_listed_once htree hlinks habs name
  simp only [build_ok, hts, Except.ok.injEq, exists_eq_left']
  have hall : (∃ es, (ts.filter (· ≠ name)).mapM (entry m out) = .ok es) ↔
      ∀ t ∈ ts.filter (· ≠ name), m.isFile (out.join ⟨t⟩) = true := by
    simp only [map_m_succeeds, entry_exists]
  constructor
  · rintro ⟨made, hmade⟩ ns hns
    exact hall.mp ⟨_, hmade⟩ _ ((hmem _).mpr ⟨ns, hns, rfl⟩)
  · intro hfiles
    obtain ⟨es, hes⟩ := hall.mpr fun t ht => by
      obtain ⟨ns, hns, rfl⟩ := (hmem t).mp ht
      exact hfiles ns hns
    exact ⟨⟨es⟩, hes⟩

/-! ## Names without backslashes -/

theorem others_read_back (htree : m.Tree) (hlinks : m.NoLinks) {name : String}
    (hplain : ∀ ns ∈ otherFiles m out name, ∀ n ∈ ns, '\\' ∉ n.toList) :
    (∀ ns ∈ otherFiles m out name,
        m.lookup? (out.join ⟨listedName ns⟩) = m.get? (out.components ++ ns.map .name)) ∧
      ((otherFiles m out name).map listedName).Nodup := by
  have hnames : ∀ ns ∈ otherFiles m out name, (∀ n ∈ ns, IsName n) ∧ ns ≠ [] := by
    intro ns hns
    obtain ⟨hin, -⟩ := List.mem_filter.mp hns
    exact ⟨htree.names_below hin, (Memory.mem_files_below.mp hin).1⟩
  have htext : ∀ ns ∈ otherFiles m out name, listedName ns = (Path.ofNames ns).text :=
    fun ns hns => listed_name_plain (hnames ns hns).1 (hnames ns hns).2 (hplain ns hns)
  constructor
  · intro ns hns
    rw [Memory.lookup?_eq (hlinks.link_free _), htext ns hns]
    exact congrArg m.get? (Path.components_join_of_names (hnames ns hns).1 (hnames ns hns).2 out)
  · refine List.Nodup.map_on (fun ns hns ms hms heq => ?_) ((Memory.files_below_nodup _ _).filter _)
    rw [htext ns hns, htext ms hms] at heq
    exact of_names_injective (hnames ns hns).1 (hnames ns hns).2 (hnames ms hms).1 (hnames ms hms).2 heq

/-- The manifest of a tree without links is made if and only if the listed name of every other file leads to a file.
If the names of the other files are free of backslashes, it has one entry for each of them, with the version of its
contents. -/
theorem manifest_covers (htree : m.Tree) (hlinks : m.NoLinks) (habs : out.isAbsolute = true) (name : String) :
    ((∃ made, build m out name = .ok made) ↔
        ∀ ns ∈ otherFiles m out name, m.isFile (out.join ⟨listedName ns⟩) = true) ∧
      ((∀ ns ∈ otherFiles m out name, ∀ n ∈ ns, '\\' ∉ n.toList) →
        ∃ made, build m out name = .ok made ∧ made.files.length = (otherFiles m out name).length ∧
          (made.files.map (·.1)).Nodup ∧ (made.files.map (·.1)).Perm ((otherFiles m out name).map listedName) ∧
          ∀ ns ∈ otherFiles m out name, ∀ bytes, m.get? (out.components ++ ns.map .name) = some (.file bytes) →
            made.files.lookup (listedName ns) = some ((Digest.ofBytes bytes).short 8)) := by
  have hbuild := build_succeeds htree hlinks habs name
  refine ⟨hbuild, fun hplain => ?_⟩
  obtain ⟨hback, hapart⟩ := others_read_back htree hlinks hplain
  obtain ⟨made, hmade⟩ := hbuild.mpr fun ns hns => by
    obtain ⟨-, bytes, hbytes⟩ := Memory.mem_files_below.mp (List.mem_filter.mp hns).1
    exact Memory.is_file_iff_lookup.mpr ⟨bytes, (hback ns hns).trans hbytes⟩
  obtain ⟨ts, hts, hnodup, hmem⟩ := others_listed_once htree hlinks habs name
  obtain ⟨ts', hts', hentries⟩ := build_ok.mp hmade
  obtain rfl := Except.ok.inj (hts.symm.trans hts')
  obtain ⟨hfiles, hversions⟩ := entries_named (map_m_ok.mp hentries)
  have hnames : (made.files.map (·.1)).Nodup := hfiles ▸ hnodup
  have hperm : (made.files.map (·.1)).Perm ((otherFiles m out name).map listedName) := by
    rw [List.perm_ext_iff_of_nodup hnames hapart, hfiles]
    simpa only [List.mem_map] using hmem
  refine ⟨made, hmade, by simpa using hperm.length_eq, hnames, hperm, fun ns hns bytes hbytes => ?_⟩
  obtain ⟨⟨t, version⟩, he, ht⟩ := List.mem_map.mp (hperm.mem_iff.mpr (List.mem_map_of_mem hns))
  obtain ⟨-, found, hfound, hversion⟩ := entry_ok.mp (hversions _ he)
  rw [ht, hback ns hns, hbytes] at hfound
  cases hfound
  rw [← ht]
  exact lookup_of_mem hnames (hversion ▸ he)

theorem manifest_covers_two :
    let m := (Memory.new.addFile ⟨"/out/app.js"⟩ (.ofText "x")).addFile ⟨"/out/css/app.css"⟩ (.ofText "y")
    (m.Tree ∧ m.NoLinks ∧ (⟨"/out"⟩ : Path).isAbsolute = true) ∧
      ∃ made, build m ⟨"/out"⟩ "manifest.json" = .ok made ∧ made.files.length = 2 ∧
        made.files.lookup "css/app.css" = some ((Digest.ofBytes (Bytes.ofText "y")).short 8) := by
  intro m
  have htree : m.Tree := Memory.tree_of_is_tree (by decide +kernel)
  have hlinks : m.NoLinks := Memory.no_links_of_has_no_links (by decide +kernel)
  have habs : (⟨"/out"⟩ : Path).isAbsolute = true := by decide
  have hothers : otherFiles m ⟨"/out"⟩ "manifest.json" = [["css", "app.css"], ["app.js"]] := by decide +kernel
  obtain ⟨-, hcovers⟩ := manifest_covers htree hlinks habs "manifest.json"
  rw [hothers] at hcovers
  obtain ⟨made, hmade, hlength, -, -, hversions⟩ := hcovers (by decide)
  have hname : listedName ["css", "app.css"] = "css/app.css" := by decide
  refine ⟨⟨htree, hlinks, habs⟩, made, hmade, hlength, ?_⟩
  exact hname ▸ hversions ["css", "app.css"] (by decide) _ (by decide +kernel)

/-- A file with a backslash in its name is sought by another name. Where nothing goes by that name no manifest is made,
and where a file does, one entry stands for both. -/
theorem manifest_loses_backslash :
    let one := Memory.new.addFile ⟨"/out/a\\b.js"⟩ (.ofText "x")
    let two := one.addFile ⟨"/out/a/b.js"⟩ (.ofText "y")
    (one.Tree ∧ one.NoLinks ∧ ∀ made, build one ⟨"/out"⟩ "manifest.json" ≠ .ok made) ∧
      two.Tree ∧ two.NoLinks ∧ otherFiles two ⟨"/out"⟩ "manifest.json" = [["a", "b.js"], ["a\\b.js"]] ∧
        (∃ made, build two ⟨"/out"⟩ "manifest.json" = .ok made) ∧
        ∀ made, build two ⟨"/out"⟩ "manifest.json" = .ok made → made.files.map (·.1) = ["a/b.js"] := by
  intro one two
  have habs : (⟨"/out"⟩ : Path).isAbsolute = true := by decide
  have hone : one.Tree ∧ one.NoLinks :=
    ⟨Memory.tree_of_is_tree (by decide +kernel), Memory.no_links_of_has_no_links (by decide +kernel)⟩
  have htwo : two.Tree ∧ two.NoLinks :=
    ⟨Memory.tree_of_is_tree (by decide +kernel), Memory.no_links_of_has_no_links (by decide +kernel)⟩
  have hothers : otherFiles two ⟨"/out"⟩ "manifest.json" = [["a", "b.js"], ["a\\b.js"]] := by decide +kernel
  refine ⟨⟨hone.1, hone.2, fun made hmade => ?_⟩, htwo.1, htwo.2, hothers, ?_, fun made hmade => ?_⟩
  · have hmissing : one.isFile (Path.join ⟨"/out"⟩ ⟨listedName ["a\\b.js"]⟩) = false := by decide +kernel
    have hfound := (build_succeeds hone.1 hone.2 habs "manifest.json").mp ⟨made, hmade⟩ ["a\\b.js"] (by decide +kernel)
    rw [hmissing] at hfound
    cases hfound
  · refine (build_succeeds htwo.1 htwo.2 habs "manifest.json").mpr ?_
    rw [hothers]
    decide +kernel
  · obtain ⟨ts, hts, hnodup, hmem⟩ := others_listed_once htwo.1 htwo.2 habs "manifest.json"
    obtain ⟨ts', hts', hentries⟩ := build_ok.mp hmade
    obtain rfl := Except.ok.inj (hts.symm.trans hts')
    rw [(entries_named (map_m_ok.mp hentries)).1, ← List.perm_singleton,
      List.perm_ext_iff_of_nodup hnodup (List.nodup_singleton _)]
    intro t
    have hnames : listedName ["a", "b.js"] = "a/b.js" ∧ listedName ["a\\b.js"] = "a/b.js" := by decide
    rw [hmem, hothers]
    simp [hnames, eq_comm]

end Manifest

end BundleWatch
