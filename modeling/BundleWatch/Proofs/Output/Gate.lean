import BundleWatch.Proofs.Output.Exact

/-!
# When the gate opens

The gate compares the required names with the listing as texts. In a tree without links it opens as soon as every
required name leads to a file, if the names are written as the listing writes them.
-/

set_option autoImplicit false

namespace BundleWatch

open FileSystem

def IsListingName (t : String) : Prop :=
  ∃ ns : List String, ns ≠ [] ∧ (∀ n ∈ ns, IsName n) ∧ t = (Path.ofNames ns).text

variable {m : Memory} {out : Path}

theorem Memory.Tree.is_file_below (htree : m.Tree) (hlinks : m.NoLinks) (habs : out.isAbsolute = true)
    {ns : List String} (hns : ∀ n ∈ ns, IsName n) (hne : ns ≠ []) :
    isFile m (out.join (Path.ofNames ns)) = true ↔ m.Leads out.components ns := by
  have hfile : isFile m (out.join (Path.ofNames ns)) = true ↔ _ := Memory.is_file_iff (hlinks.link_free _)
  rw [hfile, Path.components_join_of_names hns hne, htree.leads_iff (Path.is_absolute_ne_nil habs)]

theorem listed_iff_file (htree : m.Tree) (hlinks : m.NoLinks) (habs : out.isAbsolute = true)
    (hplain : m.PlainBelow out.components) :
    ∃ ts, artifacts m out = .ok ts ∧
      ∀ t, t ∈ ts ↔ IsListingName t ∧ isFile m (out.join ⟨t⟩) = true := by
  obtain ⟨ts, hts, -, hmem⟩ := artifacts_names htree.named (hlinks.link_free _) hplain
  refine ⟨ts, hts, fun t => (hmem t).trans ?_⟩
  constructor
  · rintro ⟨ns, hne, hleads, rfl⟩
    have hns : ∀ n ∈ ns, IsName n := hleads.forall fun j n _ => htree.named j n
    exact ⟨⟨ns, hne, hns, rfl⟩, (htree.is_file_below hlinks habs hns hne).mpr hleads⟩
  · rintro ⟨⟨ns, hne, hns, rfl⟩, hfile⟩
    exact ⟨ns, hne, (htree.is_file_below hlinks habs hns hne).mp hfile, rfl⟩

/-- In a tree without links and without backslashes in its names, the gate opens if and only if every required name
leads to a file and is written as the listing writes it. Looking never fails. -/
theorem gate_opens_iff (htree : m.Tree) (hlinks : m.NoLinks) (habs : out.isAbsolute = true)
    (hplain : m.PlainBelow out.components) (required : List String) :
    ∃ b, isComplete m out required = .ok b ∧
      (b = true ↔ ∀ name ∈ required, IsListingName name ∧ isFile m (out.join ⟨name⟩) = true) := by
  obtain ⟨ts, hts, hmem⟩ := listed_iff_file htree hlinks habs hplain
  refine ⟨required.all fun n => ts.contains n, by rw [isComplete, hts]; rfl, ?_⟩
  rw [List.all_eq_true]
  refine forall₂_congr fun name _ => ?_
  rw [List.contains_iff_mem, hmem]

def twoArtifacts : Memory := (Memory.new.addFile ⟨"/p/build/app.js"⟩ []).addFile ⟨"/p/build/css/app.css"⟩ []

theorem gate_opens_two :
    (twoArtifacts.Tree ∧ twoArtifacts.NoLinks ∧ (⟨"/p/build"⟩ : Path).isAbsolute = true ∧
        twoArtifacts.PlainBelow (Path.mk "/p/build").components) ∧
      isComplete twoArtifacts ⟨"/p/build"⟩ ["css/app.css", "app.js"] = .ok true ∧
      isComplete twoArtifacts ⟨"/p/build"⟩ ["app.js", "css"] = .ok false ∧
      isComplete twoArtifacts ⟨"/p/dist"⟩ ["app.js"] = .ok false := by
  have htree : twoArtifacts.Tree := Memory.tree_of_is_tree (by decide +kernel)
  have hlinks : twoArtifacts.NoLinks := Memory.no_links_of_has_no_links (by decide +kernel)
  have hplain : ∀ k, twoArtifacts.PlainBelow k := Memory.plain_below_of_has_plain_names (by decide +kernel)
  have habs : (⟨"/p/build"⟩ : Path).isAbsolute = true := by decide
  refine ⟨⟨htree, hlinks, habs, hplain _⟩, ?_, ?_, ?_⟩
  · obtain ⟨b, hb, hopen⟩ := gate_opens_iff htree hlinks habs (hplain _) ["css/app.css", "app.js"]
    have hall : ∀ name ∈ ["css/app.css", "app.js"],
        IsListingName name ∧ isFile twoArtifacts ((⟨"/p/build"⟩ : Path).join ⟨name⟩) = true := by
      rw [List.forall_mem_cons, List.forall_mem_singleton]
      exact ⟨⟨⟨["css", "app.css"], by decide⟩, by decide +kernel⟩, ⟨⟨["app.js"], by decide⟩, by decide +kernel⟩⟩
    rw [hb, hopen.mpr hall]
  · obtain ⟨b, hb, hopen⟩ := gate_opens_iff htree hlinks habs (hplain _) ["app.js", "css"]
    have hshut : b = false :=
      Bool.eq_false_iff.mpr fun htrue => absurd (hopen.mp htrue "css" (by decide)).2 (by decide +kernel)
    rw [hb, hshut]
  · have hgone : (⟨"/p/dist"⟩ : Path).isAbsolute = true := by decide
    obtain ⟨b, hb, hopen⟩ := gate_opens_iff htree hlinks hgone (hplain _) ["app.js"]
    have hshut : b = false :=
      Bool.eq_false_iff.mpr fun htrue => absurd (hopen.mp htrue "app.js" (by decide)).2 (by decide +kernel)
    rw [hb, hshut]

def oneArtifact (name : String) : Memory := Memory.new.addFile ((⟨"/out"⟩ : Path).join ⟨name⟩) []

/-- A name with a dot in front leads to the artifact and is never listed. A name with a backslash is listed as the
name of another file. -/
theorem gate_compares_texts :
    ((oneArtifact "app.js").Tree ∧ (oneArtifact "app.js").NoLinks ∧
        isFile (oneArtifact "app.js") ((⟨"/out"⟩ : Path).join ⟨"./app.js"⟩) = true ∧
        isComplete (oneArtifact "app.js") ⟨"/out"⟩ ["./app.js"] = .ok false) ∧
      (oneArtifact "a\\b.js").Tree ∧ (oneArtifact "a\\b.js").NoLinks ∧
        isFile (oneArtifact "a\\b.js") ((⟨"/out"⟩ : Path).join ⟨"a/b.js"⟩) = false ∧
        isComplete (oneArtifact "a\\b.js") ⟨"/out"⟩ ["a/b.js"] = .ok true := by
  constructor
  · exact ⟨Memory.tree_of_is_tree (by decide +kernel), Memory.no_links_of_has_no_links (by decide +kernel),
      by decide +kernel, by decide +kernel⟩
  · exact ⟨Memory.tree_of_is_tree (by decide +kernel), Memory.no_links_of_has_no_links (by decide +kernel),
      by decide +kernel, by decide +kernel⟩

end BundleWatch
