import BundleWatch.Output.Manifest
import BundleWatch.Proofs.Output.Listing

/-!
# The manifest settles

Writing the manifest changes nothing that the manifest tells: the other files below the output directory are
found as before, with the same contents, and the manifest itself is left out. So a second run finds the manifest
up to date. This takes that the listing knows the manifest by the name that it is left out by, and by no other.
-/

set_option autoImplicit false

namespace BundleWatch

open FileSystem

theorem names_injective : Function.Injective (List.map Component.name) :=
  List.map_injective_iff.mpr fun _ _ => Component.name.inj

namespace Memory

/-! ## What leads to files before and after -/

section

variable {m m' : Memory} {base : Key} {ns : List String} {bytes : Bytes}

/-- A new name below the base is one of those that lead to the stored file. -/
theorem Stored.listed_below (h : Stored m m' (base ++ ns.map .name) (.file bytes)) {rs : List String}
    {n : String} (hl : m'.Lists (base ++ rs.map .name) n) :
    m.Lists (base ++ rs.map .name) n ∨ rs ++ [n] = ns ∨ m.get? (base ++ (rs ++ [n]).map .name) = none := by
  rcases h.listed _ n hl with hold | ⟨i, hi, hparent, hname⟩
  · exact .inl hold
  · have hchild : i = base ++ (rs ++ [n]).map .name := by
      rcases Key.parent?_named hparent hname with ⟨-, rfl⟩ | ⟨hhere, rfl⟩
      · simp
      · -- then the base is the directory of relative paths, in which no path starts with a name
        have hbegins : [Component.name n] <+: base ++ ns.map .name := by
          rcases hi with heq | hmissing
          · exact heq ▸ List.prefix_rfl
          · exact hmissing.1
        rcases base with _ | ⟨c, cs⟩
        · rcases rs with _ | ⟨r, rs⟩ <;> simp [Key.here] at hhere
        · obtain ⟨rfl, -⟩ := List.cons.inj hhere
          obtain ⟨rest, hrest⟩ := hbegins
          cases (List.cons.inj hrest).1
    subst hchild
    rcases hi with heq | hmissing
    · exact .inr (.inl (names_injective (List.append_cancel_left heq)))
    · exact .inr (.inr hmissing.2)

/-- What leads to a file afterwards did so before, or leads to the stored file. -/
theorem Stored.leads_before (h : Stored m m' (base ++ ns.map .name) (.file bytes))
    (hdir : ∀ cs, m.get? (base ++ ns.map .name) ≠ some (.dir cs)) {rs ls : List String}
    (hl : m'.Leads (base ++ rs.map .name) ls) : m.Leads (base ++ rs.map .name) ls ∨ rs ++ ls = ns := by
  induction ls generalizing rs with
  | nil =>
    obtain ⟨found, hfound⟩ := hl
    have hsolid := (h.solid _ _ fun _ => Entry.noConfusion).mp hfound
    split at hsolid
    · next heq => exact .inr (by simpa using names_injective (List.append_cancel_left heq))
    · exact .inl ⟨found, hsolid⟩
  | cons n ls ih =>
    obtain ⟨hlists, hrest⟩ := hl
    have hkey : base ++ rs.map .name ++ [.name n] = base ++ (rs ++ [n]).map .name := by simp
    rw [hkey] at hrest
    rcases ih hrest with hold | hnew
    · rcases h.listed_below hlists with hlisted | rfl | hnone
      · exact .inl ⟨hlisted, hkey ▸ hold⟩
      · -- the place of the stored file held no directory, so nothing leads on from there
        cases ls with
        | nil => exact .inr rfl
        | cons o ls =>
          obtain ⟨⟨cs, hcs, -⟩, -⟩ := hold
          exact absurd hcs (hdir cs)
      · exact absurd hnone hold.present
    · exact .inr (by simpa using hnew)

theorem Stored.leads_after {k : Key} (h : Stored m m' k (.file bytes))
    (hdir : ∀ cs, m.get? k ≠ some (.dir cs)) {j : Key} {ls : List String} (hl : m.Leads j ls) :
    m'.Leads j ls := by
  induction ls generalizing j with
  | nil =>
    obtain ⟨found, hfound⟩ := hl
    by_cases hj : j = k
    · exact ⟨bytes, (h.solid j _ fun _ => Entry.noConfusion).mpr (by rw [if_pos hj])⟩
    · exact ⟨found, (h.solid j _ fun _ => Entry.noConfusion).mpr (by rwa [if_neg hj])⟩
  | cons n ls ih =>
    obtain ⟨hlists, hrest⟩ := hl
    have hj : j ≠ k := by
      rintro rfl
      obtain ⟨cs, hcs, -⟩ := hlists
      exact hdir cs hcs
    exact ⟨h.kept j n hj hlists, ih hrest⟩

/-! ## Where paths lead before and after -/

theorem Stored.link_iff {k : Key} (h : Stored m m' k (.file bytes))
    (hlink : ∀ target, m.get? k ≠ some (.link target)) (j : Key) (target : Path) :
    m'.get? j = some (.link target) ↔ m.get? j = some (.link target) := by
  rw [h.solid j _ fun _ => Entry.noConfusion]
  split
  · next heq =>
    rw [heq]
    exact iff_of_false Entry.noConfusion (hlink target)
  · rfl

theorem resolve_congr (h : ∀ j target, m'.get? j = some (.link target) ↔ m.get? j = some (.link target))
    (p : Path) : m'.resolve p = m.resolve p := by
  have hfollow : ∀ q, m'.follow? q = m.follow? q := by
    intro q
    unfold follow?
    congr 1
    funext a
    split
    · next target hlink => rw [(h _ target).mp hlink]
    · next hnone =>
      split
      · next target hlink => exact absurd ((h _ target).mpr hlink) (hnone target)
      · rfl
  unfold resolve
  generalize maxLinkHops = n
  induction n generalizing p with
  | zero => rfl
  | succ n ih =>
    rw [resolveWithin, resolveWithin, hfollow]
    split
    · rfl
    · exact ih _

end

end Memory

/-! ## The place of the manifest -/

namespace Manifest

/-- A place for a manifest, under a name that is written as the listing writes it. No link leads there, and no
directory is there. -/
structure Place (m : Memory) (out : Path) (ns : List String) : Prop where
  names : ∀ n ∈ ns, IsName n
  nonempty : ns ≠ []
  plain : ∀ n ∈ ns, '\\' ∉ n.toList
  free : m.follow? (out.join (Path.ofNames ns)) = none
  vacant : m.isDir (out.join (Path.ofNames ns)) = false

/-- No other name that the listing gives leads to the file of this name. -/
def ListedOnce (m : Memory) (out : Path) (name : String) : Prop :=
  ∀ ts, artifacts m out = .ok ts → ∀ t ∈ ts, t ≠ name →
    (m.resolve (out.join ⟨t⟩)).components ≠ (out.join ⟨name⟩).components

variable {m m' : Memory} {out : Path} {ns : List String}

namespace Place

theorem components (h : Place m out ns) :
    (out.join (Path.ofNames ns)).components = out.components ++ ns.map .name :=
  Path.components_join_of_names h.names h.nonempty out

theorem link_free (h : Place m out ns) : m.LinkFree (out.join (Path.ofNames ns)).components :=
  Memory.follow?_none.mp h.free

theorem link_free_out (h : Place m out ns) : m.LinkFree out.components :=
  h.link_free.above (h.components ▸ Memory.on_the_way_append _ _)

theorem not_dir (h : Place m out ns) (cs : List String) :
    m.get? (out.join (Path.ofNames ns)).components ≠ some (.dir cs) := by
  intro hcs
  have hdir := (Memory.is_dir_iff h.link_free).mpr ⟨cs, hcs⟩
  rw [h.vacant] at hdir
  cases hdir

/-- Storing a file at the place changes the listing by its name alone. -/
theorem others_listed (h : Place m out ns) (hm : m.Named) (bytes : Bytes) :
    ∃ ts us, artifacts m out = .ok ts ∧
      artifacts (m.addFile (out.join (Path.ofNames ns)) bytes) out = .ok us ∧
      us.filter (· ≠ (Path.ofNames ns).text) = ts.filter (· ≠ (Path.ofNames ns).text) := by
  have hstored := m.add_file_stored (out.join (Path.ofNames ns)) bytes
  have hafter := (Memory.LinkFree.congr (hstored.link_iff h.link_free.self) out.components).mpr h.link_free_out
  obtain ⟨ts, hts, htidy, hmem⟩ := artifacts_leads hm h.link_free_out
  obtain ⟨us, hus, hutidy, humem⟩ := artifacts_leads (hstored.named hm) hafter
  refine ⟨ts, us, hts, hus, (hutidy.filter _).ext (htidy.filter _) fun t => ?_⟩
  simp only [List.mem_filter, decide_eq_true_eq, hmem, humem]
  refine and_congr_left fun hother => exists_congr fun rs => and_congr_right fun _ => ?_
  constructor
  · rintro ⟨hleads, hrelative⟩
    have hbefore : m.Leads out.components rs ∨ rs = ns := by
      have hdir := h.not_dir
      rw [h.components] at hstored hdir
      have hstart : (m.addFile (out.join (Path.ofNames ns)) bytes).Leads
          (out.components ++ ([] : List String).map .name) rs := by simpa using hleads
      simpa using hstored.leads_before hdir hstart
    rcases hbefore with hold | rfl
    · exact ⟨hold, hrelative⟩
    · have htext := (relative_descend _ h.names h.nonempty h.plain out).symm.trans hrelative
      exact absurd (Option.some.inj htext).symm hother
  · rintro ⟨hleads, hrelative⟩
    exact ⟨hstored.leads_after h.not_dir hleads, hrelative⟩

end Place

/-! ## The manifest -/

theorem file_digest_ok {p : Path} {d : Digest} :
    fileDigest m p = .ok d ↔ ∃ bytes, m.lookup? p = some (.file bytes) ∧ d = Digest.ofBytes bytes := by
  have hopen : openRead m p = (m.contents p).map .ok := rfl
  rw [fileDigest, hopen, Memory.contents]
  rcases m.lookup? p with _ | bytes | cs | target <;> simp [Memory.fail, Except.map, eq_comm]

theorem entry_stored {k : Key} {bytes : Bytes} (h : Memory.Stored m m' k (.file bytes))
    (hlink : ∀ target, m.get? k ≠ some (.link target)) {t : String} {e : String × String}
    (hother : (m.resolve (out.join ⟨t⟩)).components ≠ k) (he : entry m out t = .ok e) :
    entry m' out t = .ok e := by
  have hdigest : ∀ d, fileDigest m (out.join ⟨t⟩) = .ok d → fileDigest m' (out.join ⟨t⟩) = .ok d := by
    intro d hd
    obtain ⟨found, hfound, rfl⟩ := file_digest_ok.mp hd
    refine file_digest_ok.mpr ⟨found, ?_, rfl⟩
    rw [Memory.lookup?, Memory.resolve_congr (h.link_iff hlink)]
    refine (h.solid _ _ fun _ => Entry.noConfusion).mpr ?_
    rwa [if_neg hother]
  unfold entry at he ⊢
  rcases hd : fileDigest m (out.join ⟨t⟩) with f | d <;> rw [hd] at he
  · cases he
  · rw [hdigest d hd]
    exact he

theorem is_current_text {target : Path} {old : String} (hfree : m.LinkFree target.components)
    (hfile : m.get? target.components = some (.file (.ofText old))) (text : String) :
    isCurrent m target text = decide (old = text) := by
  have hisFile : isFile m target = true := (Memory.is_file_iff hfree).mpr ⟨_, hfile⟩
  have hread : readText m target = .ok old := by
    change m.contentsText target = _
    rw [Memory.contentsText, Memory.contents_eq hfree hfile]
    simp only [bind, Except.bind, Bytes.to_text_of_text]
    rfl
  rw [isCurrent, hisFile, hread, Bool.true_and]

theorem build_ok {name : String} {made : Manifest} :
    build m out name = .ok made ↔ ∃ ts, artifacts m out = .ok ts ∧
      (ts.filter (· ≠ name)).mapM (entry m out) = .ok made.files := by
  unfold build
  rcases artifacts m out with f | ts
  · simp [bind, Except.bind]
  · simp only [bind, Except.bind, pure, Except.pure, Except.ok.injEq, exists_eq_left']
    rcases (ts.filter (· ≠ name)).mapM (entry m out) with f | es
    · simp
    · obtain ⟨files⟩ := made
      simp

/-- Storing a file that the listing knows by its name alone does not change the manifest that leaves it out. -/
theorem build_stored (h : Place m out ns) (hm : m.Named) (honce : ListedOnce m out (Path.ofNames ns).text)
    {made : Manifest} (hmade : build m out (Path.ofNames ns).text = .ok made) (bytes : Bytes) :
    build (m.addFile (out.join (Path.ofNames ns)) bytes) out (Path.ofNames ns).text = .ok made := by
  have hstored := m.add_file_stored (out.join (Path.ofNames ns)) bytes
  obtain ⟨ts, us, hts, hus, hsame⟩ := h.others_listed hm bytes
  obtain ⟨listed, hlisted, hentries⟩ := build_ok.mp hmade
  obtain rfl := Except.ok.inj (hts.symm.trans hlisted)
  refine build_ok.mpr ⟨us, hus, ?_⟩
  rw [hsame]
  refine map_m_agree hentries fun t ht e he => ?_
  obtain ⟨hin, hother⟩ := List.mem_filter.mp ht
  exact entry_stored hstored h.link_free.self (honce ts hts t hin (of_decide_eq_true hother)) he

/-- Once the manifest was brought up to date, it is up to date. -/
theorem manifest_settles (hm : m.Built) (h : Place m out ns) (honce : ListedOnce m out (Path.ofNames ns).text)
    {written : Bool} (hdone : regenerate m out (Path.ofNames ns).text = (m', .ok written)) :
    regenerate m' out (Path.ofNames ns).text = (m', .ok false) := by
  unfold regenerate at hdone
  split at hdone
  · cases hdone
  · next made hmade =>
    simp only [Memory.write_eq] at hdone
    split at hdone
    · next hcurrent =>
      -- nothing was written
      obtain ⟨rfl, -⟩ := Prod.mk.inj hdone
      rw [regenerate, hmade]
      exact if_pos hcurrent
    · obtain ⟨rfl, -⟩ := Prod.mk.inj hdone
      have hagain := build_stored h hm.named honce hmade (.ofText made.render)
      have hstored := m.add_file_stored (out.join (Path.ofNames ns)) (.ofText made.render)
      have hfile := (hstored.solid (out.join (Path.ofNames ns)).components (.file (.ofText made.render))
        fun _ => Entry.noConfusion).mpr (by rw [if_pos rfl])
      have hfree := (Memory.LinkFree.congr (hstored.link_iff h.link_free.self) _).mpr h.link_free
      have hcurrent := is_current_text hfree hfile made.render
      rw [decide_eq_true rfl] at hcurrent
      rw [regenerate, hagain]
      exact if_pos hcurrent

theorem manifest_settles_beside :
    let m := Memory.new.addFile ⟨"/out/app.js"⟩ (.ofText "x")
    regenerate (regenerate m ⟨"/out"⟩ "manifest.json").1 ⟨"/out"⟩ "manifest.json" =
      ((regenerate m ⟨"/out"⟩ "manifest.json").1, .ok false) := by
  intro m
  have hlisting : artifacts m ⟨"/out"⟩ = .ok ["app.js"] := by decide +kernel
  have honce : ListedOnce m ⟨"/out"⟩ (Path.ofNames ["manifest.json"]).text := by
    intro ts hts t ht _
    obtain rfl := Except.ok.inj (hlisting.symm.trans hts)
    obtain rfl := List.mem_singleton.mp ht
    decide +kernel
  have hplace : Place m ⟨"/out"⟩ ["manifest.json"] :=
    ⟨by decide, by decide, by decide, by decide +kernel, by decide +kernel⟩
  have hdone : (regenerate m ⟨"/out"⟩ "manifest.json").2 = .ok true := by decide +kernel
  exact manifest_settles (.place (.file ⟨"/out/app.js"⟩ (.ofText "x")) .new) hplace honce
    (Prod.ext rfl hdone)

/-- A manifest whose name is spelled otherwise than the listing spells it tells its own version, and so changes
when it is written. -/
theorem manifest_lists_itself :
    let once := (regenerate Memory.new ⟨"/out"⟩ "./manifest.json").1
    (regenerate Memory.new ⟨"/out"⟩ "./manifest.json").2 = .ok true ∧
      build once ⟨"/out"⟩ "./manifest.json" = .ok ⟨[("manifest.json", "43b91e8a")]⟩ ∧
      (regenerate once ⟨"/out"⟩ "./manifest.json").2 = .ok true := by
  intro once
  have hagain : build once ⟨"/out"⟩ "./manifest.json" = .ok ⟨[("manifest.json", "43b91e8a")]⟩ := by
    decide +kernel
  have htarget : Path.join ⟨"/out"⟩ ⟨"./manifest.json"⟩ = ⟨"/out/./manifest.json"⟩ := by decide +kernel
  have hfree : once.LinkFree (Path.mk "/out/./manifest.json").components :=
    Memory.follow?_none.mp (by decide +kernel)
  have hfile : once.get? (Path.mk "/out/./manifest.json").components =
      some (.file (.ofText (render ⟨[]⟩))) := by decide +kernel
  have hcurrent := is_current_text hfree hfile (render ⟨[("manifest.json", "43b91e8a")]⟩)
  have htexts : render ⟨[]⟩ ≠ render ⟨[("manifest.json", "43b91e8a")]⟩ := by decide +kernel
  rw [decide_eq_false htexts] at hcurrent
  refine ⟨by decide +kernel, hagain, ?_⟩
  rw [regenerate, hagain]
  simp only [htarget, hcurrent]
  rfl

end Manifest

end BundleWatch
