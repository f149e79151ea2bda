import BundleWatch.Output.Listing
import BundleWatch.Proofs.Files.Resolution
import BundleWatch.Proofs.List.Repetition
import BundleWatch.Proofs.List.Results

/-!
# What the listing finds

Below a directory to which no link leads, the listing finds exactly the files to which directories lead by the
names that they list. It finds each of them under these names.
-/

set_option autoImplicit false

namespace BundleWatch

open FileSystem

namespace Memory

def Leads (m : Memory) : Key → List String → Prop
  | k, [] => ∃ bytes, m.get? k = some (.file bytes)
  | k, n :: ns => m.Lists k n ∧ Leads m (k ++ [.name n]) ns

variable {m : Memory}

theorem Leads.file {k : Key} {ns : List String} (h : m.Leads k ns) :
    ∃ bytes, m.get? (k ++ ns.map .name) = some (.file bytes) := by
  induction ns generalizing k with
  | nil => rwa [List.map_nil, List.append_nil]
  | cons n ns ih => simpa using ih h.2

theorem Leads.start {k : Key} {ns : List String} (h : m.Leads k ns) :
    (∃ bytes, m.get? k = some (.file bytes)) ∨ ∃ cs, m.get? k = some (.dir cs) := by
  cases ns with
  | nil => exact .inl h
  | cons n ns =>
    obtain ⟨⟨cs, hcs, -⟩, -⟩ := h
    exact .inr ⟨cs, hcs⟩

theorem Leads.present {k : Key} {ns : List String} (h : m.Leads k ns) : m.get? k ≠ none := by
  rcases h.start with ⟨bytes, hfile⟩ | ⟨cs, hdir⟩ <;> simp [*]

theorem Leads.not_link {k : Key} {ns : List String} (h : m.Leads k ns) (target : Path) :
    m.get? k ≠ some (.link target) := by
  rcases h.start with ⟨bytes, hfile⟩ | ⟨cs, hdir⟩ <;> simp [*]

/-- What holds of every listed name below a key holds of the names that lead to a file. -/
theorem Leads.forall {P : String → Prop} {k : Key} {ns : List String} (h : m.Leads k ns)
    (hP : ∀ j n, k <+: j → m.Lists j n → P n) : ∀ n ∈ ns, P n := by
  induction ns generalizing k with
  | nil => simp
  | cons n ns ih =>
    intro o ho
    rcases List.mem_cons.mp ho with rfl | ho
    · exact hP k o List.prefix_rfl h.1
    · exact ih h.2 (fun j i hj => hP j i ((List.prefix_append _ _).trans hj)) o ho

end Memory

variable {m : Memory} {out d p : Path}

theorem mem_entries (hfree : m.LinkFree d.components) {cs : List String} (hcs : ∀ c ∈ cs, IsName c) :
    (p ∈ (cs.map fun c => d.join ⟨c⟩).filter fun p => !isLink m p) ↔
      ∃ c ∈ cs, p = d.join ⟨c⟩ ∧ p.components = d.components ++ [.name c] ∧
        m.LinkFree p.components := by
  rw [List.mem_filter, List.mem_map]
  constructor
  · rintro ⟨⟨c, hc, rfl⟩, hlink⟩
    have hcomponents := Path.components_join_name (hcs c hc) d
    refine ⟨c, hc, rfl, hcomponents, ?_⟩
    rw [hcomponents]
    refine hfree.child fun target htarget => ?_
    have hyes : isLink m (d.join ⟨c⟩) = true :=
      (Memory.is_link_child hfree (hcs c hc)).mpr ⟨target, htarget⟩
    rw [hyes] at hlink
    cases hlink
  · rintro ⟨c, hc, rfl, hcomponents, hpfree⟩
    refine ⟨⟨c, hc, rfl⟩, ?_⟩
    rcases hlink : isLink m (d.join ⟨c⟩) with _ | _
    · rfl
    · obtain ⟨target, htarget⟩ := (Memory.is_link_child hfree (hcs c hc)).mp hlink
      exact absurd (hcomponents ▸ htarget) (hpfree _ ⟨List.prefix_rfl, by simp [hcomponents]⟩ target)

theorem leads_cases (hfree : m.LinkFree p.components) (P : List String → Prop) :
    (∃ ns, m.Leads p.components ns ∧ P ns) ↔
      ((!isDir m p && isFile m p) = true ∧ P []) ∨
        (isDir m p = true ∧ ∃ ns, m.Leads p.components ns ∧ P ns) := by
  have hdir : isDir m p = true ↔ _ := Memory.is_dir_iff hfree
  have hfile : isFile m p = true ↔ _ := Memory.is_file_iff hfree
  constructor
  · rintro ⟨ns, hleads, hP⟩
    cases ns with
    | nil =>
      obtain ⟨bytes, hbytes⟩ := hleads
      have hnot : isDir m p = false := by
        rw [Bool.eq_false_iff, ne_eq, hdir]
        rintro ⟨cs, hcs⟩
        rw [hbytes] at hcs
        cases hcs
      exact .inl ⟨Bool.and_eq_true_iff.mpr ⟨by rw [hnot]; rfl, hfile.mpr ⟨bytes, hbytes⟩⟩, hP⟩
    | cons n ns =>
      obtain ⟨cs, hcs, -⟩ := hleads.1
      exact .inr ⟨hdir.mpr ⟨cs, hcs⟩, n :: ns, hleads, hP⟩
  · rintro (⟨hkind, hP⟩ | ⟨-, hleads⟩)
    · exact ⟨[], hfile.mp (Bool.and_eq_true_iff.mp hkind).2, hP⟩
    · exact hleads

/-- Names lead from a directory to a file through one of its entries. -/
theorem leads_entries (hm : m.Named) (hfree : m.LinkFree d.components) {cs : List String}
    (hcs : m.get? d.components = some (.dir cs)) (P : Path → Prop) :
    (∃ p ∈ (cs.map fun c => d.join ⟨c⟩).filter fun p => !isLink m p,
        ∃ ns, m.Leads p.components ns ∧ P (p.descend ns)) ↔
      ∃ ns, m.Leads d.components ns ∧ P (d.descend ns) := by
  have hnames : ∀ c ∈ cs, IsName c := fun c hc => hm d.components c ⟨cs, hcs, hc⟩
  constructor
  · rintro ⟨p, hin, ns, hleads, hP⟩
    obtain ⟨c, hc, rfl, hcomponents, -⟩ := (mem_entries hfree hnames).mp hin
    rw [hcomponents] at hleads
    exact ⟨c :: ns, ⟨⟨cs, hcs, hc⟩, hleads⟩, hP⟩
  · rintro ⟨ns, hleads, hP⟩
    cases ns with
    | nil =>
      obtain ⟨bytes, hfile⟩ := hleads
      rw [hcs] at hfile
      cases hfile
    | cons c ns =>
      obtain ⟨⟨ds, hds, hc⟩, hrest⟩ := hleads
      rw [hcs] at hds
      cases hds
      have hcomponents := Path.components_join_name (hnames c hc) d
      refine ⟨d.join ⟨c⟩, (mem_entries hfree hnames).mpr ⟨c, hc, rfl, hcomponents, ?_⟩, ns, ?_, hP⟩
      · rw [hcomponents]
        exact hfree.child hrest.not_link
      · rw [hcomponents]
        exact hrest

theorem names_below (hm : m.Named) (n : Nat) (hfree : m.LinkFree d.components)
    (hdir : ∃ cs, m.get? d.components = some (.dir cs)) (hn : m.longestKey < n + d.components.length) :
    ∃ ts, namesBelow m out n d = .ok ts ∧ ∀ t, t ∈ ts ↔
      ∃ ns, m.Leads d.components ns ∧ relative? m out (d.descend ns) = some t := by
  obtain ⟨cs, hcs⟩ := hdir
  induction n generalizing d cs with
  | zero =>
    have hle := Memory.length_le_longest_key hcs
    omega
  | succ n ih =>
    have hnames : ∀ c ∈ cs, IsName c := fun c hc => hm d.components c ⟨cs, hcs, hc⟩
    have hread : readDir m d = .ok (cs.map fun c => d.join ⟨c⟩) := Memory.read_dir_eq hfree hcs
    have hentries := fun p => mem_entries (p := p) hfree hnames
    have hleads := fun t => leads_entries hm hfree hcs fun q => relative? m out q = some t
    rw [namesBelow, hread]
    simp only [bind, Except.bind]
    generalize (cs.map fun c => d.join ⟨c⟩).filter (fun p => !isLink m p) = entries at hentries hleads ⊢
    have hinner : ∃ tss, (entries.filter (isDir m)).mapM (namesBelow m out n) = .ok tss ∧
        ∀ t, t ∈ tss.flatten ↔ ∃ p ∈ entries.filter (isDir m),
          ∃ ns, m.Leads p.components ns ∧ relative? m out (p.descend ns) = some t := by
      refine map_m_flatten fun p hp => ?_
      obtain ⟨hin, hisDir⟩ := List.mem_filter.mp hp
      obtain ⟨c, -, -, hcomponents, hpfree⟩ := (hentries p).mp hin
      obtain ⟨ds, hds⟩ := (Memory.is_dir_iff hpfree).mp hisDir
      refine ih hpfree ?_ ds hds
      rw [hcomponents, List.length_append, List.length_singleton]
      omega
    obtain ⟨tss, htss, hflat⟩ := hinner
    rw [htss]
    refine ⟨_, rfl, fun t => ?_⟩
    -- an entry is found as a file or in a directory, in either case under the names that lead to it
    have hfound : t ∈ (entries.filter fun p => !isDir m p && isFile m p).filterMap (relative? m out) ++
        tss.flatten ↔ ∃ p ∈ entries, ∃ ns, m.Leads p.components ns ∧
          relative? m out (p.descend ns) = some t := by
      rw [List.mem_append, hflat, List.mem_filterMap]
      simp only [List.mem_filter, and_assoc, ← exists_or, ← and_or_left]
      refine exists_congr fun p => and_congr_right fun hin => ?_
      obtain ⟨c, -, -, -, hpfree⟩ := (hentries p).mp hin
      exact (leads_cases hpfree fun ns => relative? m out (p.descend ns) = some t).symm
    exact hfound.trans (hleads t)

/-! ## Artifacts -/

structure Tidy (ts : List String) : Prop where
  ordered : ts.Pairwise (· ≤ ·)
  nodup : ts.Nodup

theorem sorted_texts_tidy (ts : List String) : Tidy (sortedTexts ts) := by
  refine ⟨?_, erase_dups_nodup _⟩
  have hsorted : (ts.mergeSort fun a b => decide (a ≤ b)).Pairwise fun a b => decide (a ≤ b) := by
    refine List.pairwise_mergeSort (fun a b c hab hbc => ?_) (fun a b => ?_) ts
    · exact decide_eq_true (String.le_trans (of_decide_eq_true hab) (of_decide_eq_true hbc))
    · simpa using String.le_total a b
  exact (hsorted.imp fun h => of_decide_eq_true h).sublist (erase_dups_sublist _)

theorem mem_sorted_texts (ts : List String) (t : String) : t ∈ sortedTexts ts ↔ t ∈ ts := by
  rw [sortedTexts, List.mem_eraseDups, List.mem_mergeSort]

theorem Tidy.ext {ts us : List String} (ht : Tidy ts) (hu : Tidy us) (h : ∀ t, t ∈ ts ↔ t ∈ us) :
    ts = us := by
  have hperm := (List.perm_ext_iff_of_nodup ht.nodup hu.nodup).mpr h
  exact hperm.eq_of_pairwise (fun _ _ _ _ => String.le_antisymm) ht.ordered hu.ordered

theorem Tidy.filter {ts : List String} (h : Tidy ts) (p : String → Bool) : Tidy (ts.filter p) :=
  ⟨h.ordered.filter p, h.nodup.filter p⟩

/-- The artifacts are the files below the output directory, under the relative names of the paths that lead to
them. -/
theorem artifacts_leads (hm : m.Named) (hfree : m.LinkFree out.components) :
    ∃ ts, artifacts m out = .ok ts ∧ Tidy ts ∧ ∀ t, t ∈ ts ↔
      ∃ ns, ns ≠ [] ∧ m.Leads out.components ns ∧ relative? m out (out.descend ns) = some t := by
  rw [artifacts]
  split
  · next hdir =>
    obtain ⟨cs, hcs⟩ := (Memory.is_dir_iff hfree).mp hdir
    have hbound : m.longestKey < depthBound m + 1 + out.components.length := by
      change m.longestKey < (maxLinkHops + 1) * m.longestKey + 1 + 1 + _
      have hle : m.longestKey ≤ (maxLinkHops + 1) * m.longestKey :=
        Nat.le_mul_of_pos_left m.longestKey (Nat.succ_pos maxLinkHops)
      omega
    obtain ⟨ts, hts, hmem⟩ := names_below hm _ hfree ⟨cs, hcs⟩ hbound
    refine ⟨sortedTexts ts, by rw [hts]; rfl, sorted_texts_tidy ts, fun t => ?_⟩
    rw [mem_sorted_texts, hmem]
    refine exists_congr fun ns => ⟨fun h => ⟨?_, h⟩, And.right⟩
    rintro rfl
    obtain ⟨bytes, hfile⟩ := h.1
    rw [hcs] at hfile
    cases hfile
  · next hdir =>
    refine ⟨[], rfl, ⟨List.Pairwise.nil, List.nodup_nil⟩, fun t => ?_⟩
    constructor
    · intro hin
      cases hin
    · rintro ⟨ns, hne, hleads, -⟩
      obtain ⟨n, ns, rfl⟩ := List.exists_cons_of_ne_nil hne
      obtain ⟨⟨cs, hcs, -⟩, -⟩ := hleads
      exact absurd ((Memory.is_dir_iff hfree).mpr ⟨cs, hcs⟩) hdir

/-! ## Plain names -/

/-- No directory below a key lists a name with a backslash, which relative names do not keep. -/
def Memory.PlainBelow (m : Memory) (k : Key) : Prop := ∀ j n, k <+: j → m.Lists j n → '\\' ∉ n.toList

def Memory.hasPlainNames (m : Memory) : Bool :=
  m.entries.all fun x =>
    match x.2 with
    | .dir cs => cs.all fun c => decide ('\\' ∉ c.toList)
    | _ => true

theorem Memory.plain_below_of_has_plain_names {m : Memory} (h : m.hasPlainNames = true) (k : Key) : m.PlainBelow k := by
  rintro j n - ⟨cs, hcs, hin⟩
  have hcheck := List.all_eq_true.mp h _ (get?_entry hcs)
  exact of_decide_eq_true (List.all_eq_true.mp hcheck n hin)

theorem relative_descend (m : Memory) {ns : List String} (hns : ∀ n ∈ ns, IsName n) (hne : ns ≠ [])
    (hback : ∀ n ∈ ns, '\\' ∉ n.toList) (out : Path) :
    relative? m out (out.descend ns) = some (Path.ofNames ns).text := by
  rw [relative?, Path.relativeTo?, Path.below?_descend hns hne]
  exact Path.relative_text?_of_names hns hne hback

theorem artifacts_names (hm : m.Named) (hfree : m.LinkFree out.components) (hplain : m.PlainBelow out.components) :
    ∃ ts, artifacts m out = .ok ts ∧ Tidy ts ∧
      ∀ t, t ∈ ts ↔ ∃ ns, ns ≠ [] ∧ m.Leads out.components ns ∧ t = (Path.ofNames ns).text := by
  obtain ⟨ts, hts, htidy, hmem⟩ := artifacts_leads hm hfree
  refine ⟨ts, hts, htidy, fun t => (hmem t).trans ?_⟩
  refine exists_congr fun ns => and_congr_right fun hne => and_congr_right fun hleads => ?_
  have hnames : ∀ n ∈ ns, IsName n := hleads.forall fun j n _ => hm j n
  rw [relative_descend m hnames hne (hleads.forall hplain), Option.some_inj]
  exact eq_comm

end BundleWatch
