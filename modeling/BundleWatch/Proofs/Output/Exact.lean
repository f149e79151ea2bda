import BundleWatch.Proofs.Files.Following
import BundleWatch.Proofs.Output.Listing

/-!
# The listing is exact

In a tree the listing gives the names of the files below the output directory, as far as directories alone lead
to them, and gives nothing else. The order in which directories list their children does not matter.
-/

set_option autoImplicit false

namespace BundleWatch

open FileSystem

namespace Memory

variable {m : Memory} {k : Key} {ns : List String}

def FileBelow (m : Memory) (k : Key) (ns : List String) : Prop :=
  (∀ i, 0 < i → i < ns.length → ∃ cs, m.get? (k ++ (ns.take i).map .name) = some (.dir cs)) ∧
    ∃ bytes, m.get? (k ++ ns.map .name) = some (.file bytes)

namespace Tree

theorem leads_iff (htree : m.Tree) (hk : k ≠ []) :
    m.Leads k ns ↔ ∃ bytes, m.get? (k ++ ns.map .name) = some (.file bytes) := by
  refine ⟨Leads.file, ?_⟩
  rintro ⟨bytes, hfile⟩
  induction ns generalizing k with
  | nil => exact ⟨bytes, by simpa using hfile⟩
  | cons n ns ih =>
    obtain ⟨cs, hcs⟩ := htree.rooted.above hk (List.cons_ne_nil _ _) hfile
    have hrest : m.Leads (k ++ [.name n]) ns := ih (by simp) (by simpa using hfile)
    obtain ⟨e, he⟩ := Option.ne_none_iff_exists'.mp hrest.present
    exact ⟨⟨cs, hcs, (htree.mem_listed hcs).mpr ⟨e, he⟩⟩, hrest⟩

theorem leads_iff_below (htree : m.Tree) (hk : k ≠ []) : m.Leads k ns ↔ m.FileBelow k ns := by
  rw [htree.leads_iff hk]
  refine ⟨fun hfile => ⟨fun i _ hlen => ?_, hfile⟩, And.right⟩
  obtain ⟨bytes, hbytes⟩ := hfile
  rw [← List.take_append_drop i ns, List.map_append, ← List.append_assoc] at hbytes
  refine htree.rooted.above (by simp [hk]) ?_ hbytes
  simpa using hlen

end Tree

end Memory

/-! ## The order of children -/

def Entry.Alike : Entry → Entry → Prop
  | .dir cs, .dir ds => cs.Perm ds
  | e, e' => e = e'

namespace Memory

/-- Two memories that differ at most in the order in which directories list their children. -/
def Alike (m m' : Memory) : Prop := ∀ k, Option.Rel Entry.Alike (m.get? k) (m'.get? k)

namespace Alike

variable {m m' : Memory} {k : Key}

theorem lists_iff (h : m.Alike m') (k : Key) (n : String) : m'.Lists k n ↔ m.Lists k n := by
  have hk := h k
  unfold Lists
  generalize m.get? k = e at hk ⊢
  generalize m'.get? k = e' at hk ⊢
  rcases hk with @⟨e, e', hentries⟩ | _
  · cases e <;> cases e' <;> simp only [Entry.Alike, reduceCtorEq] at hentries
    case dir.dir cs ds => simp [hentries.mem_iff]
    all_goals simp
  · simp

theorem solid_iff (h : m.Alike m') (k : Key) {e : Entry} (he : ∀ cs, e ≠ .dir cs) :
    m'.get? k = some e ↔ m.get? k = some e := by
  have hk := h k
  generalize m.get? k = f at hk ⊢
  generalize m'.get? k = f' at hk ⊢
  rcases hk with @⟨f, f', hentries⟩ | _
  · cases f <;> cases f' <;> simp only [Entry.Alike, reduceCtorEq] at hentries
    case dir.dir cs ds =>
      rw [Option.some_inj, Option.some_inj]
      exact iff_of_false (he ds).symm (he cs).symm
    all_goals rw [hentries]
  · rfl

theorem named (h : m.Alike m') (hm : m.Named) : m'.Named := fun k n hl => hm k n ((h.lists_iff k n).mp hl)

theorem link_free (h : m.Alike m') (hfree : m.LinkFree k) : m'.LinkFree k :=
  (LinkFree.congr (fun j _ => h.solid_iff j fun _ => Entry.noConfusion) k).mpr hfree

theorem leads_iff (h : m.Alike m') (ns : List String) : m'.Leads k ns ↔ m.Leads k ns := by
  induction ns generalizing k with
  | nil => exact exists_congr fun bytes => h.solid_iff k fun _ => Entry.noConfusion
  | cons n ns ih => exact and_congr (h.lists_iff k n) ih

theorem artifacts_eq (h : m.Alike m') (hm : m.Named) {out : Path} (hfree : m.LinkFree out.components) :
    artifacts m' out = artifacts m out := by
  obtain ⟨ts, hts, htidy, hmem⟩ := artifacts_leads hm hfree
  obtain ⟨us, hus, hutidy, humem⟩ := artifacts_leads (h.named hm) (h.link_free hfree)
  rw [hts, hus]
  refine congrArg Except.ok (hutidy.ext htidy fun t => ?_)
  rw [hmem, humem]
  simp only [h.leads_iff]
  rfl

end Alike

end Memory

/-! ## The listing -/

variable {m : Memory} {out : Path}

/-- The artifacts of a tree are exactly the files below the output directory to which no link leads, each under the
names that lead to it. -/
theorem artifacts_exact (htree : m.Tree) (habs : out.isAbsolute = true) (hfree : m.LinkFree out.components)
    (hplain : m.PlainBelow out.components) :
    ∃ ts, artifacts m out = .ok ts ∧ Tidy ts ∧
      (∀ t, t ∈ ts ↔ ∃ ns, ns ≠ [] ∧ m.FileBelow out.components ns ∧ t = (Path.ofNames ns).text) ∧
      ∀ m', m.Alike m' → artifacts m' out = .ok ts := by
  obtain ⟨ts, hts, htidy, hmem⟩ := artifacts_names htree.named hfree hplain
  refine ⟨ts, hts, htidy, fun t => (hmem t).trans ?_, fun m' h => (h.artifacts_eq htree.named hfree).trans hts⟩
  simp only [htree.leads_iff_below (Path.is_absolute_ne_nil habs)]

def linkedBundle : Memory :=
  ((Memory.new.addFile ⟨"/p/build/css/app.css"⟩ []).addLink ⟨"/p/build/latest.css"⟩
    ⟨"/p/build/css/app.css"⟩).addLink ⟨"/p/build/css/up"⟩ ⟨"/p/build"⟩

def Memory.reversed (m : Memory) : Memory :=
  ⟨m.entries.map fun x => (x.1, match x.2 with
    | .dir cs => .dir cs.reverse
    | e => e)⟩

theorem Memory.alike_reversed (m : Memory) : m.Alike m.reversed := by
  intro k
  obtain ⟨entries⟩ := m
  unfold get? reversed
  induction entries with
  | nil => exact .none
  | cons x entries ih =>
    obtain ⟨key, e⟩ := x
    rw [List.map_cons, List.lookup_cons, List.lookup_cons]
    rcases k == key with _ | _
    · exact ih
    · refine .some ?_
      cases e with
      | dir cs => exact cs.reverse_perm.symm
      | file bytes => rfl
      | link target => rfl

theorem artifacts_exact_linked :
    (linkedBundle.Tree ∧ (⟨"/p/build"⟩ : Path).isAbsolute = true ∧
        linkedBundle.LinkFree (Path.mk "/p/build").components ∧
        linkedBundle.PlainBelow (Path.mk "/p/build").components) ∧
      ∃ ts, artifacts linkedBundle ⟨"/p/build"⟩ = .ok ts ∧ ts = ["css/app.css"] ∧
        (∃ ns, linkedBundle.FileBelow (Path.mk "/p/build").components ns ∧ (Path.ofNames ns).text = "css/app.css") ∧
        artifacts linkedBundle.reversed ⟨"/p/build"⟩ = .ok ts := by
  have htree : linkedBundle.Tree := Memory.tree_of_is_tree (by decide +kernel)
  have habs : (⟨"/p/build"⟩ : Path).isAbsolute = true := by decide
  have hfree : linkedBundle.LinkFree (Path.mk "/p/build").components :=
    Memory.follow?_none.mp (by decide +kernel)
  have hplain : linkedBundle.PlainBelow (Path.mk "/p/build").components :=
    Memory.plain_below_of_has_plain_names (by decide +kernel) _
  have hlisted : artifacts linkedBundle ⟨"/p/build"⟩ = .ok ["css/app.css"] := by decide +kernel
  obtain ⟨ts, hts, -, hmem, halike⟩ := artifacts_exact htree habs hfree hplain
  obtain rfl := Except.ok.inj (hlisted.symm.trans hts)
  obtain ⟨ns, -, hbelow, htext⟩ := (hmem "css/app.css").mp (by decide)
  exact ⟨⟨htree, habs, hfree, hplain⟩, _, hts, rfl, ⟨ns, hbelow, htext.symm⟩,
    halike _ linkedBundle.alike_reversed⟩

end BundleWatch
