import Mathlib.Data.List.Nodup
import FeatureDocs.Proofs.ContextMerge

/-!
# The layout of a glossary

Every glossary a run builds, by recording uses and by merging such glossaries, keeps each entry
under the lowercase form of its spellings, with a spelling, a file and a line at least. So no
spelling sits under two entries, no two entries tie in the display order, and the ungrouped
glossary document lists each spelling once in its term list, in byte order, and once in the
glossary block, under its own entry, the blocks ordered by use.

* `Glossary.Reachable`: the glossaries that recording and merging build;
* `GlossaryEntry.Keyed`, `Glossary.Sound`, `Glossary.Reachable.sound`: the invariant;
* `GlossaryEntry.transCmp_displayOrder`, `GlossaryEntry.displayOrder_eq_lt_iff`: the display
  order is a total preorder, and what it puts first;
* `Glossary.render_ungrouped`: the document as its term list and its blocks;
* `Glossary.Layout`: the layout of the ungrouped document;
* **`Glossary.Reachable.layout`**: the invariant and what follows from it.
-/

namespace FeatureDocs.Render.GlossaryEntry

open Std

/-- The display order compares the number of files, then the number of uses, both from the
most, then the spellings. -/
theorem displayOrder_eq_lex :
    displayOrder = compareLex (fun a b => compareOn (fun e : GlossaryEntry => e.usage.1) b a)
      (compareLex (fun a b => compareOn (fun e : GlossaryEntry => e.usage.2) b a)
        fun a b => Data.compareLex Data.compareText a.names b.names) := by
  funext a b
  unfold displayOrder compareLex compareOn
  dsimp only
  cases compare b.usage.1 a.usage.1 <;> cases compare b.usage.2 a.usage.2 <;> rfl

instance transCmp_names :
    TransCmp fun a b : GlossaryEntry => Data.compareLex Data.compareText a.names b.names where
  eq_swap {a b} := @OrientedCmp.eq_swap _ (Data.compareLex Data.compareText) _ a.names b.names
  isLE_trans {a b c} :=
    @TransCmp.isLE_trans _ (Data.compareLex Data.compareText) _ a.names b.names c.names

/-- The display order is a total preorder. -/
instance transCmp_displayOrder : TransCmp displayOrder := by
  rw [displayOrder_eq_lex]
  infer_instance

end FeatureDocs.Render.GlossaryEntry

namespace FeatureDocs.Render

open FeatureDocs.Data FeatureDocs.Store FeatureDocs.Markup FeatureDocs.Text Std

/-! ## Reachable glossaries and their invariant -/

/-- The glossaries a run builds: the empty one, then any of them with one more use recorded, or
with another of them merged in. -/
inductive Glossary.Reachable : Glossary → Prop
  | empty : Glossary.Reachable {}
  | addReference {g : Glossary} (name stepType : String) (location : Path) (line : Nat) :
      Glossary.Reachable g → Glossary.Reachable (g.addReference name stepType location line)
  | merge {g other : Glossary} :
      Glossary.Reachable g → Glossary.Reachable other → Glossary.Reachable (g.merge other)

namespace GlossaryEntry

/-- An entry as recording keeps it under the key `k`: it has a spelling, each of its spellings
lowercases to `k`, it has a file, and each file has a line. -/
structure Keyed (k : String) (e : GlossaryEntry) : Prop where
  names_ne : e.names ≠ []
  lower_eq : ∀ n ∈ e.names, lower n = k
  locations_ne : e.locations ≠ []
  lines_ne : ∀ p ∈ e.locations, p.2 ≠ []

theorem keyed_single (name stepType : String) (location : Path) (line : Nat) :
    (single name stepType location line).Keyed (lower name) where
  names_ne := List.cons_ne_nil _ _
  lower_eq n hn := by rw [List.mem_singleton.mp hn]
  locations_ne := List.cons_ne_nil _ _
  lines_ne p hp := by
    rw [List.mem_singleton.mp hp]
    exact List.cons_ne_nil _ _

theorem Keyed.addUse {k : String} {e : GlossaryEntry} (he : e.Keyed k) {name : String}
    (hname : lower name = k) (stepType : String) (location : Path) (line : Nat) :
    (e.addUse name stepType location line).Keyed k where
  names_ne := insertBy_ne_nil _ _
  lower_eq n hn := (mem_of_mem_insertBy hn).elim (fun h => h ▸ hname) (he.lower_eq n)
  locations_ne := upsertBy_ne_nil _ _ _ _
  lines_ne := forall_upsertBy (P := fun v => v ≠ []) he.lines_ne (List.cons_ne_nil _ _)
    fun _ _ => insertBy_ne_nil _ _

theorem Keyed.absorb {k : String} {e other : GlossaryEntry} (he : e.Keyed k) (ho : other.Keyed k) :
    (e.absorb other).Keyed k where
  names_ne := insertAllBy_ne_nil _ he.names_ne
  lower_eq n hn := (mem_insertAllBy.mp hn).elim (ho.lower_eq n) (he.lower_eq n)
  locations_ne := by
    rw [locations_absorb]
    exact mergeBy_ne_nil _ he.locations_ne _
  lines_ne := by
    rw [locations_absorb]
    exact forall_mergeBy (P := fun v => v ≠ []) he.lines_ne ho.lines_ne
      fun _ w hv _ => insertAllBy_ne_nil w hv

end GlossaryEntry

namespace Glossary

/-- The invariant of the glossaries a run builds: kept as a glossary is kept, each entry keyed by
its key. -/
structure Sound (g : Glossary) : Prop where
  wf : g.WF
  keyed : ∀ p ∈ g.entries, p.2.Keyed p.1

theorem sound_empty : ({} : Glossary).Sound := ⟨wf_empty, fun _ h => absurd h List.not_mem_nil⟩

theorem Sound.addReference {g : Glossary} (hg : g.Sound) (name stepType : String)
    (location : Path) (line : Nat) : (g.addReference name stepType location line).Sound where
  wf := hg.wf.add ⟨name, stepType, location, line⟩
  keyed := forall_upsertBy_keyed hg.keyed (GlossaryEntry.keyed_single name stepType location line)
    fun p hp hk => (hg.keyed p hp).addUse (compareText_eq_eq_iff.mp hk) stepType location line

theorem Sound.merge {g other : Glossary} (hg : g.Sound) (ho : other.Sound) :
    (g.merge other).Sound where
  wf := hg.wf.merge ho.wf
  keyed := by
    rw [entries_merge]
    exact forall_mergeBy_keyed hg.keyed ho.keyed fun _ _ _ _ hk hv hw =>
      hv.absorb (compareText_eq_eq_iff.mp hk ▸ hw)

/-- **Every glossary a run builds keeps the invariant.** -/
theorem Reachable.sound {g : Glossary} (hg : g.Reachable) : g.Sound := by
  induction hg with
  | empty => exact sound_empty
  | addReference name stepType location line _ ih => exact ih.addReference name stepType location line
  | merge _ _ ihg iho => exact ihg.merge iho

section Sound

variable {g : Glossary} (hg : g.Sound)
include hg

theorem Sound.eq_of_mem_names {a b : String × GlossaryEntry} (ha : a ∈ g.entries)
    (hb : b ∈ g.entries) {n : String} (hna : n ∈ a.2.names) (hnb : n ∈ b.2.names) : a = b :=
  hg.wf.keys.eq_of_fst_eq ha hb
    (((hg.keyed a ha).lower_eq n hna).symm.trans ((hg.keyed b hb).lower_eq n hnb))

theorem Sound.names_disjoint : g.entries.Pairwise fun a b => a.2.names.Disjoint b.2.names := by
  refine hg.wf.keys.imp_of_mem fun {a b} ha hb hlt n hna hnb => ?_
  rw [hg.eq_of_mem_names ha hb hna hnb] at hlt
  exact absurd (hlt.symm.trans ReflCmp.compare_self) (by decide)

theorem Sound.eq_of_names_eq {a b : String × GlossaryEntry} (ha : a ∈ g.entries)
    (hb : b ∈ g.entries) (h : a.2.names = b.2.names) : a = b := by
  obtain ⟨n, hn⟩ := List.exists_mem_of_ne_nil _ (hg.keyed a ha).names_ne
  exact hg.eq_of_mem_names ha hb hn (h ▸ hn)

theorem Sound.eq_of_displayOrder_eq {a b : String × GlossaryEntry} (ha : a ∈ g.entries)
    (hb : b ∈ g.entries) (h : a.2.displayOrder b.2 = .eq) : a = b := by
  rw [GlossaryEntry.displayOrder_eq_lex] at h
  simp only [compareLex_eq_eq] at h
  exact hg.eq_of_names_eq ha hb (LawfulEqCmp.eq_of_compare h.2.2)

end Sound

end Glossary

/-! ## The display order -/

namespace GlossaryEntry

/-- One entry comes before another in the glossary block: it is used in more files, or in as
many files and more often, or as often and its spellings come first. -/
def Precedes (a b : GlossaryEntry) : Prop :=
  b.usage.1 < a.usage.1 ∨ b.usage.1 = a.usage.1 ∧
    (b.usage.2 < a.usage.2 ∨ b.usage.2 = a.usage.2 ∧ compareLex compareText a.names b.names = .lt)

theorem displayOrder_eq_lt_iff (a b : GlossaryEntry) : a.displayOrder b = .lt ↔ a.Precedes b := by
  unfold displayOrder Precedes
  -- split on the numbers of files, then on the numbers of uses
  rcases Nat.lt_trichotomy b.usage.1 a.usage.1 with h₁ | h₁ | h₁
  · simp [Nat.compare_eq_lt.mpr h₁, h₁]
  · rcases Nat.lt_trichotomy b.usage.2 a.usage.2 with h₂ | h₂ | h₂
    · simp [h₁, Nat.compare_eq_lt.mpr h₂, h₂]
    · simp [h₁, h₂]
    · simp [h₁, Nat.compare_eq_gt.mpr h₂, Nat.ne_of_gt h₂, Nat.not_lt_of_gt h₂]
  · simp [Nat.compare_eq_gt.mpr h₁, Nat.ne_of_gt h₁, Nat.not_lt_of_gt h₁]

end GlossaryEntry

/-! ## The ungrouped document -/

namespace Glossary

/-- The spellings of the term list of some entries: all their spellings, in byte order. -/
def termsOf (es : List GlossaryEntry) : List String :=
  es.foldl (fun acc e => insertAllBy compareText e.names acc) []

/-- The entries of the glossary block, in the display order. -/
def blocksOf (es : List GlossaryEntry) : List GlossaryEntry :=
  es.mergeSort fun a b => a.displayOrder b != .gt

/-- The line of a spelling in the term list. -/
def termLine (t : String) : String :=
  Document.fragment ("- :term:`" ++ escapeWithSlashes t ++ "`") 1 0

end Glossary

/-- The lines of an entry in the glossary block: its spellings, its files each with its lines,
and an empty line. -/
def GlossaryEntry.blockLines (e : GlossaryEntry) : List String :=
  e.names.map (fun n => Document.fragment (escapeWithSlashes n) 1 indentDepth) ++
    e.locations.map (fun p => Document.fragment
      ("| " ++ p.1.display ++ ": " ++ ", ".intercalate (p.2.map toString)) 1 (indentDepth * 2)) ++
    [Document.fragment "" 1 0]

namespace Glossary

theorem renderEntries_fragments (d : Document) (es : List GlossaryEntry) :
    (renderEntries d es).fragments = d.fragments ++ (termsOf es).map termLine ++
      [Document.fragment "" 1 0, Document.fragment ".. glossary::" 1 0] ++
      (blocksOf es).flatMap GlossaryEntry.blockLines := by
  unfold renderEntries
  dsimp only
  rw [Document.fragments_foldl _ GlossaryEntry.blockLines ?block]
  case block =>
    intro d e
    simp only [Document.blankLine, Document.add, Document.fragments_addOutput,
      Document.fragments_foldl_addOutput, GlossaryEntry.blockLines, List.append_assoc]
  simp only [Document.blankLine, Document.add, Document.fragments_addOutput,
    Document.fragments_foldl_addOutput, termsOf, blocksOf, List.append_assoc, List.cons_append,
    List.nil_append]
  rfl

/-- The spellings of a glossary's term list. -/
def terms (g : Glossary) : List String := termsOf (g.entries.map Prod.snd)

/-- The entries of a glossary's block, in the display order. -/
def blocks (g : Glossary) : List GlossaryEntry := blocksOf (g.entries.map Prod.snd)

theorem render_ungrouped (g : Glossary) (project : String) :
    g.render project false =
      if g.entries = [] then none
      else some ⟨(Document.empty.createSection 1 (project ++ " Glossary")).fragments ++
        g.terms.map termLine ++ [Document.fragment "" 1 0, Document.fragment ".. glossary::" 1 0] ++
        g.blocks.flatMap GlossaryEntry.blockLines⟩ := by
  unfold render
  by_cases h : g.entries = []
  · simp [h]
  · simp only [h, List.isEmpty_iff, if_false, Bool.false_eq_true]
    show some (Document.mk (renderEntries _ _).fragments) = _
    rw [renderEntries_fragments]
    rfl

theorem mem_foldl_insertAllBy {es : List GlossaryEntry} {acc : List String} {n : String} :
    n ∈ es.foldl (fun acc e => insertAllBy compareText e.names acc) acc ↔
      (∃ e ∈ es, n ∈ e.names) ∨ n ∈ acc := by
  induction es generalizing acc with
  | nil => simp
  | cons e es ih =>
    rw [List.foldl_cons, ih, mem_insertAllBy]
    simp only [List.mem_cons, or_and_right, exists_or, exists_eq_left]
    rw [or_assoc]
    exact or_left_comm

theorem sortedBy_foldl_insertAllBy (es : List GlossaryEntry) {acc : List String}
    (hacc : SortedBy compareText acc) :
    SortedBy compareText (es.foldl (fun acc e => insertAllBy compareText e.names acc) acc) := by
  induction es generalizing acc with
  | nil => exact hacc
  | cons e es ih => exact ih (sortedBy_insertAllBy e.names hacc)

theorem mem_terms (g : Glossary) (n : String) : n ∈ g.terms ↔ ∃ p ∈ g.entries, n ∈ p.2.names := by
  simp only [terms, termsOf, mem_foldl_insertAllBy, List.not_mem_nil, or_false, List.mem_map]
  constructor
  · rintro ⟨e, ⟨p, hp, rfl⟩, hn⟩
    exact ⟨p, hp, hn⟩
  · rintro ⟨p, hp, hn⟩
    exact ⟨p.2, ⟨p, hp, rfl⟩, hn⟩

theorem sortedBy_terms (g : Glossary) : SortedBy compareText g.terms :=
  sortedBy_foldl_insertAllBy _ List.Pairwise.nil

theorem blocks_perm (g : Glossary) : g.blocks.Perm (g.entries.map Prod.snd) :=
  List.mergeSort_perm _ _

theorem blocksOf_pairwise_ne_gt (es : List GlossaryEntry) :
    (blocksOf es).Pairwise fun a b => a.displayOrder b ≠ .gt := by
  have htrans : ∀ a b c : GlossaryEntry, (a.displayOrder b != .gt) = true →
      (b.displayOrder c != .gt) = true → (a.displayOrder c != .gt) = true := by
    intro a b c hab hbc
    simp only [bne_iff_ne, ne_eq, ← Ordering.isLE_iff_ne_gt] at *
    exact TransCmp.isLE_trans hab hbc
  have htotal : ∀ a b : GlossaryEntry,
      ((a.displayOrder b != .gt) || (b.displayOrder a != .gt)) = true := by
    intro a b
    cases h : a.displayOrder b
    · simp
    · simp
    · simp [OrientedCmp.gt_iff_lt.mp h]
  exact (List.pairwise_mergeSort htrans htotal _).imp fun h => by simpa using h

section Layout

variable {g : Glossary} (hg : g.Sound)
include hg

theorem Sound.nodup_values : (g.entries.map Prod.snd).Nodup :=
  List.pairwise_map.mpr (hg.names_disjoint.imp_of_mem fun {a _} ha _ hdis heq => by
    obtain ⟨n, hn⟩ := List.exists_mem_of_ne_nil _ (hg.keyed a ha).names_ne
    exact hdis hn (heq ▸ hn))

theorem Sound.blocksOf_pairwise {es : List GlossaryEntry}
    (hes : es.Sublist (g.entries.map Prod.snd)) : (blocksOf es).Pairwise GlossaryEntry.Precedes := by
  have hperm : (blocksOf es).Perm es := List.mergeSort_perm _ _
  have hnodup : (blocksOf es).Nodup := hperm.nodup_iff.mpr (hg.nodup_values.sublist hes)
  refine ((blocksOf_pairwise_ne_gt es).and hnodup).imp_of_mem fun {a b} ha hb hab => ?_
  obtain ⟨pa, hpa, rfl⟩ := List.mem_map.mp (hes.subset (hperm.mem_iff.mp ha))
  obtain ⟨pb, hpb, rfl⟩ := List.mem_map.mp (hes.subset (hperm.mem_iff.mp hb))
  -- the display order ties no two distinct entries
  have hne : pa.2.displayOrder pb.2 ≠ .eq := fun h =>
    hab.2 (congrArg Prod.snd (hg.eq_of_displayOrder_eq hpa hpb h))
  rw [← GlossaryEntry.displayOrder_eq_lt_iff]
  cases h : pa.2.displayOrder pb.2
  · rfl
  · exact absurd h hne
  · exact absurd h hab.1

theorem Sound.blocks_pairwise : g.blocks.Pairwise GlossaryEntry.Precedes :=
  hg.blocksOf_pairwise (List.Sublist.refl _)

theorem Sound.count_blocks {p : String × GlossaryEntry} (hp : p ∈ g.entries) {n : String}
    (hn : n ∈ p.2.names) : (g.blocks.flatMap GlossaryEntry.names).count n = 1 := by
  have hperm := (blocks_perm g).flatMap_right GlossaryEntry.names
  have hnodup : ((g.entries.map Prod.snd).flatMap GlossaryEntry.names).Nodup := by
    refine List.nodup_flatMap.mpr ⟨fun e he => ?_, List.pairwise_map.mpr hg.names_disjoint⟩
    obtain ⟨q, hq, rfl⟩ := List.mem_map.mp he
    exact (hg.wf.entries q hq).names.nodup
  refine List.count_eq_one_of_mem (hperm.nodup_iff.mpr hnodup) ?_
  exact hperm.mem_iff.mpr (List.mem_flatMap.mpr ⟨p.2, List.mem_map_of_mem hp, hn⟩)

end Layout

/-- The layout of the ungrouped document of a glossary, and the facts about its entries it rests
on. -/
structure Layout (g : Glossary) (project : String) : Prop where
  /-- Each entry is kept under the lowercase form of all its spellings, and is not empty. -/
  keyed : ∀ p ∈ g.entries, p.2.Keyed p.1
  names_disjoint : g.entries.Pairwise fun a b => a.2.names.Disjoint b.2.names
  displayOrder_trans : TransCmp GlossaryEntry.displayOrder
  /-- The display order ties no two distinct entries. -/
  eq_of_displayOrder_eq : ∀ a ∈ g.entries, ∀ b ∈ g.entries, a.2.displayOrder b.2 = .eq → a = b
  /-- The document: the title, the term list, the glossary directive and the blocks. -/
  render : g.render project false =
    if g.entries = [] then none
    else some ⟨(Document.empty.createSection 1 (project ++ " Glossary")).fragments ++
      g.terms.map termLine ++ [Document.fragment "" 1 0, Document.fragment ".. glossary::" 1 0] ++
      g.blocks.flatMap GlossaryEntry.blockLines⟩
  terms_sorted : SortedBy compareText g.terms
  mem_terms : ∀ n, n ∈ g.terms ↔ ∃ p ∈ g.entries, n ∈ p.2.names
  blocks_perm : g.blocks.Perm (g.entries.map Prod.snd)
  blocks_sorted : g.blocks.Pairwise GlossaryEntry.Precedes
  /-- Each spelling is written once in the blocks. -/
  count_blocks : ∀ p ∈ g.entries, ∀ n ∈ p.2.names,
    (g.blocks.flatMap GlossaryEntry.names).count n = 1

/-- **The layout of a glossary.** Every glossary a run builds keeps each entry under the lowercase
form of all its spellings, with a spelling, a file and a line at least. So distinct entries share
no spelling, and the display order, a total preorder, ties no two distinct entries. The ungrouped
document is the title, the term list with every spelling once in byte order, the glossary
directive, and the block of each entry: each spelling appears in the block of its own entry and
in no other, and the blocks go by most files, then most uses, then spellings, none tied. -/
theorem Reachable.layout {g : Glossary} (hg : g.Reachable) (project : String) :
    g.Layout project := by
  have hs := hg.sound
  exact ⟨hs.keyed, hs.names_disjoint, inferInstance,
    fun a ha b hb => hs.eq_of_displayOrder_eq ha hb, render_ungrouped g project, sortedBy_terms g,
    mem_terms g, blocks_perm g, hs.blocks_pairwise, fun p hp n hn => hs.count_blocks hp hn⟩

/-- Two spellings of one phrase in two files, merged with a glossary of another phrase. -/
theorem layout_two_phrases :
    let g : Glossary :=
      ((({} : Glossary).addReference "a user" "Given" ⟨"b.feature"⟩ 9).addReference "A user" "Given"
        ⟨"a.feature"⟩ 4).merge (({} : Glossary).addReference "the <thing>" "Given" ⟨"a.feature"⟩ 5)
    g.Reachable ∧ g.Layout "Demo" := by
  intro g
  have hg : g.Reachable :=
    .merge (.addReference _ _ _ _ (.addReference _ _ _ _ .empty)) (.addReference _ _ _ _ .empty)
  exact ⟨hg, hg.layout "Demo"⟩

end Glossary

end FeatureDocs.Render
