import Mathlib.Data.List.Induction
import FeatureDocs.Proofs.SortedStore
import FeatureDocs.Render.Page

/-!
# Merging what pages record

Writing a page records tags in the tag list and uses of step phrases in the glossary. This
module shows that recording is compatible with merging: recording a use in a merged context is
recording it in the context merged in. So recording a run of uses into a context gives the
context merged with what the uses record into an empty one.

* `GlossaryEntry.WF`, `Glossary.WF`, `TagList.WF`, `Context.WF`: the stores as they are kept;
* `GlossaryEntry.absorb_addUse`: one more use after absorbing an entry;
* `Glossary.merge_add`, `TagList.merge_register`, `Context.merge_record`: one more use after a
  merge;
* **`Context.recordAll_eq_merge`**, **`Glossary.foldl_add_eq_merge`**: a run of uses after a
  merge.
-/

namespace FeatureDocs.Render

open FeatureDocs.Data FeatureDocs.Store Std

attribute [ext] GlossaryEntry Glossary TagList Context

theorem foldl_eq_merge_foldl {β γ : Type} {merge : β → β → β} {op : β → γ → β} {e : β}
    {WF : β → Prop} (he : WF e) (hwf : ∀ d x, WF d → WF (op d x)) (hright : ∀ c, merge c e = c)
    (hop : ∀ c d x, WF c → WF d → op (merge c d) x = merge c (op d x)) {c : β} (hc : WF c)
    (xs : List γ) : xs.foldl op c = merge c (xs.foldl op e) := by
  -- what is recorded alone stays well formed
  have hrun : ∀ ys : List γ, WF (ys.foldl op e) := fun ys => by
    induction ys using List.reverseRecOn with
    | nil => exact he
    | append_singleton ys y ih =>
      rw [List.foldl_append, List.foldl_cons, List.foldl_nil]
      exact hwf _ y ih
  induction xs using List.reverseRecOn with
  | nil => exact (hright c).symm
  | append_singleton xs x ih =>
    rw [List.foldl_append, List.foldl_append, List.foldl_cons, List.foldl_nil, List.foldl_cons,
      List.foldl_nil, ih, hop c _ x hc (hrun xs)]

/-! ## Glossary entries -/

namespace GlossaryEntry

/-- An entry as the glossary keeps it: spellings sorted, files sorted by path, and lines sorted
within each file. -/
structure WF (e : GlossaryEntry) : Prop where
  names : SortedBy compareText e.names
  locations : KeysSortedBy Path.compare e.locations
  lines : ∀ p ∈ e.locations, SortedBy compare p.2

theorem locations_absorb (e other : GlossaryEntry) :
    (e.absorb other).locations =
      mergeBy Path.compare (fun d v => insertAllBy compare v d) e.locations other.locations := rfl

theorem addUse_eq_absorb_single (e : GlossaryEntry) (name stepType : String) (location : Path)
    (line : Nat) : e.addUse name stepType location line = e.absorb (single name stepType location line) :=
  rfl

theorem wf_single (name stepType : String) (location : Path) (line : Nat) :
    (single name stepType location line).WF where
  names := List.pairwise_singleton _ _
  locations := List.pairwise_singleton _ _
  lines p hp := by
    rw [List.mem_singleton.mp hp]
    exact List.pairwise_singleton _ _

theorem WF.absorb {e other : GlossaryEntry} (he : e.WF) (ho : other.WF) : (e.absorb other).WF where
  names := sortedBy_insertAllBy _ he.names
  locations := by
    rw [locations_absorb]
    exact keysSortedBy_mergeBy _ he.locations _
  lines := by
    rw [locations_absorb]
    exact forall_mergeBy he.lines ho.lines fun _ w hv _ => sortedBy_insertAllBy w hv

theorem WF.addUse {e : GlossaryEntry} (he : e.WF) (name stepType : String) (location : Path)
    (line : Nat) : (e.addUse name stepType location line).WF := by
  rw [addUse_eq_absorb_single]
  exact he.absorb (wf_single name stepType location line)

/-- One more use after absorbing an entry is absorbing the entry with that use. The spellings
and lines are unions of sets; the kind is the first one recorded; a file keeps the spelling of
its path stored first. -/
theorem absorb_addUse {e other : GlossaryEntry} (he : e.WF) (ho : other.WF) (name stepType : String)
    (location : Path) (line : Nat) :
    (e.absorb other).addUse name stepType location line =
      e.absorb (other.addUse name stepType location line) := by
  ext1
  · exact insertBy_insertAllBy name he.names
  · simp only [GlossaryEntry.addUse, GlossaryEntry.absorb]
    by_cases h₁ : e.stepType.isEmpty <;> by_cases h₂ : other.stepType.isEmpty <;> simp [h₁, h₂]
  · change upsertBy Path.compare location [line] (insertBy compare line) (e.absorb other).locations =
      (e.absorb (other.addUse name stepType location line)).locations
    rw [locations_absorb, locations_absorb]
    exact upsertBy_mergeBy (P := SortedBy compare) he.locations ho.locations he.lines ho.lines
      (fun _ _ => rfl) fun _ w hv _ => insertBy_insertAllBy line hv

end GlossaryEntry

/-! ## Glossaries -/

/-- A use of a step phrase at a line of a file, as the glossary records it. -/
structure Reference where
  name : String
  stepType : String
  location : Path
  line : Nat

namespace Glossary

/-- A glossary as it is kept: phrases sorted, each entry as it is kept. -/
structure WF (g : Glossary) : Prop where
  keys : KeysSortedBy compareText g.entries
  entries : ∀ p ∈ g.entries, p.2.WF

/-- Record a use. -/
def add (g : Glossary) (r : Reference) : Glossary :=
  g.addReference r.name r.stepType r.location r.line

theorem entries_merge (g other : Glossary) :
    (g.merge other).entries = mergeBy compareText GlossaryEntry.absorb g.entries other.entries :=
  rfl

theorem wf_empty : ({} : Glossary).WF := ⟨List.Pairwise.nil, fun _ h => absurd h List.not_mem_nil⟩

theorem WF.add {g : Glossary} (hg : g.WF) (r : Reference) : (g.add r).WF where
  keys := keysSortedBy_upsertBy _ _ _ hg.keys
  entries := forall_upsertBy hg.entries (GlossaryEntry.wf_single _ _ _ _)
    fun _ he => he.addUse _ _ _ _

theorem WF.merge {g other : Glossary} (hg : g.WF) (ho : other.WF) : (g.merge other).WF where
  keys := keysSortedBy_mergeBy _ hg.keys _
  entries := forall_mergeBy hg.entries ho.entries fun _ _ hv hw => hv.absorb hw

theorem WF.foldl_add {g : Glossary} (hg : g.WF) (refs : List Reference) :
    (refs.foldl Glossary.add g).WF := by
  induction refs generalizing g with
  | nil => exact hg
  | cons r refs ih => exact ih (hg.add r)

theorem merge_empty (g : Glossary) : g.merge {} = g := rfl

theorem empty_merge {g : Glossary} (hg : g.WF) : ({} : Glossary).merge g = g := by
  ext1
  exact mergeBy_nil_left _ hg.keys

theorem merge_add {g other : Glossary} (hg : g.WF) (ho : other.WF) (r : Reference) :
    (g.merge other).add r = g.merge (other.add r) := by
  ext1
  exact upsertBy_mergeBy (P := GlossaryEntry.WF) hg.keys ho.keys hg.entries ho.entries
    (fun _ _ => rfl) fun _ _ hv hw => GlossaryEntry.absorb_addUse hv hw _ _ _ _

/-- **Recording uses after a merge is merging the uses recorded alone.** -/
theorem foldl_add_eq_merge {g : Glossary} (hg : g.WF) (refs : List Reference) :
    refs.foldl add g = g.merge (refs.foldl add {}) :=
  foldl_eq_merge_foldl wf_empty (fun _ r hd => hd.add r) merge_empty
    (fun _ _ r hc hd => merge_add hc hd r) hg refs

end Glossary

/-! ## Tag lists -/

namespace TagList

/-- A tag list as it is kept: sorted. -/
def WF (t : TagList) : Prop := SortedBy compareText t.tags

theorem wf_empty : ({} : TagList).WF := List.Pairwise.nil

theorem WF.register {t : TagList} (ht : t.WF) (tag : String) : (t.register tag).WF :=
  sortedBy_insertBy tag ht

theorem WF.merge {t : TagList} (ht : t.WF) (other : TagList) : (t.merge other).WF :=
  sortedBy_insertAllBy _ ht

theorem merge_empty (t : TagList) : t.merge {} = t := rfl

theorem empty_merge {t : TagList} (ht : t.WF) : ({} : TagList).merge t = t := by
  ext1
  exact eq_of_mem_iff (sortedBy_insertAllBy _ List.Pairwise.nil) ht fun x => by
    simp [TagList.merge, mem_insertAllBy]

theorem merge_register {t other : TagList} (ht : t.WF) (tag : String) :
    (t.merge other).register tag = t.merge (other.register tag) := by
  ext1
  exact insertBy_insertAllBy tag ht

end TagList

/-! ## Contexts -/

/-- What writing a page records in the context: a tag, or a use of a step phrase. -/
inductive Use where
  | tag (t : String)
  | step (r : Reference)

namespace Context

/-- A context as it is kept. -/
structure WF (c : Context) : Prop where
  glossary : c.glossary.WF
  tags : c.tags.WF

/-- Record one use. -/
def record (c : Context) : Use → Context
  | .tag t => { c with tags := c.tags.register t }
  | .step r => { c with glossary := c.glossary.add r }

/-- Record uses in order. -/
def recordAll (c : Context) (uses : List Use) : Context := uses.foldl record c

theorem recordAll_append (c : Context) (u v : List Use) :
    c.recordAll (u ++ v) = (c.recordAll u).recordAll v :=
  List.foldl_append

theorem wf_empty : ({} : Context).WF := ⟨Glossary.wf_empty, TagList.wf_empty⟩

theorem WF.record {c : Context} (hc : c.WF) : ∀ u, (c.record u).WF
  | .tag t => ⟨hc.glossary, hc.tags.register t⟩
  | .step r => ⟨hc.glossary.add r, hc.tags⟩

theorem WF.recordAll {c : Context} (hc : c.WF) (uses : List Use) : (c.recordAll uses).WF := by
  induction uses generalizing c with
  | nil => exact hc
  | cons u uses ih => exact ih (hc.record u)

theorem WF.merge {c other : Context} (hc : c.WF) (ho : other.WF) : (c.merge other).WF :=
  ⟨hc.glossary.merge ho.glossary, hc.tags.merge other.tags⟩

theorem merge_empty (c : Context) : c.merge {} = c := rfl

theorem empty_merge {c : Context} (hc : c.WF) : ({} : Context).merge c = c := by
  ext1
  · exact Glossary.empty_merge hc.glossary
  · exact TagList.empty_merge hc.tags

theorem merge_record {c other : Context} (hc : c.WF) (ho : other.WF) :
    ∀ u, (c.merge other).record u = c.merge (other.record u)
  | .tag t => by
    ext1
    · rfl
    · exact TagList.merge_register hc.tags t
  | .step r => by
    ext1
    · exact Glossary.merge_add hc.glossary ho.glossary r
    · rfl

/-- **Recording uses after a merge is merging the uses recorded alone.** -/
theorem recordAll_eq_merge {c : Context} (hc : c.WF) (uses : List Use) :
    c.recordAll uses = c.merge (({} : Context).recordAll uses) :=
  foldl_eq_merge_foldl wf_empty (fun _ u hd => hd.record u) merge_empty
    (fun _ _ u hc hd => merge_record hc hd u) hc uses

end Context

end FeatureDocs.Render
