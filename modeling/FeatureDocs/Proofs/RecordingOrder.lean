import FeatureDocs.Proofs.GlossaryLayout
import FeatureDocs.Proofs.PageContext

/-!
# Recording uses in another order

A glossary records, for each phrase, the spellings of its steps and, for each file, the lines of
its uses. It also keeps the kind of the first use that has one, and each file as it was first
written. Recording the same uses in another order, or some of them more than once, gives the same
phrases, spellings, files (up to how they are written) and lines. Two things can differ: the kind
of a phrase, the first non-empty kind in the order of recording, and which of the ways of writing
a file is kept. The ungrouped document shows no kinds, so it is the same when each file is always
written one way; the grouped one is the same when, in addition, each phrase has the same first
kind in both orders.

* `Glossary.Spells`, `Glossary.UsesAt`, `Glossary.Stores`, `Glossary.kindOf`: what a glossary
  records of a phrase, with what one more use does to each (`spells_add`, `usesAt_add`,
  `stores_add`, `kindOf_add`) and what a run of uses does (`spells_foldl_add`, ...);
* `Glossary.recorded`, `Glossary.Sound.recorded_eq`: a glossary without its kinds and without the
  way its files are written, fixed by the spellings and the uses;
* `Glossary.withoutKinds`, `Glossary.render_withoutKinds`: the ungrouped document shows no kinds;
* **`Glossary.Reachable.foldl_add_same_uses`**: two runs over the same uses.
-/

namespace FeatureDocs.Render

open FeatureDocs.Data FeatureDocs.Store FeatureDocs.Text Std

theorem map_eq_map_of_map_eq {α β γ : Type} {f : α → β} {g : α → γ} {l₁ l₂ : List α}
    (h : l₁.map f = l₂.map f) (hfg : ∀ a ∈ l₁, ∀ b ∈ l₂, f a = f b → g a = g b) :
    l₁.map g = l₂.map g := by
  induction l₁ generalizing l₂ with
  | nil =>
    cases l₂ with
    | nil => rfl
    | cons b l₂ => cases h
  | cons a l₁ ih =>
    cases l₂ with
    | nil => cases h
    | cons b l₂ =>
      simp only [List.map_cons, List.cons.injEq] at h ⊢
      exact ⟨hfg a List.mem_cons_self b List.mem_cons_self h.1, ih h.2 fun a' ha b' hb =>
        hfg a' (List.mem_cons_of_mem a ha) b' (List.mem_cons_of_mem b hb)⟩

/-! ## Uses and kinds -/

/-- What a use says of itself to the glossary, its kind left out: the spelling, the file by its
components, and the line. -/
def Reference.use (r : Reference) : String × List Component × Nat :=
  (r.name, r.location.components, r.line)

/-- The kind of the first of some uses of the phrase `k` that has a kind. -/
def firstKind (refs : List Reference) (k : String) : Option String :=
  (refs.find? fun r => lower r.name = k ∧ r.stepType ≠ "").map Reference.stepType

theorem firstKind_nil (k : String) : firstKind [] k = none := rfl

theorem firstKind_cons (r : Reference) (refs : List Reference) (k : String) :
    firstKind (r :: refs) k =
      if lower r.name = k ∧ r.stepType ≠ "" then some r.stepType else firstKind refs k := by
  unfold firstKind
  rw [List.find?_cons]
  split <;> simp_all

/-! ## What an entry records -/

namespace GlossaryEntry

/-- The entry records a use at a line of the file `P`, however that file is written. -/
def UsesAt (e : GlossaryEntry) (P : Path) (line : Nat) : Prop :=
  ∃ q ∈ e.locations, Path.compare P q.1 = .eq ∧ line ∈ q.2

/-- The files of an entry by their components, each with its lines. -/
def fileLines (e : GlossaryEntry) : List (List Component × List Nat) :=
  e.locations.map fun q => (q.1.components, q.2)

/-- The entry with its kind cleared. -/
def withoutKind (e : GlossaryEntry) : GlossaryEntry := { e with stepType := "" }

theorem displayOrder_withoutKind (a b : GlossaryEntry) :
    a.withoutKind.displayOrder b.withoutKind = a.displayOrder b := rfl

theorem blockLines_withoutKind (e : GlossaryEntry) : e.withoutKind.blockLines = e.blockLines := rfl

theorem locations_addUse (e : GlossaryEntry) (name stepType : String) (location : Path)
    (line : Nat) :
    (e.addUse name stepType location line).locations =
      upsertBy Path.compare location [line] (insertBy compare line) e.locations := rfl

theorem usesAt_single {name stepType : String} {location P : Path} {line l : Nat} :
    (single name stepType location line).UsesAt P l ↔ Path.compare P location = .eq ∧ l = line := by
  simp [UsesAt, single]

theorem WF.usesAt_iff_findKey {e : GlossaryEntry} (he : e.WF) {P : Path} {l : Nat} :
    e.UsesAt P l ↔ ∃ q, findKey Path.compare P e.locations = some q ∧ l ∈ q.2 := by
  simp only [UsesAt, findKey_eq_some_iff he.locations, and_assoc]

theorem WF.usesAt_iff {e : GlossaryEntry} (he : e.WF) {q : Path × List Nat} (hq : q ∈ e.locations)
    {P : Path} (hP : Path.compare P q.1 = .eq) {l : Nat} : e.UsesAt P l ↔ l ∈ q.2 := by
  constructor
  · rintro ⟨q', hq', hP', hl⟩
    -- two stored files equal to `P` are one
    have hqq : q = q' :=
      he.locations.eq_of_compare_eq hq hq' (TransCmp.eq_trans (OrientedCmp.eq_symm hP) hP')
    exact hqq ▸ hl
  · exact fun hl => ⟨q, hq, hP, hl⟩

theorem WF.usesAt_addUse {e : GlossaryEntry} (he : e.WF) (name stepType : String)
    (location : Path) (line : Nat) {P : Path} {l : Nat} :
    (e.addUse name stepType location line).UsesAt P l ↔
      e.UsesAt P l ∨ Path.compare P location = .eq ∧ l = line := by
  rw [(he.addUse name stepType location line).usesAt_iff_findKey, he.usesAt_iff_findKey,
    locations_addUse]
  by_cases hP : Path.compare P location = .eq
  · rw [findKey_upsertBy_of_eq hP _ _ he.locations, findKey_congr hP]
    cases findKey Path.compare location e.locations with
    | none => simp [upsertFound, hP]
    | some q => simp [upsertFound, mem_insertBy, hP, or_comm]
  · rw [findKey_upsertBy_of_ne hP]
    simp [hP]

theorem mem_fileLines_of_usesAt_iff {e₁ e₂ : GlossaryEntry} (h₁ : e₁.WF) (h₂ : e₂.WF)
    (hne : ∀ q ∈ e₁.locations, q.2 ≠ []) (h : ∀ P l, e₁.UsesAt P l ↔ e₂.UsesAt P l)
    {x : List Component × List Nat} (hx : x ∈ e₁.fileLines) : x ∈ e₂.fileLines := by
  obtain ⟨q₁, hq₁, rfl⟩ := List.mem_map.mp hx
  -- a line of the file `q₁` is a use, so the other entry stores a file equal to it
  obtain ⟨l, hl⟩ := List.exists_mem_of_ne_nil _ (hne q₁ hq₁)
  obtain ⟨q₂, hq₂, hc, -⟩ := (h q₁.1 l).mp ⟨q₁, hq₁, ReflCmp.compare_self, hl⟩
  have hlines : q₁.2 = q₂.2 := eq_of_mem_iff (h₁.lines q₁ hq₁) (h₂.lines q₂ hq₂) fun l' => by
    rw [← h₁.usesAt_iff hq₁ ReflCmp.compare_self, h q₁.1 l', h₂.usesAt_iff hq₂ hc]
  refine List.mem_map.mpr ⟨q₂, hq₂, ?_⟩
  rw [Path.compare_eq_eq_iff.mp hc, hlines]

theorem WF.keysSortedBy_fileLines {e : GlossaryEntry} (he : e.WF) :
    KeysSortedBy compareComponents e.fileLines :=
  List.pairwise_map.mpr he.locations

theorem fileLines_eq_of_usesAt_iff {e₁ e₂ : GlossaryEntry} (h₁ : e₁.WF) (h₂ : e₂.WF)
    (hne₁ : ∀ q ∈ e₁.locations, q.2 ≠ []) (hne₂ : ∀ q ∈ e₂.locations, q.2 ≠ [])
    (h : ∀ P l, e₁.UsesAt P l ↔ e₂.UsesAt P l) : e₁.fileLines = e₂.fileLines :=
  eq_of_keysSortedBy_of_mem_iff h₁.keysSortedBy_fileLines h₂.keysSortedBy_fileLines fun _ =>
    ⟨mem_fileLines_of_usesAt_iff h₁ h₂ hne₁ h,
      mem_fileLines_of_usesAt_iff h₂ h₁ hne₂ fun P l => (h P l).symm⟩

theorem withoutKind_eq {e₁ e₂ : GlossaryEntry} (hnames : e₁.names = e₂.names)
    (hfiles : e₁.fileLines = e₂.fileLines)
    (hpaths : ∀ q₁ ∈ e₁.locations, ∀ q₂ ∈ e₂.locations,
      q₁.1.components = q₂.1.components → q₁.1 = q₂.1) :
    e₁.withoutKind = e₂.withoutKind := by
  have hlocations : e₁.locations.map id = e₂.locations.map id :=
    map_eq_map_of_map_eq hfiles fun q₁ hq₁ q₂ hq₂ hq => by
      simp only [Prod.mk.injEq] at hq
      exact Prod.ext (hpaths q₁ hq₁ q₂ hq₂ hq.1) hq.2
  rw [List.map_id, List.map_id] at hlocations
  simp [withoutKind, hnames, hlocations]

end GlossaryEntry

/-! ## What a glossary records -/

namespace Glossary

/-- The entry of a phrase. -/
def entry (g : Glossary) (k : String) : Option GlossaryEntry :=
  (findKey compareText k g.entries).map Prod.snd

/-- The kind of a phrase: the kind of its entry, or empty without one. -/
def kindOf (g : Glossary) (k : String) : String :=
  ((g.entry k).map GlossaryEntry.stepType).getD ""

/-- The glossary records the spelling `n` of the phrase `k`. -/
def Spells (g : Glossary) (k n : String) : Prop :=
  ∃ e, (k, e) ∈ g.entries ∧ n ∈ e.names

/-- The glossary records a use of the phrase `k` at a line of the file `P`. -/
def UsesAt (g : Glossary) (k : String) (P : Path) (line : Nat) : Prop :=
  ∃ e, (k, e) ∈ g.entries ∧ e.UsesAt P line

/-- The glossary keeps the path `P`, as it is written, among the files of the phrase `k`. -/
def Stores (g : Glossary) (k : String) (P : Path) : Prop :=
  ∃ e, (k, e) ∈ g.entries ∧ P ∈ e.locations.map Prod.fst

section Views

variable {g : Glossary} (hg : g.WF)
include hg

theorem mem_entries_iff {k : String} {e : GlossaryEntry} :
    (k, e) ∈ g.entries ↔ g.entry k = some e := by
  rw [entry, Option.map_eq_some_iff]
  constructor
  · exact fun h => ⟨(k, e), (findKey_eq_some_iff hg.keys).mpr ⟨h, ReflCmp.compare_self⟩, rfl⟩
  · rintro ⟨q, hq, rfl⟩
    obtain ⟨hmem, hk⟩ := (findKey_eq_some_iff hg.keys).mp hq
    rwa [compareText_eq_eq_iff.mp hk]

theorem WF.of_entry {k : String} {e : GlossaryEntry} (he : g.entry k = some e) : e.WF :=
  hg.entries (k, e) ((mem_entries_iff hg).mpr he)

theorem entry_add (r : Reference) (k : String) :
    (g.add r).entry k =
      if k = lower r.name then
        some ((g.entry k).elim (GlossaryEntry.single r.name r.stepType r.location r.line)
          fun e => e.addUse r.name r.stepType r.location r.line)
      else g.entry k := by
  rw [entry, entries_add]
  split
  · next hk =>
    subst hk
    rw [findKey_upsertBy_of_eq ReflCmp.compare_self _ _ hg.keys, entry]
    cases findKey compareText (lower r.name) g.entries <;> rfl
  · next hk =>
    rw [findKey_upsertBy_of_ne fun h => hk (compareText_eq_eq_iff.mp h), entry]

/-- A phrase takes the kind of a use when it has none yet. -/
theorem kindOf_add (r : Reference) (k : String) :
    (g.add r).kindOf k =
      if k = lower r.name ∧ g.kindOf k = "" then r.stepType else g.kindOf k := by
  unfold kindOf
  rw [entry_add hg]
  by_cases hk : k = lower r.name
  · cases g.entry k with
    | none => simp [hk, GlossaryEntry.single]
    | some e => simp [hk, GlossaryEntry.stepType_addUse]
  · simp [hk]

theorem spells_iff {k n : String} : g.Spells k n ↔ ∃ e, g.entry k = some e ∧ n ∈ e.names := by
  simp only [Spells, mem_entries_iff hg]

theorem usesAt_iff {k : String} {P : Path} {l : Nat} :
    g.UsesAt k P l ↔ ∃ e, g.entry k = some e ∧ e.UsesAt P l := by
  simp only [UsesAt, mem_entries_iff hg]

theorem stores_iff {k : String} {P : Path} :
    g.Stores k P ↔ ∃ e, g.entry k = some e ∧ P ∈ e.locations.map Prod.fst := by
  simp only [Stores, mem_entries_iff hg]

theorem spells_add (r : Reference) {k n : String} :
    (g.add r).Spells k n ↔ g.Spells k n ∨ k = lower r.name ∧ n = r.name := by
  rw [spells_iff (hg.add r), spells_iff hg, entry_add hg]
  by_cases hk : k = lower r.name
  · subst hk
    cases g.entry (lower r.name) with
    | none => simp [GlossaryEntry.single]
    | some e => simp [GlossaryEntry.addUse, mem_insertBy, or_comm]
  · simp [hk]

/-- A use adds its line at its file to its phrase. -/
theorem usesAt_add (r : Reference) {k : String} {P : Path} {l : Nat} :
    (g.add r).UsesAt k P l ↔
      g.UsesAt k P l ∨ k = lower r.name ∧ Path.compare P r.location = .eq ∧ l = r.line := by
  rw [usesAt_iff (hg.add r), usesAt_iff hg, entry_add hg]
  by_cases hk : k = lower r.name
  · subst hk
    cases he : g.entry (lower r.name) with
    | none => simp [GlossaryEntry.usesAt_single]
    | some e => simp [(hg.of_entry he).usesAt_addUse]
  · simp [hk]

/-- A path kept after a use was kept before, or is the use's own. -/
theorem stores_add (r : Reference) {k : String} {P : Path} (h : (g.add r).Stores k P) :
    g.Stores k P ∨ P = r.location := by
  rw [stores_iff (hg.add r), entry_add hg] at h
  rw [stores_iff hg]
  split at h
  · obtain ⟨e', he', hP⟩ := h
    cases he : g.entry k with
    | none =>
      rw [he, Option.elim_none, Option.some.injEq] at he'
      subst he'
      simpa [GlossaryEntry.single] using hP
    | some e =>
      rw [he, Option.elim_some, Option.some.injEq] at he'
      subst he'
      exact (mem_keys_upsertBy hP).symm.imp (fun hP => ⟨e, rfl, hP⟩) id
  · exact .inl h

theorem Stores.add {k : String} {P : Path} (h : g.Stores k P) (r : Reference) :
    (g.add r).Stores k P := by
  obtain ⟨e, he, hP⟩ := (stores_iff hg).mp h
  rw [stores_iff (hg.add r), entry_add hg]
  split
  · rw [he]
    exact ⟨_, rfl, mem_keys_upsertBy_of_mem _ _ _ hP⟩
  · exact ⟨e, he, hP⟩

theorem Stores.eq_of_components_eq {k : String} {P Q : Path} (hP : g.Stores k P)
    (hQ : g.Stores k Q) (h : P.components = Q.components) : P = Q := by
  obtain ⟨e, he, hPm⟩ := hP
  obtain ⟨e', he', hQm⟩ := hQ
  obtain rfl : e = e' := (Prod.mk.inj (hg.keys.eq_of_fst_eq he he' rfl)).2
  obtain ⟨qP, hqP, rfl⟩ := List.mem_map.mp hPm
  obtain ⟨qQ, hqQ, rfl⟩ := List.mem_map.mp hQm
  rw [(hg.entries _ he).locations.eq_of_compare_eq hqP hqQ (Path.compare_eq_eq_iff.mpr h)]

end Views

/-! ## Runs of uses -/

section Runs

variable {g : Glossary} (hg : g.WF)
include hg

theorem foldl_add_iff {R : Glossary → Prop} {S : Reference → Prop}
    (hstep : ∀ {g : Glossary}, g.WF → ∀ r, R (g.add r) ↔ R g ∨ S r) (refs : List Reference) :
    R (refs.foldl add g) ↔ R g ∨ ∃ r ∈ refs, S r := by
  induction refs generalizing g with
  | nil => simp
  | cons r refs ih =>
    rw [List.foldl_cons, ih (hg.add r), hstep hg r]
    simp only [List.mem_cons, or_and_right, exists_or, exists_eq_left, or_assoc]

theorem spells_foldl_add (refs : List Reference) {k n : String} :
    (refs.foldl add g).Spells k n ↔ g.Spells k n ∨ ∃ r ∈ refs, k = lower r.name ∧ n = r.name :=
  foldl_add_iff (R := fun g => g.Spells k n) hg (fun hg r => spells_add hg r) refs

theorem usesAt_foldl_add (refs : List Reference) {k : String} {P : Path} {l : Nat} :
    (refs.foldl add g).UsesAt k P l ↔ g.UsesAt k P l ∨
      ∃ r ∈ refs, k = lower r.name ∧ Path.compare P r.location = .eq ∧ l = r.line :=
  foldl_add_iff (R := fun g => g.UsesAt k P l) hg (fun hg r => usesAt_add hg r) refs

theorem stores_foldl_add (refs : List Reference) {k : String} {P : Path}
    (h : (refs.foldl add g).Stores k P) : g.Stores k P ∨ ∃ r ∈ refs, P = r.location := by
  induction refs generalizing g with
  | nil => exact .inl h
  | cons r refs ih =>
    rcases ih (hg.add r) h with h | ⟨r', hr', rfl⟩
    · rcases stores_add hg r h with h | rfl
      · exact .inl h
      · exact .inr ⟨r, List.mem_cons_self, rfl⟩
    · exact .inr ⟨r', List.mem_cons_of_mem r hr', rfl⟩

theorem Stores.foldl_add {k : String} {P : Path} (h : g.Stores k P) (refs : List Reference) :
    (refs.foldl Glossary.add g).Stores k P := by
  induction refs generalizing g with
  | nil => exact h
  | cons r refs ih => exact ih (hg.add r) (h.add hg r)

theorem kindOf_foldl_add (refs : List Reference) (k : String) :
    (refs.foldl add g).kindOf k =
      if g.kindOf k = "" then (firstKind refs k).getD "" else g.kindOf k := by
  induction refs generalizing g with
  | nil => by_cases h : g.kindOf k = "" <;> simp [h, firstKind_nil]
  | cons r refs ih =>
    rw [List.foldl_cons, ih (hg.add r), kindOf_add hg, firstKind_cons]
    by_cases hk : lower r.name = k
    · subst hk
      by_cases h : g.kindOf (lower r.name) = "" <;> by_cases hs : r.stepType = "" <;> simp [h, hs]
    · simp [hk, Ne.symm hk]

end Runs

theorem Reachable.foldl_add {g : Glossary} (hg : g.Reachable) (refs : List Reference) :
    (refs.foldl add g).Reachable := by
  induction refs generalizing g with
  | nil => exact hg
  | cons r refs ih => exact ih (.addReference r.name r.stepType r.location r.line hg)

/-! ## A glossary without its kinds and the way its files are written -/

/-- What a glossary records, its kinds and the way its files are written left out: for each
phrase, its spellings and its files by their components, each with its lines. -/
def recorded (g : Glossary) : List (String × List String × List (List Component × List Nat)) :=
  g.entries.map fun p => (p.1, p.2.names, p.2.fileLines)

theorem WF.keysSortedBy_recorded {g : Glossary} (hg : g.WF) :
    KeysSortedBy compareText g.recorded :=
  List.pairwise_map.mpr hg.keys

theorem spells_iff_of_mem {g : Glossary} (hg : g.WF) {k : String} {e : GlossaryEntry}
    (he : (k, e) ∈ g.entries) {n : String} : g.Spells k n ↔ n ∈ e.names := by
  simp [spells_iff hg, (mem_entries_iff hg).mp he]

theorem usesAt_iff_of_mem {g : Glossary} (hg : g.WF) {k : String} {e : GlossaryEntry}
    (he : (k, e) ∈ g.entries) {P : Path} {l : Nat} : g.UsesAt k P l ↔ e.UsesAt P l := by
  simp [usesAt_iff hg, (mem_entries_iff hg).mp he]

section Recorded

variable {g₁ g₂ : Glossary} (h₁ : g₁.Sound) (h₂ : g₂.Sound)
  (hspells : ∀ k n, g₁.Spells k n ↔ g₂.Spells k n)
  (huses : ∀ k P l, g₁.UsesAt k P l ↔ g₂.UsesAt k P l)
include h₁ h₂ hspells huses

theorem mem_recorded_of_same {x : String × List String × List (List Component × List Nat)}
    (hx : x ∈ g₁.recorded) : x ∈ g₂.recorded := by
  obtain ⟨⟨k, e₁⟩, he₁, rfl⟩ := List.mem_map.mp hx
  -- the entry has a spelling, so the other glossary has an entry for the same phrase
  obtain ⟨n, hn⟩ := List.exists_mem_of_ne_nil _ (h₁.keyed _ he₁).names_ne
  obtain ⟨e₂, he₂, -⟩ := (hspells k n).mp ⟨e₁, he₁, hn⟩
  have hw₁ : e₁.WF := h₁.wf.entries _ he₁
  have hw₂ : e₂.WF := h₂.wf.entries _ he₂
  have hnames : e₁.names = e₂.names := eq_of_mem_iff hw₁.names hw₂.names fun n' => by
    rw [← spells_iff_of_mem h₁.wf he₁, hspells, spells_iff_of_mem h₂.wf he₂]
  have hfiles : e₁.fileLines = e₂.fileLines :=
    GlossaryEntry.fileLines_eq_of_usesAt_iff hw₁ hw₂ (h₁.keyed _ he₁).lines_ne
      (h₂.keyed _ he₂).lines_ne fun P l => by
        rw [← usesAt_iff_of_mem h₁.wf he₁, huses, usesAt_iff_of_mem h₂.wf he₂]
  exact List.mem_map.mpr ⟨(k, e₂), he₂, by simp only [hnames, hfiles]⟩

theorem Sound.recorded_eq : g₁.recorded = g₂.recorded :=
  eq_of_keysSortedBy_of_mem_iff h₁.wf.keysSortedBy_recorded h₂.wf.keysSortedBy_recorded fun _ =>
    ⟨mem_recorded_of_same h₁ h₂ hspells huses,
      mem_recorded_of_same h₂ h₁ (fun k n => (hspells k n).symm) fun k P l => (huses k P l).symm⟩

end Recorded

/-! ## The ungrouped document does not show kinds -/

/-- The glossary with the kind of every entry cleared. -/
def withoutKinds (g : Glossary) : Glossary := ⟨g.entries.map fun p => (p.1, p.2.withoutKind)⟩

theorem termsOf_map_withoutKind (es : List GlossaryEntry) :
    termsOf (es.map GlossaryEntry.withoutKind) = termsOf es := by
  rw [termsOf, termsOf, List.foldl_map]
  rfl

theorem blocksOf_map_withoutKind (es : List GlossaryEntry) :
    blocksOf (es.map GlossaryEntry.withoutKind) = (blocksOf es).map GlossaryEntry.withoutKind :=
  (List.map_mergeSort (l := es) (f := GlossaryEntry.withoutKind) fun a _ b _ => by
    rw [GlossaryEntry.displayOrder_withoutKind]).symm

theorem render_withoutKinds (g : Glossary) (project : String) :
    g.withoutKinds.render project false = g.render project false := by
  have hsnd : g.withoutKinds.entries.map Prod.snd =
      (g.entries.map Prod.snd).map GlossaryEntry.withoutKind := by
    simp [withoutKinds]
  have hnil : g.withoutKinds.entries = [] ↔ g.entries = [] := List.map_eq_nil_iff
  have hterms : g.withoutKinds.terms = g.terms := by
    rw [terms, terms, hsnd, termsOf_map_withoutKind]
  have hblocks : g.withoutKinds.blocks.flatMap GlossaryEntry.blockLines =
      g.blocks.flatMap GlossaryEntry.blockLines := by
    rw [blocks, blocks, hsnd, blocksOf_map_withoutKind, List.flatMap_map]
    simp only [GlossaryEntry.blockLines_withoutKind]
  rw [render_ungrouped, render_ungrouped]
  simp only [hnil, hterms, hblocks]

theorem withoutKinds_eq_of_recorded_eq {g₁ g₂ : Glossary} (hrec : g₁.recorded = g₂.recorded)
    (hpaths : ∀ k P Q, g₁.Stores k P → g₂.Stores k Q → P.components = Q.components → P = Q) :
    g₁.withoutKinds = g₂.withoutKinds := by
  unfold withoutKinds
  congr 1
  refine map_eq_map_of_map_eq hrec fun a ha b hb hab => ?_
  obtain ⟨k, e₁⟩ := a
  obtain ⟨k', e₂⟩ := b
  simp only [Prod.mk.injEq] at hab
  obtain ⟨rfl, hnames, hfiles⟩ := hab
  refine congrArg (Prod.mk k) (GlossaryEntry.withoutKind_eq hnames hfiles fun q₁ hq₁ q₂ hq₂ => ?_)
  exact hpaths k q₁.1 q₂.1 ⟨e₁, ha, List.mem_map_of_mem hq₁⟩ ⟨e₂, hb, List.mem_map_of_mem hq₂⟩

theorem eq_of_withoutKinds_eq {g₁ g₂ : Glossary} (h₁ : g₁.WF) (h₂ : g₂.WF)
    (hwk : g₁.withoutKinds = g₂.withoutKinds) (hkinds : ∀ k, g₁.kindOf k = g₂.kindOf k) :
    g₁ = g₂ := by
  have hentries : g₁.entries.map id = g₂.entries.map id := by
    refine map_eq_map_of_map_eq (congrArg Glossary.entries hwk) fun a ha b hb hab => ?_
    obtain ⟨k, e₁⟩ := a
    obtain ⟨k', e₂⟩ := b
    simp only [Prod.mk.injEq] at hab
    obtain ⟨rfl, he⟩ := hab
    -- the kind of an entry is the kind of its phrase
    have hkind : e₁.stepType = e₂.stepType := by
      simpa [kindOf, (mem_entries_iff h₁).mp ha, (mem_entries_iff h₂).mp hb] using hkinds k
    have hnames : e₁.withoutKind.names = e₂.withoutKind.names := congrArg GlossaryEntry.names he
    have hlocations : e₁.withoutKind.locations = e₂.withoutKind.locations :=
      congrArg GlossaryEntry.locations he
    rw [@GlossaryEntry.ext e₁ e₂ hnames hkind hlocations]
  rw [List.map_id, List.map_id] at hentries
  exact Glossary.ext hentries

/-! ## Two runs over the same uses -/

section SameUses

variable {refs₁ refs₂ : List Reference}
  (huses : ∀ u, u ∈ refs₁.map Reference.use ↔ u ∈ refs₂.map Reference.use)
include huses

theorem exists_mem_use_iff (p : String × List Component × Nat → Prop) :
    (∃ r ∈ refs₁, p r.use) ↔ ∃ r ∈ refs₂, p r.use := by
  have hsub : ∀ {A B : List Reference},
      (∀ u, u ∈ A.map Reference.use → u ∈ B.map Reference.use) →
      (∃ r ∈ A, p r.use) → ∃ r ∈ B, p r.use := by
    rintro A B hAB ⟨r, hr, hp⟩
    obtain ⟨r', hr', he⟩ := List.mem_map.mp (hAB _ (List.mem_map_of_mem hr))
    exact ⟨r', hr', he ▸ hp⟩
  exact ⟨hsub fun u => (huses u).mp, hsub fun u => (huses u).mpr⟩

theorem spells_foldl_add_iff {g : Glossary} (hg : g.WF) (k n : String) :
    (refs₁.foldl add g).Spells k n ↔ (refs₂.foldl add g).Spells k n := by
  rw [spells_foldl_add hg, spells_foldl_add hg]
  exact or_congr_right (exists_mem_use_iff huses fun u => k = lower u.1 ∧ n = u.1)

theorem usesAt_foldl_add_iff {g : Glossary} (hg : g.WF) (k : String) (P : Path) (l : Nat) :
    (refs₁.foldl add g).UsesAt k P l ↔ (refs₂.foldl add g).UsesAt k P l := by
  rw [usesAt_foldl_add hg, usesAt_foldl_add hg]
  exact or_congr_right (exists_mem_use_iff huses fun u =>
    k = lower u.1 ∧ compareComponents P.components u.2.1 = .eq ∧ l = u.2.2)

end SameUses

theorem stores_foldl_add_eq {g : Glossary} (hg : g.WF) {refs₁ refs₂ : List Reference}
    (hsame : ∀ r ∈ refs₁, ∀ r' ∈ refs₂,
      r.location.components = r'.location.components → r.location = r'.location)
    {k : String} {P Q : Path} (hP : (refs₁.foldl add g).Stores k P)
    (hQ : (refs₂.foldl add g).Stores k Q) (h : P.components = Q.components) : P = Q := by
  rcases stores_foldl_add hg refs₁ hP with hP₀ | ⟨r, hr, rfl⟩
  · -- a path kept from the start is kept by the other run as well
    exact (hP₀.foldl_add hg refs₂).eq_of_components_eq (hg.foldl_add refs₂) hQ h
  rcases stores_foldl_add hg refs₂ hQ with hQ₀ | ⟨r', hr', rfl⟩
  · exact hP.eq_of_components_eq (hg.foldl_add refs₁) (hQ₀.foldl_add hg refs₁) h
  · exact hsame r hr r' hr' h

/-- **Recording the same uses in another order.** Two runs that record the same uses, each any
number of times and in any order, from a glossary a run builds, record the same phrases,
spellings, files (by their components) and lines. The kind of a phrase is its kind from the start
or, without one, the first kind that the run gives it. When the two runs write each file the same
way, their ungrouped documents are equal; when in addition each phrase has the same first kind in
both, the glossaries are equal, and so are their grouped documents. -/
theorem Reachable.foldl_add_same_uses {g : Glossary} (hg : g.Reachable)
    {refs₁ refs₂ : List Reference}
    (huses : ∀ u, u ∈ refs₁.map Reference.use ↔ u ∈ refs₂.map Reference.use) (project : String) :
    (refs₁.foldl add g).recorded = (refs₂.foldl add g).recorded ∧
    (∀ k, (refs₁.foldl add g).kindOf k =
      if g.kindOf k = "" then (firstKind refs₁ k).getD "" else g.kindOf k) ∧
    (∀ k, (refs₂.foldl add g).kindOf k =
      if g.kindOf k = "" then (firstKind refs₂ k).getD "" else g.kindOf k) ∧
    ((∀ r ∈ refs₁, ∀ r' ∈ refs₂,
        r.location.components = r'.location.components → r.location = r'.location) →
      (refs₁.foldl add g).render project false = (refs₂.foldl add g).render project false ∧
      ((∀ k, firstKind refs₁ k = firstKind refs₂ k) →
        refs₁.foldl add g = refs₂.foldl add g ∧
        (refs₁.foldl add g).render project true = (refs₂.foldl add g).render project true)) := by
  have hs := hg.sound
  have h₁ := (hg.foldl_add refs₁).sound
  have h₂ := (hg.foldl_add refs₂).sound
  have hrec : (refs₁.foldl add g).recorded = (refs₂.foldl add g).recorded :=
    h₁.recorded_eq h₂ (spells_foldl_add_iff huses hs.wf) (usesAt_foldl_add_iff huses hs.wf)
  refine ⟨hrec, kindOf_foldl_add hs.wf refs₁, kindOf_foldl_add hs.wf refs₂, fun hsame => ?_⟩
  have hwk : (refs₁.foldl add g).withoutKinds = (refs₂.foldl add g).withoutKinds :=
    withoutKinds_eq_of_recorded_eq hrec fun _ _ _ => stores_foldl_add_eq hs.wf hsame
  refine ⟨by rw [← render_withoutKinds, hwk, render_withoutKinds], fun hfirst => ?_⟩
  have heq : refs₁.foldl add g = refs₂.foldl add g :=
    eq_of_withoutKinds_eq h₁.wf h₂.wf hwk fun k => by
      rw [kindOf_foldl_add hs.wf, kindOf_foldl_add hs.wf, hfirst]
  exact ⟨heq, by rw [heq]⟩

/-- A use recorded once before and once after another, the first time without a kind, gives the
glossary of the two uses recorded once each. -/
theorem foldl_add_repeated_use :
    let refs₁ : List Reference :=
      [⟨"A user logs in", "Given", ⟨"login.feature"⟩, 3⟩,
        ⟨"a user logs in", "When", ⟨"admin.feature"⟩, 7⟩]
    let refs₂ : List Reference :=
      [⟨"a user logs in", "", ⟨"admin.feature"⟩, 7⟩,
        ⟨"A user logs in", "Given", ⟨"login.feature"⟩, 3⟩,
        ⟨"a user logs in", "When", ⟨"admin.feature"⟩, 7⟩]
    (∀ u, u ∈ refs₁.map Reference.use ↔ u ∈ refs₂.map Reference.use) ∧
    (∀ r ∈ refs₁, ∀ r' ∈ refs₂,
      r.location.components = r'.location.components → r.location = r'.location) ∧
    (∀ k, firstKind refs₁ k = firstKind refs₂ k) ∧
    refs₁.foldl add {} = refs₂.foldl add {} := by
  intro refs₁ refs₂
  have huses : ∀ u, u ∈ refs₁.map Reference.use ↔ u ∈ refs₂.map Reference.use := by
    intro u
    simp only [refs₁, refs₂, List.map_cons, List.map_nil, List.mem_cons, List.not_mem_nil,
      or_false]
    constructor
    · rintro (rfl | rfl) <;> simp [Reference.use]
    · rintro (rfl | rfl | rfl) <;> simp [Reference.use]
  have hsame : ∀ r ∈ refs₁, ∀ r' ∈ refs₂,
      r.location.components = r'.location.components → r.location = r'.location := by
    decide +kernel
  have hfirst : ∀ k, firstKind refs₁ k = firstKind refs₂ k := by
    intro k
    simp [refs₁, refs₂, firstKind_cons]
  exact ⟨huses, hsame, hfirst,
    (((Reachable.foldl_add_same_uses .empty huses "Shop").2.2.2 hsame).2 hfirst).1⟩

end Glossary

end FeatureDocs.Render
