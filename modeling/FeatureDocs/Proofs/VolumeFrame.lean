import FeatureDocs.Markup.Write
import FeatureDocs.Proofs.VolumeTree

/-!
# What writes leave in place

On a volume without symbolic links a walk goes from name to name, so what a path reads depends
only on the entries at its prefixes, and writing a file or making a directory sets one entry.
Two volumes that agree on the entries above and below a directory therefore read alike inside
it, and setting an entry away from it keeps that agreement.

* `Volume.Linkless`, `lookup_set`: volumes without links, and setting one entry;
* `walk_linkless`, `isDir_path_iff`: a walk over names goes through directories;
* `walk_congr`, `walk_eq_of_lookup`: walks over entries that agree;
* `Volume.SameTree`, `SameTree.resolve_eq`, `SameTree.readFile_eq`: volumes that agree about a
  directory read alike below it, and `SameTree.set_of_ne_dir` keeps the agreement;
* `copyFile_eq_ok`, `Document.writeTo_eq_ok`: a copy and the write of a document are file writes.
-/

namespace FeatureDocs.Store

open FeatureDocs.Data

/-- The node is a symbolic link. -/
def Node.isLink : Node → Bool
  | .link _ => true
  | _ => false

namespace Volume

/-! ## Volumes without links -/

/-- A volume without symbolic links. -/
def Linkless (v : Volume) : Prop := ∀ e ∈ v.entries, e.2.isLink = false

instance decidableLinkless (v : Volume) : Decidable v.Linkless :=
  inferInstanceAs (Decidable (∀ e ∈ v.entries, e.2.isLink = false))

variable {v w : Volume}

theorem Linkless.lookup_ne (h : v.Linkless) (l : Location) (t : String) :
    v.lookup l ≠ some (.link t) := by
  intro hl
  by_cases hne : l = []
  · subst hne
    simp [lookup] at hl
  · have hk : l.isEmpty = false := by simpa using hne
    rw [lookup, hk, if_neg Bool.false_ne_true] at hl
    obtain ⟨l₁, l₂, hsplit, -⟩ := List.lookup_eq_some_iff.mp hl
    have := h (l, .link t) (by rw [hsplit]; simp)
    simp [Node.isLink] at this

theorem lookup_filter_ne {entries : List (Location × Node)} {k l : Location} (h : k ≠ l) :
    (entries.filter fun e => e.1 != l).lookup k = entries.lookup k := by
  induction entries with
  | nil => rfl
  | cons e rest ih =>
    obtain ⟨k', n⟩ := e
    by_cases hk' : k' = l
    · subst hk'
      have hne : (k == k') = false := by simpa using h
      simp [List.lookup_cons, hne, ih]
    · simp only [List.filter_cons, bne_iff_ne, ne_eq, hk', not_false_eq_true, if_true,
        List.lookup_cons]
      split <;> simp_all

theorem lookup_set {k : Location} (hk : k ≠ []) (l : Location) (n : Node) :
    (v.set l n).lookup k = if k = l then some n else v.lookup k := by
  have he : k.isEmpty = false := by simpa using hk
  simp only [lookup, set, he, Bool.false_eq_true, if_false, List.lookup_cons]
  by_cases hkl : k = l
  · simp [hkl]
  · have hb : (k == l) = false := by simpa using hkl
    simp [hkl, hb, lookup_filter_ne hkl]

theorem Linkless.set (h : v.Linkless) (l : Location) {n : Node} (hn : n.isLink = false) :
    (v.set l n).Linkless := by
  intro e he
  rcases List.mem_cons.mp he with rfl | he
  · exact hn
  · exact h e (List.mem_filter.mp he).1

theorem IsTree.set (h : v.IsTree) {l : Location} (hl : ValidLocation l) (n : Node) :
    (v.set l n).IsTree where
  nodup := by
    show (((l, n) :: v.entries.filter fun e => e.1 != l).map Prod.fst).Nodup
    rw [List.map_cons, List.nodup_cons]
    refine ⟨fun hmem => ?_, (List.filter_sublist.map Prod.fst).nodup h.nodup⟩
    -- the entries kept are those at other locations
    obtain ⟨e, he, heq⟩ := List.mem_map.mp hmem
    have := (List.mem_filter.mp he).2
    simp [heq] at this
  valid e he := by
    rcases List.mem_cons.mp he with rfl | he
    · exact hl
    · exact h.valid e (List.mem_filter.mp he).1
  cwd_valid := h.cwd_valid

/-! ## Walks over names -/

theorem eq_nil_of_prefix_singleton {q : Location} {name : String} (hq : q <+: [name])
    (hne : q ≠ [name]) : q = [] := by
  rcases List.prefix_cons_iff.mp hq with rfl | ⟨t, rfl, ht⟩
  · rfl
  · exact absurd (by rw [List.prefix_nil.mp ht]) hne

/-- In a volume without links, a walk over names that succeeds passes through directories and
ends at its last name, which holds what the walk found there or is missing. -/
theorem walk_linkless (h : v.Linkless) {follow : Bool} {b : Nat} {l : Location}
    (hl : ValidLocation l) (hne : l ≠ []) {cur : Location} {f : Found}
    (hf : v.walk follow b cur l = .ok f) :
    (∀ q, q <+: l → q ≠ l → q ≠ [] → v.lookup (cur ++ q) = some .dir) ∧
      ((∃ n, f = .entry (cur ++ l) n ∧ v.lookup (cur ++ l) = some n) ∨
        (f = .missing (cur ++ l) ∧ v.lookup (cur ++ l) = none)) := by
  induction l generalizing cur with
  | nil => exact absurd rfl hne
  | cons name rest ih =>
    have hn : ValidName name := hl name List.mem_cons_self
    have hrest : ValidLocation rest := fun m hm => hl m (List.mem_cons_of_mem _ hm)
    -- a walk that ends at its first name passes no directory on the way
    have hlast : rest = [] → ∀ q, q <+: name :: rest → q ≠ name :: rest → q ≠ [] →
        v.lookup (cur ++ q) = some .dir := by
      rintro rfl q hq hql hq0
      exact absurd (eq_nil_of_prefix_singleton hq hql) hq0
    rw [walk_name follow b rest hn.ne_dot hn.ne_dotdot] at hf
    cases hlk : v.lookup (cur ++ [name]) with
    | none =>
      simp only [hlk] at hf
      split at hf
      · next hempty =>
        -- the missing name is the last one
        obtain rfl : rest = [] := List.isEmpty_iff.mp hempty
        cases hf
        exact ⟨hlast rfl, .inr ⟨rfl, hlk⟩⟩
      · cases hf
    | some node =>
      cases node with
      | dir =>
        simp only [hlk] at hf
        by_cases hr : rest = []
        · subst hr
          rw [walk_nil] at hf
          cases hf
          exact ⟨hlast rfl, .inl ⟨.dir, rfl, hlk⟩⟩
        · -- the walk goes on below the directory
          obtain ⟨hdirs, hend⟩ := ih hrest hr hf
          simp only [List.append_assoc, List.singleton_append] at hdirs hend
          refine ⟨fun q hq hql hq0 => ?_, hend⟩
          rcases List.prefix_cons_iff.mp hq with rfl | ⟨t, rfl, ht⟩
          · exact absurd rfl hq0
          · by_cases ht0 : t = []
            · subst ht0
              exact hlk
            · have := hdirs t ht (fun e => hql (by rw [e])) ht0
              simpa using this
      | file text =>
        simp only [hlk] at hf
        split at hf
        · next hempty =>
          obtain rfl : rest = [] := List.isEmpty_iff.mp hempty
          cases hf
          exact ⟨hlast rfl, .inl ⟨.file text, rfl, hlk⟩⟩
        · cases hf
      | link t => exact absurd hlk (h.lookup_ne _ t)

/-- A walk over names reads only the entries at its prefixes: volumes that agree there, with no
link among them, walk alike. -/
theorem walk_congr {follow : Bool} {b : Nat} {l : Location} (hl : ValidLocation l) {cur : Location}
    (heq : ∀ q, q <+: l → q ≠ [] → v.lookup (cur ++ q) = w.lookup (cur ++ q))
    (hlink : ∀ q, q <+: l → q ≠ [] → ∀ t, v.lookup (cur ++ q) ≠ some (.link t)) :
    v.walk follow b cur l = w.walk follow b cur l := by
  induction l generalizing cur with
  | nil => rw [walk_nil, walk_nil]
  | cons name rest ih =>
    have hn : ValidName name := hl name List.mem_cons_self
    have hrest : ValidLocation rest := fun m hm => hl m (List.mem_cons_of_mem _ hm)
    have hfirst := heq [name] (by simp) (by simp)
    rw [walk_name follow b rest hn.ne_dot hn.ne_dotdot,
      walk_name follow b rest hn.ne_dot hn.ne_dotdot, ← hfirst]
    cases hlk : v.lookup (cur ++ [name]) with
    | none => rfl
    | some node =>
      cases node with
      | dir =>
        -- below the directory the prefixes are those of the rest
        refine ih hrest (fun q hq hq0 => ?_) (fun q hq hq0 => ?_)
        · simpa using heq (name :: q) (by simpa using hq) (by simp)
        · simpa using hlink (name :: q) (by simpa using hq) (by simp)
      | file text => rfl
      | link t => exact absurd hlk (hlink [name] (by simp) (by simp) t)

/-- A walk reads nothing but entries: volumes with the same entries walk alike. -/
theorem walk_eq_of_lookup (h : ∀ l, v.lookup l = w.lookup l) {follow : Bool} {b : Nat}
    {cur : Location} {steps : List String} :
    v.walk follow b cur steps = w.walk follow b cur steps := by
  -- a link goes on with less budget, so the budget is the outer induction
  induction b using Nat.strong_induction_on generalizing cur steps with
  | _ b ihb =>
  induction steps generalizing cur with
  | nil => rw [walk_nil, walk_nil]
  | cons name rest ih =>
    by_cases h1 : name = "."
    · subst h1
      rw [walk_dot, walk_dot]
      exact ih
    by_cases h2 : name = ".."
    · subst h2
      rw [walk_dotdot, walk_dotdot]
      exact ih
    rw [walk_name follow b rest h1 h2, walk_name follow b rest h1 h2, ← h]
    cases v.lookup (cur ++ [name]) with
    | none => rfl
    | some node =>
      cases node with
      | dir => exact ih
      | file text => rfl
      | link t =>
        cases b with
        | zero => rfl
        | succ b => simp only [ihb b (Nat.lt_succ_self b)]

/-- In a volume without links, the path of a location names a directory exactly when the location
and every location above it are directories. -/
theorem isDir_path_iff (h : v.Linkless) {l : Location} (hl : ValidLocation l) :
    v.isDir (Location.path l) = true ↔ ∀ q, q <+: l → v.lookup q = some .dir := by
  constructor
  · intro hd q hq
    by_cases hq0 : q = []
    · subst hq0
      rfl
    have hne : l ≠ [] := fun e => hq0 (List.prefix_nil.mp (e ▸ hq))
    simp only [isDir, metadata, resolve_path hl] at hd
    cases hw : v.walk true linkBudget [] l with
    | error e => simp [hw] at hd
    | ok f =>
      obtain ⟨hdirs, hend⟩ := walk_linkless h hl hne hw
      simp only [List.nil_append] at hdirs hend
      by_cases hql : q = l
      · -- the walk ends at the location itself, which is a directory
        subst hql
        rcases hend with ⟨n, rfl, hn⟩ | ⟨rfl, -⟩
        · cases n <;> simp_all
        · simp [hw] at hd
      · exact hdirs q hq hql hq0
  · intro hd
    exact isDir_path_of_dirs hl fun q hq => hd q ((List.mem_inits q l).mp hq)

/-! ## Volumes that agree about a directory -/

/-- The volumes hold the same entries at `names`, above it and below it: all that a walk to a
location below `names` reads. -/
def SameTree (names : Location) (v w : Volume) : Prop :=
  ∀ l, (names <+: l ∨ l <+: names) → v.lookup l = w.lookup l

namespace SameTree

variable {names : Location}

theorem refl (names : Location) (v : Volume) : SameTree names v v := fun _ _ => rfl

theorem symm (h : SameTree names v w) : SameTree names w v := fun l hl => (h l hl).symm

theorem trans {u : Volume} (h₁ : SameTree names u v) (h₂ : SameTree names v w) :
    SameTree names u w := fun l hl => (h₁ l hl).trans (h₂ l hl)

theorem resolve_eq (h : SameTree names v w) (hv : v.Linkless) {X : Location}
    (hX : ValidLocation X) (hin : names <+: X) (follow : Bool) :
    v.resolve (Location.path X) follow = w.resolve (Location.path X) follow := by
  rw [resolve_path hX, resolve_path hX]
  refine walk_congr hX (fun q hq _ => ?_) (fun q _ _ t => by simpa using hv.lookup_ne q t)
  simpa using h q (List.prefix_or_prefix_of_prefix hin hq)

theorem metadata_eq (h : SameTree names v w) (hv : v.Linkless) {X : Location}
    (hX : ValidLocation X) (hin : names <+: X) :
    v.metadata (Location.path X) = w.metadata (Location.path X) := by
  simp only [metadata, h.resolve_eq hv hX hin]

theorem readFile_eq (h : SameTree names v w) (hv : v.Linkless) {X : Location}
    (hX : ValidLocation X) (hin : names <+: X) :
    v.readFile (Location.path X) = w.readFile (Location.path X) := by
  simp only [readFile, h.metadata_eq hv hX hin]

theorem isFile_eq (h : SameTree names v w) (hv : v.Linkless) {X : Location}
    (hX : ValidLocation X) (hin : names <+: X) :
    v.isFile (Location.path X) = w.isFile (Location.path X) := by
  simp only [isFile, h.metadata_eq hv hX hin]

/-- Setting an entry that is not a directory, at a location whose parent is not below `names`,
keeps the agreement with a volume where `names` and everything above it are directories: such a
location is neither above `names` nor below it. -/
theorem set_of_ne_dir (h : SameTree names v w) (hdir : ∀ q, q <+: names → w.lookup q = some .dir)
    {l : Location} (hl : v.lookup l ≠ some .dir) (hout : ¬ names <+: l.dropLast) (n : Node) :
    SameTree names (v.set l n) w := by
  have hl0 : l ≠ [] := fun e => hl (by rw [e]; rfl)
  intro k hk
  by_cases hk0 : k = []
  · subst hk0
    rfl
  rw [lookup_set hk0]
  by_cases hkl : k = l
  · -- `l` would be `names` or above it, where both volumes hold directories
    subst hkl
    refine absurd ?_ hl
    rw [h k hk]
    rcases hk with hk | hk
    · have hsplit := List.dropLast_append_getLast hl0
      rw [← hsplit] at hk
      rcases List.prefix_concat_iff.mp hk with e | e
      · rw [← hsplit, ← e]
        exact hdir names List.prefix_rfl
      · exact absurd e hout
    · exact hdir k hk
  · rw [if_neg hkl]
    exact h k hk

end SameTree

/-! ## Copies -/

theorem copyFile_eq_ok {src dst : Path} {v' : Volume} :
    v.copyFile src dst = .ok v' ↔
      ∃ t, v.metadata src = .ok (.file t) ∧ v.writeFile dst t = .ok v' := by
  unfold copyFile
  split <;> simp_all

/-! ## Volumes with the same entries -/

theorem lookup_set_ne {k l : Location} (hkl : k ≠ l) (n : Node) :
    (v.set l n).lookup k = v.lookup k := by
  by_cases hk : k = []
  · subst hk
    rfl
  · rw [lookup_set hk, if_neg hkl]

theorem resolve_eq_of_lookup (hcwd : v.cwd = w.cwd) (h : ∀ l, v.lookup l = w.lookup l) (p : Path)
    (follow : Bool) : v.resolve p follow = w.resolve p follow := by
  simp only [resolve, hcwd, walk_eq_of_lookup h]

theorem readFile_eq_of_lookup (hcwd : v.cwd = w.cwd) (h : ∀ l, v.lookup l = w.lookup l) (p : Path) :
    v.readFile p = w.readFile p := by
  simp only [readFile, metadata, resolve_eq_of_lookup hcwd h]

theorem metadata_of_readFile {p : Path} {t : String} (h : v.readFile p = .ok t) :
    v.metadata p = .ok (.file t) := by
  unfold readFile at h
  split at h
  · cases h
    assumption
  · cases h
  · cases h

end Volume

end FeatureDocs.Store

namespace FeatureDocs.Markup

open FeatureDocs.Store

/-- Writing a document leaves a file that holds its text alone, and otherwise writes the file. -/
theorem Document.writeTo_eq_ok {d : Document} {v v' : Volume} {p : Path} {o : WriteOutcome} :
    d.writeTo v p = .ok (o, v') ↔
      (v.readFile p = .ok d.text ∧ o = .unchanged ∧ v' = v) ∨
        (v.readFile p ≠ .ok d.text ∧ o = .written ∧ v.writeFile p d.text = .ok v') := by
  unfold Document.writeTo
  -- a write that is made reports it, whatever the file held
  have hwrite : (v.writeFile p d.text).map (WriteOutcome.written, ·) = .ok (o, v') ↔
      o = .written ∧ v.writeFile p d.text = .ok v' := by
    cases v.writeFile p d.text with
    | error e => simp [Except.map]
    | ok v₁ =>
      simp only [Except.map, Except.ok.injEq, Prod.mk.injEq]
      exact ⟨fun h => ⟨h.1.symm, h.2⟩, fun h => ⟨h.1.symm, h.2⟩⟩
  cases hr : v.readFile p with
  | ok existing =>
    by_cases he : existing = d.text
    · subst he
      simp only [beq_self_eq_true, if_true, Except.ok.injEq, Prod.mk.injEq, ne_eq,
        not_true_eq_false, false_and, or_false, true_and]
      exact ⟨fun h => ⟨h.1.symm, h.2.symm⟩, fun h => ⟨h.1.symm, h.2.symm⟩⟩
    · simp [he, hwrite]
  | error e => simp [hwrite]

end FeatureDocs.Markup
