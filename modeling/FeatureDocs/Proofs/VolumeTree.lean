import Mathlib.Data.List.Nodup
import Mathlib.Data.List.Infix
import Mathlib.Data.List.Perm.Subperm
import FeatureDocs.Proofs.Compare
import FeatureDocs.Proofs.Locations

/-!
# Volumes that hold a directory tree

A volume value can hold things no file system holds: two entries at one location, or names with
a separator in them. `Volume.IsTree` rules these out. On such a volume a walk that reaches a
directory goes on from it as from a fresh start, the path of a location below a directory leads
to that location, and the entries of a directory are its children, listed once each in the order
of their names.

* `Volume.IsTree`;
* `walk_nil`, `walk_dot`, `walk_dotdot`, `walk_dir`, `walk_link`: one step of a walk;
* **`walk_append`**: a walk that reaches a directory continues from it;
* `walk_of_dirs`: a walk over names that are all directories;
* `isDir_path`, `isDir_path_of_dirs`, `linkMetadata_path_concat`, `isFile_path_concat`,
  `readDir_path_concat`: the entry at a location, read through its path;
* `mem_children`, `children_pairwise`: the entries of a directory.
-/

namespace FeatureDocs.Store

open FeatureDocs.Data

/-- A volume that holds a directory tree as a file system does: no two entries at one location,
and every name, of an entry or of the working directory, one that a directory can hold. -/
structure Volume.IsTree (v : Volume) : Prop where
  nodup : (v.entries.map Prod.fst).Nodup
  valid : ∀ e ∈ v.entries, ValidLocation e.1
  cwd_valid : ValidLocation v.cwd

instance (v : Volume) : Decidable v.IsTree :=
  decidable_of_iff ((v.entries.map Prod.fst).Nodup ∧ (∀ e ∈ v.entries, ValidLocation e.1) ∧
      ValidLocation v.cwd)
    ⟨fun ⟨h₁, h₂, h₃⟩ => ⟨h₁, h₂, h₃⟩, fun h => ⟨h.1, h.2, h.3⟩⟩

namespace Volume

/-! ## One step of a walk -/

section Step

variable (v : Volume) (follow : Bool) (b : Nat) (cur : Location)

theorem walk_nil : v.walk follow b cur [] = .ok (.entry cur .dir) := by
  cases b <;> rfl

theorem walk_dot (rest : List String) : v.walk follow b cur ("." :: rest) = v.walk follow b cur rest := by
  cases b <;> rfl

theorem walk_dotdot (rest : List String) :
    v.walk follow b cur (".." :: rest) = v.walk follow b cur.dropLast rest := by
  cases b <;> rfl

variable {v cur} {name : String} (rest : List String)

/-- A name step of a walk reads the entry at the name; only a link looks at the budget. -/
theorem walk_name (h1 : name ≠ ".") (h2 : name ≠ "..") :
    v.walk follow b cur (name :: rest) =
      match v.lookup (cur ++ [name]) with
      | none => if rest.isEmpty then .ok (.missing (cur ++ [name])) else .error .notFound
      | some .dir => v.walk follow b (cur ++ [name]) rest
      | some (.file t) =>
        if rest.isEmpty then .ok (.entry (cur ++ [name]) (.file t)) else .error .notADirectory
      | some (.link t) =>
        if rest.isEmpty && !follow then .ok (.entry (cur ++ [name]) (.link t))
        else match b with
          | 0 => .error .tooManyLinks
          | b' + 1 => v.walk follow b' (if t.startsWith "/" then [] else cur) (walkSteps t ++ rest) := by
  -- the side conditions of the name case are the two hypotheses
  cases b <;> rw [walk, walkWith] <;> first | rfl | exact h1 | exact h2

theorem walk_none (h1 : name ≠ ".") (h2 : name ≠ "..") (hl : v.lookup (cur ++ [name]) = none) :
    v.walk follow b cur (name :: rest) =
      if rest.isEmpty then .ok (.missing (cur ++ [name])) else .error .notFound := by
  rw [walk_name follow b rest h1 h2, hl]

theorem walk_dir (h1 : name ≠ ".") (h2 : name ≠ "..") (hl : v.lookup (cur ++ [name]) = some .dir) :
    v.walk follow b cur (name :: rest) = v.walk follow b (cur ++ [name]) rest := by
  rw [walk_name follow b rest h1 h2, hl]

theorem walk_file {t : String} (h1 : name ≠ ".") (h2 : name ≠ "..")
    (hl : v.lookup (cur ++ [name]) = some (.file t)) :
    v.walk follow b cur (name :: rest) =
      if rest.isEmpty then .ok (.entry (cur ++ [name]) (.file t)) else .error .notADirectory := by
  rw [walk_name follow b rest h1 h2, hl]

theorem walk_link {t : String} (h1 : name ≠ ".") (h2 : name ≠ "..")
    (hl : v.lookup (cur ++ [name]) = some (.link t)) :
    v.walk follow b cur (name :: rest) =
      if rest.isEmpty && !follow then .ok (.entry (cur ++ [name]) (.link t))
      else match b with
        | 0 => .error .tooManyLinks
        | b' + 1 => v.walk follow b' (if t.startsWith "/" then [] else cur) (walkSteps t ++ rest) := by
  rw [walk_name follow b rest h1 h2, hl]

end Step

/-! ## Walks through a directory -/

/-- A walk that reaches a directory and has steps left goes on from that directory, with at most
the budget it started with. -/
theorem walk_append {v : Volume} {b : Nat} {cur l : Location} {steps : List String}
    (h : v.walk true b cur steps = .ok (.entry l .dir)) {rest : List String} (hrest : rest ≠ [])
    (follow : Bool) : ∃ b' ≤ b, v.walk follow b cur (steps ++ rest) = v.walk follow b' l rest := by
  -- the walk is followed step by step; the only step whose outcome depends on what comes after
  -- it is the last one, and a last step that ends at a directory does not look at it. A link
  -- goes on with less budget, so the budget is the outer induction and the steps the inner one
  induction b using Nat.strong_induction_on generalizing cur steps with
  | _ b ihb =>
  induction steps generalizing cur with
  | nil =>
    rw [walk_nil] at h
    cases h
    exact ⟨b, Nat.le_refl b, rfl⟩
  | cons name steps ih =>
    by_cases h1 : name = "."
    · subst h1
      rw [walk_dot] at h
      rw [List.cons_append, walk_dot]
      exact ih h
    by_cases h2 : name = ".."
    · subst h2
      rw [walk_dotdot] at h
      rw [List.cons_append, walk_dotdot]
      exact ih h
    rw [walk_name true b steps h1 h2] at h
    rw [List.cons_append, walk_name follow b (steps ++ rest) h1 h2]
    cases hl : v.lookup (cur ++ [name]) with
    | none =>
      simp only [hl] at h
      split at h <;> simp at h
    | some node =>
      cases node with
      | dir =>
        simp only [hl] at h
        exact ih h
      | file t =>
        simp only [hl] at h
        split at h <;> simp at h
      | link t =>
        simp only [hl] at h
        -- the link is followed with one link less, to a walk that ends at the directory
        have hne : ((steps ++ rest).isEmpty && !follow) = false := by simp [hrest]
        simp only [Bool.not_true, Bool.and_false, Bool.false_eq_true, if_false, hne] at h ⊢
        cases b with
        | zero => cases h
        | succ b =>
          obtain ⟨b', hb', hwalk⟩ := ihb b (Nat.lt_succ_self b) h
          refine ⟨b', Nat.le_succ_of_le hb', ?_⟩
          rw [← List.append_assoc]
          exact hwalk

theorem walk_append_of_dirs {v : Volume} {follow : Bool} {b : Nat} {l : Location}
    (hl : ValidLocation l) {cur : Location}
    (h : ∀ q, q <+: l → q ≠ [] → v.lookup (cur ++ q) = some .dir) (rest : List String) :
    v.walk follow b cur (l ++ rest) = v.walk follow b (cur ++ l) rest := by
  induction l generalizing cur with
  | nil => rw [List.nil_append, List.append_nil]
  | cons name l ih =>
    have hn : ValidName name := hl name List.mem_cons_self
    have hrest : ValidLocation l := fun m hm => hl m (List.mem_cons_of_mem _ hm)
    rw [List.cons_append,
      walk_dir follow b (l ++ rest) hn.ne_dot hn.ne_dotdot (h [name] (by simp) (by simp))]
    have hbelow : v.walk follow b (cur ++ [name]) (l ++ rest) =
        v.walk follow b (cur ++ [name] ++ l) rest :=
      ih hrest fun q hq _ => by simpa using h (name :: q) (by simpa using hq) (by simp)
    simpa using hbelow

theorem walk_of_dirs {v : Volume} {follow : Bool} {b : Nat} {l : Location} (hl : ValidLocation l)
    {cur : Location} (h : ∀ q, q <+: l → q ≠ [] → v.lookup (cur ++ q) = some .dir) :
    v.walk follow b cur l = .ok (.entry (cur ++ l) .dir) := by
  have hwalk : v.walk follow b cur (l ++ []) = v.walk follow b (cur ++ l) [] :=
    walk_append_of_dirs hl h []
  rw [List.append_nil] at hwalk
  rw [hwalk, walk_nil]

/-! ## The path of a location -/

theorem resolve_path {l : Location} (hl : ValidLocation l) (v : Volume) (follow : Bool) :
    v.resolve (Location.path l) follow = v.walk follow linkBudget [] l := by
  have htext : (Location.path l).text.isEmpty = false := by simp [Location.path]
  rw [resolve, htext, isAbsolute_path, walkSteps_path hl]
  rfl

theorem isDir_path {l L : Location} (hl : ValidLocation l) {v : Volume}
    (h : v.walk true linkBudget [] l = .ok (.entry L .dir)) : v.isDir (Location.path l) = true := by
  simp only [isDir, metadata, resolve_path hl, h]

theorem isFile_path {l L : Location} (hl : ValidLocation l) {v : Volume} {t : String}
    (h : v.walk true linkBudget [] l = .ok (.entry L (.file t))) :
    v.isFile (Location.path l) = true := by
  simp only [isFile, metadata, resolve_path hl, h]

theorem isDir_path_of_dirs {l : Location} (hl : ValidLocation l) {v : Volume}
    (h : ∀ q ∈ l.inits, v.lookup q = some .dir) : v.isDir (Location.path l) = true :=
  isDir_path hl (walk_of_dirs hl fun q hq _ => by simpa using h q ((List.mem_inits q l).mpr hq))

section Below

/- Throughout, `X` is a valid location whose path a walk follows to the directory at `L`, and `n`
is a valid name: the path of `X ++ [n]` is then read at `L ++ [n]`. -/
variable {v : Volume} {X L : Location} (hX : ValidLocation X)
  (hwalk : v.walk true linkBudget [] X = .ok (.entry L .dir)) {n : String} (hn : ValidName n)
include hX hwalk hn

theorem walk_path_concat (follow : Bool) :
    ∃ b ≤ linkBudget, v.resolve (Location.path (X ++ [n])) follow = v.walk follow b L [n] := by
  rw [resolve_path (hX.append (.singleton hn))]
  exact walk_append hwalk (List.cons_ne_nil n []) follow

/-- Below a directory, a name whose path names a directory without following a link is a
directory entry there. -/
theorem linkMetadata_path_concat :
    v.linkMetadata (Location.path (X ++ [n])) = .ok .dir ↔ v.lookup (L ++ [n]) = some .dir := by
  obtain ⟨b, -, hres⟩ := walk_path_concat hX hwalk hn false
  rw [linkMetadata, hres]
  cases hl : v.lookup (L ++ [n]) with
  | none => simp [walk_none _ _ _ hn.ne_dot hn.ne_dotdot hl]
  | some node =>
    cases node with
    | dir => simp [walk_dir _ _ _ hn.ne_dot hn.ne_dotdot hl, walk_nil]
    | file t => simp [walk_file _ _ _ hn.ne_dot hn.ne_dotdot hl]
    | link t => simp [walk_link _ _ _ hn.ne_dot hn.ne_dotdot hl]

theorem readDir_path_concat (hd : v.lookup (L ++ [n]) = some .dir) :
    v.walk true linkBudget [] (X ++ [n]) = .ok (.entry (L ++ [n]) .dir) ∧
      v.readDir (Location.path (X ++ [n])) = .ok (L ++ [n], v.children (L ++ [n])) := by
  obtain ⟨b, -, hres⟩ := walk_path_concat hX hwalk hn true
  have hstep : v.walk true b L [n] = .ok (.entry (L ++ [n]) .dir) := by
    rw [walk_dir _ _ _ hn.ne_dot hn.ne_dotdot hd, walk_nil]
  rw [resolve_path (hX.append (.singleton hn)), hstep] at hres
  refine ⟨hres, ?_⟩
  rw [readDir, resolve_path (hX.append (.singleton hn)), hres]

/-- Below a directory, a name whose path names a file, links followed, is an entry there that is
not a directory. -/
theorem isFile_path_concat (h : v.isFile (Location.path (X ++ [n])) = true) :
    ∃ node, v.lookup (L ++ [n]) = some node ∧ node ≠ .dir := by
  obtain ⟨b, -, hres⟩ := walk_path_concat hX hwalk hn true
  unfold isFile metadata at h
  rw [hres] at h
  cases hl : v.lookup (L ++ [n]) with
  | none => simp [walk_none _ _ _ hn.ne_dot hn.ne_dotdot hl] at h
  | some node =>
    refine ⟨node, rfl, ?_⟩
    rintro rfl
    simp [walk_dir _ _ _ hn.ne_dot hn.ne_dotdot hl, walk_nil] at h

end Below

/-! ## The entries of a directory -/

theorem mem_children {v : Volume} {l : Location} {name : String} {node : Node} :
    (name, node) ∈ v.children l ↔ (l ++ [name], node) ∈ v.entries := by
  simp only [children, List.mem_mergeSort, List.mem_filterMap]
  constructor
  · rintro ⟨⟨k, n⟩, hk, hsome⟩
    simp only [Bool.and_eq_true, beq_iff_eq] at hsome
    split at hsome
    · next hcond =>
      obtain ⟨hdrop, hlen⟩ := hcond
      obtain ⟨last, hlast, hpair⟩ := Option.map_eq_some_iff.mp hsome
      cases hpair
      have hk' : k = l ++ [name] := by
        rw [← hdrop]
        exact (List.dropLast_append_getLast? name hlast).symm
      rw [← hk']
      exact hk
    · cases hsome
  · intro h
    exact ⟨(l ++ [name], node), h, by simp⟩

theorem lookup_concat_iff {v : Volume} (hv : v.IsTree) {l : Location} {name : String}
    {node : Node} : v.lookup (l ++ [name]) = some node ↔ (l ++ [name], node) ∈ v.entries := by
  have hne : (l ++ [name]).isEmpty = false := by simp
  rw [lookup, hne, if_neg Bool.false_ne_true]
  constructor
  · intro h
    obtain ⟨l₁, l₂, hsplit, -⟩ := List.lookup_eq_some_iff.mp h
    rw [hsplit]
    simp
  · intro h
    cases hfound : v.entries.lookup (l ++ [name]) with
    | none =>
      have := (List.lookup_eq_none_iff.mp hfound) _ h
      simp at this
    | some node' =>
      obtain ⟨l₁, l₂, hsplit, -⟩ := List.lookup_eq_some_iff.mp hfound
      have h' : (l ++ [name], node') ∈ v.entries := by rw [hsplit]; simp
      have := List.inj_on_of_nodup_map hv.nodup h' h rfl
      rw [Prod.mk.injEq] at this
      rw [this.2]

theorem validName_of_mem_children {v : Volume} (hv : v.IsTree) {l : Location} {name : String}
    {node : Node} (h : (name, node) ∈ v.children l) : ValidName name :=
  hv.valid _ (mem_children.mp h) name (by simp)

theorem children_sorted (v : Volume) (l : Location) :
    (v.children l).Pairwise (fun a b => (compareText a.1 b.1 != .gt) = true) := by
  refine List.pairwise_mergeSort (fun a b c hab hbc => ?_) (fun a b => ?_) _
  · simp only [bne_iff_ne, ne_eq] at *
    exact Std.TransCmp.le_trans hab hbc
  · simp only [bne_iff_ne, ne_eq, Bool.or_eq_true]
    rcases h : compareText a.1 b.1
    · exact .inl (by simp)
    · exact .inl (by simp)
    · exact .inr (by rw [Std.OrientedCmp.gt_iff_lt.mp h]; simp)

theorem nodup_children_names {v : Volume} (hv : v.IsTree) (l : Location) :
    ((v.children l).map Prod.fst).Nodup := by
  -- the names are the last names of locations one level below `l`
  let last : Location → Option String := fun k =>
    if k.dropLast == l && k.length == l.length + 1 then k.getLast? else none
  rw [children, ((List.mergeSort_perm _ _).map Prod.fst).nodup_iff, List.map_filterMap,
    List.filterMap_congr (g := last ∘ Prod.fst) fun e _ => ?_, ← List.filterMap_map]
  · refine hv.nodup.filterMap fun k k' name hk hk' => ?_
    simp only [last, Bool.and_eq_true, beq_iff_eq] at hk hk'
    split at hk <;> split at hk' <;> simp only [Option.mem_def, reduceCtorEq] at hk hk'
    next hc hc' =>
      rw [← List.dropLast_append_getLast? name hk, ← List.dropLast_append_getLast? name hk', hc.1,
        hc'.1]
  · obtain ⟨k, n⟩ := e
    simp only [Function.comp_apply, last]
    split_ifs <;> simp [Function.comp_def]

theorem children_pairwise {v : Volume} (hv : v.IsTree) (l : Location) :
    (v.children l).Pairwise (fun a b => compareText a.1 b.1 = .lt) := by
  refine ((children_sorted v l).and (List.pairwise_map.mp (nodup_children_names hv l))).imp
    fun {a b} ⟨hle, hne⟩ => ?_
  cases h : compareText a.1 b.1
  · rfl
  · exact absurd (compareText_eq_eq_iff.mp h) hne
  · simp [h] at hle

/-! ## How deep a tree goes -/

theorem mem_keys_of_lookup {v : Volume} {k : Location} (hk : k ≠ []) {node : Node}
    (h : v.lookup k = some node) : k ∈ v.entries.map Prod.fst := by
  have hne : k.isEmpty = false := by simpa using hk
  rw [lookup, hne, if_neg Bool.false_ne_true] at h
  obtain ⟨l₁, l₂, hsplit, -⟩ := List.lookup_eq_some_iff.mp h
  rw [hsplit]
  simp

/-- A chain of directories below a location, one for each nonempty prefix of `p`, is no longer
than the volume has entries: their locations are told apart by their lengths. -/
theorem length_le_of_dir_prefixes {v : Volume} {L : Location} {p : List String}
    (h : ∀ q, q <+: p → q ≠ [] → v.lookup (L ++ q) = some .dir) : p.length ≤ v.entries.length := by
  have hnodup : ((List.range p.length).map fun i => L ++ p.take (i + 1)).Nodup := by
    refine List.Nodup.map_on (fun i hi j hj hij => ?_) List.nodup_range
    have hlen := congrArg List.length hij
    simp only [List.mem_range] at hi hj
    simp only [List.length_append, List.length_take] at hlen
    omega
  have hsub : ((List.range p.length).map fun i => L ++ p.take (i + 1)) ⊆ v.entries.map Prod.fst := by
    intro k hk
    obtain ⟨i, hi, rfl⟩ := List.mem_map.mp hk
    have hi' : i < p.length := List.mem_range.mp hi
    have hne : p.take (i + 1) ≠ [] := by
      intro e
      have := congrArg List.length e
      simp only [List.length_take, List.length_nil] at this
      omega
    exact mem_keys_of_lookup (by simp [hne]) (h _ (List.take_prefix _ _) hne)
  calc p.length = ((List.range p.length).map fun i => L ++ p.take (i + 1)).length := by simp
    _ ≤ (v.entries.map Prod.fst).length := (List.subperm_of_subset hnodup hsub).length_le
    _ = v.entries.length := List.length_map _

/-! ## Walking down from a directory -/

/-- The path of `X ++ p` leads to the directory at `L ++ p`, through a directory at each step
below `L`. -/
structure DirAt (v : Volume) (X L : Location) (p : List String) : Prop where
  valid : ValidLocation (X ++ p)
  walk : v.walk true linkBudget [] (X ++ p) = .ok (.entry (L ++ p) .dir)
  chain : ∀ q, q <+: p → q ≠ [] → v.lookup (L ++ q) = some .dir

namespace DirAt

variable {v : Volume} {X L : Location} {p : List String}

theorem nil (hX : ValidLocation X) (hwalk : v.walk true linkBudget [] X = .ok (.entry L .dir)) :
    v.DirAt X L [] where
  valid := by simpa using hX
  walk := by simpa using hwalk
  chain _ hq hne := absurd (List.prefix_nil.mp hq) hne

theorem concat (h : v.DirAt X L p) {n : String} (hn : ValidName n)
    (hd : v.lookup (L ++ p ++ [n]) = some .dir) : v.DirAt X L (p ++ [n]) where
  valid := by
    rw [← List.append_assoc]
    exact h.valid.append (.singleton hn)
  walk := by simpa using (readDir_path_concat h.valid h.walk hn hd).1
  chain q hq hne := by
    rcases List.prefix_concat_iff.mp hq with rfl | hq
    · simpa using hd
    · exact h.chain q hq hne

theorem readDir (h : v.DirAt X L p) :
    v.readDir (Location.path (X ++ p)) = .ok (L ++ p, v.children (L ++ p)) := by
  rw [Volume.readDir, resolve_path h.valid, h.walk]

theorem length_le (h : v.DirAt X L p) : p.length ≤ v.entries.length :=
  length_le_of_dir_prefixes h.chain

end DirAt

end Volume

end FeatureDocs.Store
