import FeatureDocs.Store.Path

/-!
# The orders of texts, components and paths

Every sorted store of a run is ordered by a lexicographic comparison: texts by their characters,
path lists by their texts, paths by their components. This module shows that these comparisons
are total preorders (`Std.TransCmp`), and that texts, text lists and component lists are told
apart by them (`Std.LawfulEqCmp`). Paths are not: two spellings of one path compare equal.

* `compareLex_eq_listCompareLex`: the lexicographic comparison is the library's;
* instances for `compareLex`, `compareText`, `Component.compare`, `Path.compare`;
* `compareLex_append_left`, `compareLex_append_cons_lt`, `compareLex_prefix_lt`,
  `compareLex_append_ne_lt`: how lists that share a prefix compare;
* `nodup_map_of_pairwise_lt`: keys in strictly increasing order are distinct.
-/

namespace FeatureDocs.Data

open Std

theorem compareLex_eq_listCompareLex {α : Type} (cmp : α → α → Ordering) (a b : List α) :
    compareLex cmp a b = List.compareLex cmp a b := by
  induction a generalizing b with
  | nil => cases b <;> rfl
  | cons x xs ih =>
    cases b with
    | nil => rfl
    | cons y ys =>
      rw [List.compareLex_cons_cons, compareLex]
      cases cmp x y <;> simp [ih]

theorem compareLex_fun_eq {α : Type} (cmp : α → α → Ordering) :
    compareLex cmp = List.compareLex cmp := by
  funext a b
  exact compareLex_eq_listCompareLex cmp a b

section Lex

variable {α : Type} (cmp : α → α → Ordering)

instance [OrientedCmp cmp] : OrientedCmp (compareLex cmp) := by
  rw [compareLex_fun_eq]; infer_instance

instance [TransCmp cmp] : TransCmp (compareLex cmp) := by
  rw [compareLex_fun_eq]; infer_instance

instance [LawfulEqCmp cmp] : LawfulEqCmp (compareLex cmp) := by
  rw [compareLex_fun_eq]; infer_instance

variable {cmp}

theorem compareLex_append_left [ReflCmp cmp] (l a b : List α) :
    compareLex cmp (l ++ a) (l ++ b) = compareLex cmp a b := by
  induction l with
  | nil => rfl
  | cons x xs ih => simp [compareLex, ReflCmp.compare_self, ih]

theorem compareLex_append_cons_lt [ReflCmp cmp] {x y : α} (l a b : List α) (h : cmp x y = .lt) :
    compareLex cmp (l ++ x :: a) (l ++ y :: b) = .lt := by
  rw [compareLex_append_left]
  simp [compareLex, h]

theorem compareLex_prefix_lt [ReflCmp cmp] (l : List α) (x : α) (a : List α) :
    compareLex cmp l (l ++ x :: a) = .lt := by
  have h : compareLex cmp (l ++ []) (l ++ x :: a) = compareLex cmp [] (x :: a) :=
    compareLex_append_left l [] (x :: a)
  rwa [List.append_nil] at h

theorem compareLex_append_ne_lt [ReflCmp cmp] (l t : List α) : compareLex cmp (l ++ t) l ≠ .lt := by
  have h : compareLex cmp (l ++ t) (l ++ []) = compareLex cmp t [] := compareLex_append_left l t []
  rw [List.append_nil] at h
  rw [h]
  cases t <;> simp [compareLex]

theorem nodup_map_of_pairwise_lt [ReflCmp cmp] {β : Type} {f : β → α} {l : List β}
    (h : l.Pairwise fun a b => cmp (f a) (f b) = .lt) : (l.map f).Nodup := by
  refine List.pairwise_map.mpr (h.imp fun {a b} hab heq => ?_)
  have hrefl : cmp (f b) (f b) = .eq := ReflCmp.compare_self
  rw [heq, hrefl] at hab
  cases hab

end Lex

theorem compareText_eq (a b : String) :
    compareText a b = compareLex (compareOn Char.toNat) a.toList b.toList := rfl

instance lawfulEqCmp_compareOn_toNat : LawfulEqCmp (compareOn Char.toNat) where
  eq_of_compare h := Char.toNat_inj.mp (LawfulEqOrd.eq_of_compare h)

instance : OrientedCmp compareText where
  eq_swap {a b} := by
    simp only [compareText_eq]
    exact OrientedCmp.eq_swap

instance : TransCmp compareText where
  isLE_trans {a b c} hab hbc := by
    simp only [compareText_eq] at *
    exact TransCmp.isLE_trans hab hbc

instance : LawfulEqCmp compareText where
  eq_of_compare {a b} h := by
    rw [compareText_eq] at h
    exact String.toList_inj.mp (LawfulEqCmp.eq_of_compare h)

theorem compareText_eq_eq_iff {a b : String} : compareText a b = .eq ↔ a = b :=
  LawfulEqCmp.compare_eq_iff_eq

end FeatureDocs.Data

namespace FeatureDocs.Store

open Std FeatureDocs.Data

theorem Component.compare_normal (x y : String) :
    Component.compare (.normal x) (.normal y) = compareText x y := rfl

instance : OrientedCmp Component.compare where
  eq_swap {a b} := by
    cases a <;> cases b <;> simp [Component.compare, Component.rank, compare, compareOfLessAndEq]
    exact OrientedCmp.eq_swap

instance : TransCmp Component.compare where
  isLE_trans {a b c} hab hbc := by
    cases a <;> cases b <;> cases c <;>
      simp [Component.compare, Component.rank, compare, compareOfLessAndEq] at *
    exact TransCmp.isLE_trans hab hbc

instance : LawfulEqCmp Component.compare where
  eq_of_compare {a b} h := by
    cases a <;> cases b <;> simp [Component.compare, Component.rank, compare, compareOfLessAndEq] at h ⊢
    exact h

instance : TransCmp compareComponents :=
  inferInstanceAs (TransCmp (compareLex Component.compare))

instance : LawfulEqCmp compareComponents :=
  inferInstanceAs (LawfulEqCmp (compareLex Component.compare))

theorem Path.compare_eq (p q : Path) :
    Path.compare p q = compareComponents p.components q.components := rfl

instance : OrientedCmp Path.compare where
  eq_swap {p q} := by
    simp only [Path.compare_eq]
    exact OrientedCmp.eq_swap

instance : TransCmp Path.compare where
  isLE_trans {p q r} hpq hqr := by
    simp only [Path.compare_eq] at *
    exact TransCmp.isLE_trans hpq hqr

theorem Path.compare_eq_eq_iff {p q : Path} :
    Path.compare p q = .eq ↔ p.components = q.components := by
  rw [Path.compare_eq]
  exact LawfulEqCmp.compare_eq_iff_eq

end FeatureDocs.Store
