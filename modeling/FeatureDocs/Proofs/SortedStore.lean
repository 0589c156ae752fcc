import Mathlib.Data.List.Perm.Basic
import FeatureDocs.Proofs.Compare

/-!
# Sorted sets and maps

The stores of a run are lists sorted strictly by a three-way comparison. For a set the
comparison tells elements apart (`Std.LawfulEqCmp`), so a set is fixed by its members. A map may
be keyed by a comparison that does not: two spellings of one path compare equal, and the map
keeps the spelling it stored first. A map is then fixed by what `findKey` returns for each key,
the stored key included.

* `SortedBy`, `mem_insertBy`, `mem_insertAllBy`, `eq_of_mem_iff`: sets;
* `KeysSortedBy`, `findKey`, `findKey_upsertBy_of_eq`, `findKey_mergeBy`, `eq_of_findKey_eq`: maps;
* `mem_keys_upsertBy`, `mem_keys_upsertBy_of_mem`, `self_mem_keys_upsertBy`: the keys of an update;
* `findKey_eq_some_iff`, `eq_of_keysSortedBy_of_mem_iff`: a sorted map by its entries;
* **`upsertBy_mergeBy`**: adding an entry after merging two maps is merging with the entry
  added to the second, when the value updates agree.
-/

namespace FeatureDocs.Data

open Std

/-! ## Sets -/

section Set

variable {α : Type} {cmp : α → α → Ordering}

/-- A list sorted strictly by a comparison. -/
def SortedBy (cmp : α → α → Ordering) (l : List α) : Prop :=
  l.Pairwise fun a b => cmp a b = .lt

theorem mem_of_mem_insertBy {x y : α} {l : List α} (h : y ∈ insertBy cmp x l) : y = x ∨ y ∈ l := by
  induction l with
  | nil => simpa [insertBy] using h
  | cons z zs ih =>
    unfold insertBy at h
    split at h
    · simpa using h
    · exact .inr h
    · rcases List.mem_cons.mp h with rfl | h
      · exact .inr List.mem_cons_self
      · exact (ih h).imp_right (List.mem_cons_of_mem z)

theorem sortedBy_insertBy [TransCmp cmp] (x : α) {l : List α} (hl : SortedBy cmp l) :
    SortedBy cmp (insertBy cmp x l) := by
  induction l with
  | nil => exact List.pairwise_singleton _ _
  | cons z zs ih =>
    have hz := List.pairwise_cons.mp hl
    unfold insertBy
    split
    · next hlt =>
      refine List.Pairwise.cons (fun y hy => ?_) hl
      rcases List.mem_cons.mp hy with rfl | hy
      · exact hlt
      · exact TransCmp.lt_trans hlt (hz.1 y hy)
    · exact hl
    · next hgt =>
      refine List.Pairwise.cons (fun y hy => ?_) (ih hz.2)
      rcases mem_of_mem_insertBy hy with rfl | hy
      · exact OrientedCmp.gt_iff_lt.mp hgt
      · exact hz.1 y hy

/-- A set holds what was inserted into it, and what it held. -/
theorem mem_insertBy [LawfulEqCmp cmp] {x y : α} {l : List α} :
    y ∈ insertBy cmp x l ↔ y = x ∨ y ∈ l := by
  refine ⟨mem_of_mem_insertBy, ?_⟩
  induction l with
  | nil => simp [insertBy]
  | cons z zs ih =>
    intro h
    unfold insertBy
    split
    · exact List.mem_cons.mpr (h.imp_right id)
    · next heq =>
      -- an element equal to a stored one is the stored one
      rcases h with rfl | h
      · rw [LawfulEqCmp.eq_of_compare heq]
        exact List.mem_cons_self
      · exact h
    · rcases h with rfl | h
      · exact List.mem_cons_of_mem z (ih (.inl rfl))
      · rcases List.mem_cons.mp h with rfl | h
        · exact List.mem_cons_self
        · exact List.mem_cons_of_mem z (ih (.inr h))

theorem sortedBy_insertAllBy [TransCmp cmp] (xs : List α) {l : List α} (hl : SortedBy cmp l) :
    SortedBy cmp (insertAllBy cmp xs l) := by
  induction xs generalizing l with
  | nil => exact hl
  | cons x xs ih => exact ih (sortedBy_insertBy x hl)

theorem mem_insertAllBy [LawfulEqCmp cmp] {xs l : List α} {y : α} :
    y ∈ insertAllBy cmp xs l ↔ y ∈ xs ∨ y ∈ l := by
  induction xs generalizing l with
  | nil => simp [insertAllBy]
  | cons x xs ih =>
    change y ∈ insertAllBy cmp xs (insertBy cmp x l) ↔ _
    rw [ih, mem_insertBy, List.mem_cons]
    tauto

theorem SortedBy.nodup [ReflCmp cmp] {l : List α} (hl : SortedBy cmp l) : l.Nodup :=
  hl.imp fun {a b} hab heq => by
    subst heq
    have hrefl : cmp a a = .eq := ReflCmp.compare_self
    rw [hrefl] at hab
    cases hab

theorem eq_of_mem_iff [TransCmp cmp] {l₁ l₂ : List α} (h₁ : SortedBy cmp l₁)
    (h₂ : SortedBy cmp l₂) (h : ∀ x, x ∈ l₁ ↔ x ∈ l₂) : l₁ = l₂ := by
  refine List.Perm.eq_of_pairwise (fun a b _ _ hab hba => ?_) h₁ h₂
    ((List.perm_ext_iff_of_nodup h₁.nodup h₂.nodup).mpr h)
  exact absurd hba (OrientedCmp.not_lt_of_lt hab)

theorem insertBy_of_mem [TransCmp cmp] [LawfulEqCmp cmp] {x : α} {l : List α}
    (hl : SortedBy cmp l) (hx : x ∈ l) : insertBy cmp x l = l :=
  eq_of_mem_iff (sortedBy_insertBy x hl) hl fun y => by
    rw [mem_insertBy]
    exact ⟨fun h => h.elim (fun e => e ▸ hx) id, Or.inr⟩

theorem insertBy_ne_nil (x : α) (l : List α) : insertBy cmp x l ≠ [] := by
  cases l with
  | nil => simp [insertBy]
  | cons y ys =>
    unfold insertBy
    split <;> simp

theorem insertAllBy_ne_nil (xs : List α) {l : List α} (hl : l ≠ []) :
    insertAllBy cmp xs l ≠ [] := by
  induction xs generalizing l with
  | nil => exact hl
  | cons x xs ih => exact ih (insertBy_ne_nil x l)

theorem insertBy_insertAllBy [TransCmp cmp] [LawfulEqCmp cmp] (x : α) {a b : List α}
    (ha : SortedBy cmp a) :
    insertBy cmp x (insertAllBy cmp b a) = insertAllBy cmp (insertBy cmp x b) a := by
  refine eq_of_mem_iff (sortedBy_insertBy x (sortedBy_insertAllBy b ha))
    (sortedBy_insertAllBy _ ha) fun y => ?_
  simp only [mem_insertBy, mem_insertAllBy]
  tauto

end Set

/-! ## Maps -/

section Map

variable {κ α : Type} {cmp : κ → κ → Ordering}

/-- A list of entries sorted strictly by their keys. -/
def KeysSortedBy (cmp : κ → κ → Ordering) (l : List (κ × α)) : Prop :=
  l.Pairwise fun a b => cmp a.1 b.1 = .lt

/-- The entry whose key compares equal to `k`, with its key as stored. -/
def findKey (cmp : κ → κ → Ordering) (k : κ) (l : List (κ × α)) : Option (κ × α) :=
  l.find? fun p => cmp k p.1 == .eq

/-- The entries of a second map added to a first, the values of equal keys combined and the
first map's key kept. -/
def mergeBy (cmp : κ → κ → Ordering) (comb : α → α → α) (m n : List (κ × α)) : List (κ × α) :=
  n.foldl (fun acc p => upsertBy cmp p.1 p.2 (fun d => comb d p.2) acc) m

/-- The entry an update leaves for its key: the stored one updated, or the new one. -/
def upsertFound (k : κ) (new : α) (f : α → α) : Option (κ × α) → κ × α
  | none => (k, new)
  | some p => (p.1, f p.2)

/-- The entry a merge leaves for a key, from those the two maps hold for it. -/
def mergeFound (comb : α → α → α) : Option (κ × α) → Option (κ × α) → Option (κ × α)
  | none, q => q
  | some p, none => some p
  | some p, some q => some (p.1, comb p.2 q.2)

theorem findKey_nil (k : κ) : findKey cmp k ([] : List (κ × α)) = none := rfl

theorem findKey_cons (k : κ) (p : κ × α) (l : List (κ × α)) :
    findKey cmp k (p :: l) = if cmp k p.1 = .eq then some p else findKey cmp k l := by
  by_cases h : cmp k p.1 = .eq <;> simp [findKey, h]

theorem findKey_congr [TransCmp cmp] {k k' : κ} (h : cmp k k' = .eq) (l : List (κ × α)) :
    findKey cmp k l = findKey cmp k' l := by
  induction l with
  | nil => rfl
  | cons p l ih => rw [findKey_cons, findKey_cons, TransCmp.congr_left h, ih]

theorem findKey_eq_none_of_lt [TransCmp cmp] {k : κ} {l : List (κ × α)}
    (h : ∀ p ∈ l, cmp k p.1 = .lt) : findKey cmp k l = none := by
  induction l with
  | nil => rfl
  | cons p l ih =>
    rw [findKey_cons, if_neg (by rw [h p List.mem_cons_self]; decide)]
    exact ih fun q hq => h q (List.mem_cons_of_mem p hq)

theorem mem_upsertBy {k : κ} {new : α} {f : α → α} {l : List (κ × α)} {q : κ × α}
    (h : q ∈ upsertBy cmp k new f l) : q = (k, new) ∨ ∃ p ∈ l, q = p ∨ q = (p.1, f p.2) := by
  induction l with
  | nil => simpa [upsertBy] using h
  | cons p l ih =>
    obtain ⟨k₀, v⟩ := p
    unfold upsertBy at h
    split at h
    · rcases List.mem_cons.mp h with rfl | h
      · exact .inl rfl
      · exact .inr ⟨q, h, .inl rfl⟩
    · rcases List.mem_cons.mp h with rfl | h
      · exact .inr ⟨(k₀, v), List.mem_cons_self, .inr rfl⟩
      · exact .inr ⟨q, List.mem_cons_of_mem _ h, .inl rfl⟩
    · rcases List.mem_cons.mp h with rfl | h
      · exact .inr ⟨(k₀, v), List.mem_cons_self, .inl rfl⟩
      · rcases ih h with rfl | ⟨p, hp, hq⟩
        · exact .inl rfl
        · exact .inr ⟨p, List.mem_cons_of_mem _ hp, hq⟩

theorem forall_upsertBy {P : α → Prop} {k : κ} {new : α} {f : α → α} {l : List (κ × α)}
    (hl : ∀ p ∈ l, P p.2) (hnew : P new) (hf : ∀ v, P v → P (f v)) :
    ∀ q ∈ upsertBy cmp k new f l, P q.2 := by
  intro q hq
  rcases mem_upsertBy hq with rfl | ⟨p, hp, rfl | rfl⟩
  · exact hnew
  · exact hl _ hp
  · exact hf p.2 (hl p hp)

/-- Every entry of an updated map has a property of keys and values that the new entry has, that
the update keeps for an entry whose key is equal to the new one, and that the entries of the map
had. -/
theorem forall_upsertBy_keyed {P : κ → α → Prop} {k : κ} {new : α} {f : α → α}
    {l : List (κ × α)} (hl : ∀ p ∈ l, P p.1 p.2) (hnew : P k new)
    (hf : ∀ p ∈ l, cmp k p.1 = .eq → P p.1 (f p.2)) : ∀ q ∈ upsertBy cmp k new f l, P q.1 q.2 := by
  induction l with
  | nil => simpa [upsertBy] using hnew
  | cons p l ih =>
    obtain ⟨k₀, v⟩ := p
    intro q hq
    unfold upsertBy at hq
    split at hq
    · rcases List.mem_cons.mp hq with rfl | hq
      · exact hnew
      · exact hl q hq
    · next heq =>
      rcases List.mem_cons.mp hq with rfl | hq
      · exact hf _ List.mem_cons_self heq
      · exact hl q (List.mem_cons_of_mem _ hq)
    · rcases List.mem_cons.mp hq with rfl | hq
      · exact hl _ List.mem_cons_self
      · exact ih (fun p hp => hl p (List.mem_cons_of_mem _ hp))
          (fun p hp => hf p (List.mem_cons_of_mem _ hp)) q hq

theorem upsertBy_ne_nil (k : κ) (new : α) (f : α → α) (l : List (κ × α)) :
    upsertBy cmp k new f l ≠ [] := by
  cases l with
  | nil => simp [upsertBy]
  | cons p l =>
    unfold upsertBy
    split <;> simp

theorem mem_keys_upsertBy {k q : κ} {new : α} {f : α → α} {l : List (κ × α)}
    (h : q ∈ (upsertBy cmp k new f l).map Prod.fst) : q = k ∨ q ∈ l.map Prod.fst := by
  obtain ⟨p, hp, rfl⟩ := List.mem_map.mp h
  rcases mem_upsertBy hp with rfl | ⟨p', hp', rfl | rfl⟩
  · exact .inl rfl
  · exact .inr (List.mem_map_of_mem hp')
  · exact .inr (List.mem_map.mpr ⟨p', hp', rfl⟩)

/-- An update keeps every stored key. -/
theorem mem_keys_upsertBy_of_mem {q : κ} (k : κ) (new : α) (f : α → α) {l : List (κ × α)}
    (h : q ∈ l.map Prod.fst) : q ∈ (upsertBy cmp k new f l).map Prod.fst := by
  induction l with
  | nil => cases h
  | cons p l ih =>
    obtain ⟨k₀, v⟩ := p
    rw [List.map_cons, List.mem_cons] at h
    unfold upsertBy
    split <;> simp only [List.map_cons, List.mem_cons]
    · exact .inr h
    · exact h
    · exact h.imp_right ih

/-- Under a comparison that tells keys apart, the new key is a key of the updated map. -/
theorem self_mem_keys_upsertBy [LawfulEqCmp cmp] (k : κ) (new : α) (f : α → α)
    (l : List (κ × α)) : k ∈ (upsertBy cmp k new f l).map Prod.fst := by
  induction l with
  | nil => exact List.mem_singleton_self k
  | cons p l ih =>
    obtain ⟨k₀, v⟩ := p
    unfold upsertBy
    split <;> simp only [List.map_cons, List.mem_cons]
    · exact .inl trivial
    · next heq => exact .inl (LawfulEqCmp.eq_of_compare heq)
    · exact .inr ih
theorem keysSortedBy_upsertBy [TransCmp cmp] (k : κ) (new : α) (f : α → α) {l : List (κ × α)}
    (hl : KeysSortedBy cmp l) : KeysSortedBy cmp (upsertBy cmp k new f l) := by
  induction l with
  | nil => exact List.pairwise_singleton _ _
  | cons p l ih =>
    obtain ⟨k₀, v⟩ := p
    have hp := List.pairwise_cons.mp hl
    unfold upsertBy
    split
    · next hlt =>
      refine List.Pairwise.cons (fun q hq => ?_) hl
      rcases List.mem_cons.mp hq with rfl | hq
      · exact hlt
      · exact TransCmp.lt_trans hlt (hp.1 q hq)
    · exact List.Pairwise.cons (fun q hq => hp.1 q hq) hp.2
    · next hgt =>
      -- the keys after the stored one are the new key, above it, and the keys above it
      refine List.Pairwise.cons (fun q hq => ?_) (ih hp.2)
      rcases mem_upsertBy hq with rfl | ⟨p, hp', rfl | rfl⟩
      · exact OrientedCmp.gt_iff_lt.mp hgt
      · exact hp.1 _ hp'
      · exact hp.1 p hp'

theorem findKey_upsertBy_of_ne [TransCmp cmp] {k k' : κ} (hk : cmp k' k ≠ .eq) (new : α)
    (f : α → α) (l : List (κ × α)) :
    findKey cmp k' (upsertBy cmp k new f l) = findKey cmp k' l := by
  induction l with
  | nil => simp [upsertBy, findKey_cons, hk, findKey_nil]
  | cons p l ih =>
    obtain ⟨k₀, v⟩ := p
    unfold upsertBy
    split
    · rw [findKey_cons, if_neg hk]
    · next heq =>
      -- the stored key is equal to `k`, so it does not match `k'` either
      have hk₀ : cmp k' k₀ ≠ .eq := fun h =>
        hk (TransCmp.eq_trans h (OrientedCmp.eq_symm heq))
      rw [findKey_cons, findKey_cons, if_neg hk₀, if_neg hk₀]
    · rw [findKey_cons, findKey_cons, ih]

/-- Updating a map leaves for its key the stored entry updated, or the new one. -/
theorem findKey_upsertBy_of_eq [TransCmp cmp] {k k' : κ} (hk : cmp k' k = .eq) (new : α)
    (f : α → α) {l : List (κ × α)} (hl : KeysSortedBy cmp l) :
    findKey cmp k' (upsertBy cmp k new f l) = some (upsertFound k new f (findKey cmp k l)) := by
  induction l with
  | nil => simp [upsertBy, findKey_cons, hk, findKey_nil, upsertFound]
  | cons p l ih =>
    obtain ⟨k₀, v⟩ := p
    have hp := List.pairwise_cons.mp hl
    unfold upsertBy
    split
    · next hlt =>
      -- `k` is below every stored key
      have hnone : findKey cmp k ((k₀, v) :: l) = none := findKey_eq_none_of_lt fun q hq => by
        rcases List.mem_cons.mp hq with rfl | hq
        · exact hlt
        · exact TransCmp.lt_trans hlt (hp.1 q hq)
      rw [findKey_cons, if_pos hk, hnone]
      rfl
    · next heq =>
      rw [findKey_cons, if_pos (TransCmp.eq_trans hk heq), findKey_cons, if_pos heq]
      rfl
    · next hgt =>
      have hne : cmp k' k₀ ≠ .eq := by
        rw [TransCmp.congr_left hk, hgt]
        decide
      have hne' : cmp k k₀ ≠ .eq := by
        rw [hgt]
        decide
      rw [findKey_cons, if_neg hne, ih hp.2, findKey_cons, if_neg hne']

theorem keysSortedBy_mergeBy [TransCmp cmp] (comb : α → α → α) {m : List (κ × α)}
    (hm : KeysSortedBy cmp m) (n : List (κ × α)) : KeysSortedBy cmp (mergeBy cmp comb m n) := by
  induction n generalizing m with
  | nil => exact hm
  | cons p n ih => exact ih (keysSortedBy_upsertBy _ _ _ hm)

theorem forall_mergeBy {P : α → Prop} {comb : α → α → α} {m n : List (κ × α)}
    (hm : ∀ p ∈ m, P p.2) (hn : ∀ p ∈ n, P p.2) (hcomb : ∀ v w, P v → P w → P (comb v w)) :
    ∀ q ∈ mergeBy cmp comb m n, P q.2 := by
  induction n generalizing m with
  | nil => exact hm
  | cons p n ih =>
    have hp := hn p List.mem_cons_self
    exact ih (forall_upsertBy hm hp fun v hv => hcomb v p.2 hv hp)
      fun q hq => hn q (List.mem_cons_of_mem p hq)

theorem forall_mergeBy_keyed {P : κ → α → Prop} {comb : α → α → α} {m n : List (κ × α)}
    (hm : ∀ p ∈ m, P p.1 p.2) (hn : ∀ p ∈ n, P p.1 p.2)
    (hcomb : ∀ k k' v w, cmp k' k = .eq → P k v → P k' w → P k (comb v w)) :
    ∀ q ∈ mergeBy cmp comb m n, P q.1 q.2 := by
  induction n generalizing m with
  | nil => exact hm
  | cons p n ih =>
    have hp := hn p List.mem_cons_self
    exact ih (forall_upsertBy_keyed hm hp fun q hq hk => hcomb q.1 p.1 q.2 p.2 hk (hm q hq) hp)
      fun q hq => hn q (List.mem_cons_of_mem p hq)

theorem mergeBy_ne_nil (comb : α → α → α) {m : List (κ × α)} (hm : m ≠ []) (n : List (κ × α)) :
    mergeBy cmp comb m n ≠ [] := by
  induction n generalizing m with
  | nil => exact hm
  | cons p n ih => exact ih (upsertBy_ne_nil _ _ _ _)

/-- A merge leaves for each key what the two maps hold for it, combined. -/
theorem findKey_mergeBy [TransCmp cmp] (comb : α → α → α) (k : κ) {m n : List (κ × α)}
    (hm : KeysSortedBy cmp m) (hn : KeysSortedBy cmp n) :
    findKey cmp k (mergeBy cmp comb m n) = mergeFound comb (findKey cmp k m) (findKey cmp k n) := by
  induction n generalizing m with
  | nil =>
    change findKey cmp k m = mergeFound comb (findKey cmp k m) none
    cases findKey cmp k m <;> rfl
  | cons p n ih =>
    have hp := List.pairwise_cons.mp hn
    change findKey cmp k (mergeBy cmp comb (upsertBy cmp p.1 p.2 (fun d => comb d p.2) m) n) = _
    rw [ih (keysSortedBy_upsertBy _ _ _ hm) hp.2, findKey_cons]
    by_cases hk : cmp k p.1 = .eq
    · -- the second map holds `k` at its head only
      have hnone : findKey cmp k n = none := findKey_eq_none_of_lt fun q hq => by
        rw [TransCmp.congr_left hk]
        exact hp.1 q hq
      rw [findKey_upsertBy_of_eq hk _ _ hm, hnone, if_pos hk, ← findKey_congr hk]
      cases findKey cmp k m <;> rfl
    · rw [findKey_upsertBy_of_ne hk, if_neg hk]

theorem findKey_cons_self [ReflCmp cmp] (a : κ × α) (l : List (κ × α)) :
    findKey cmp a.1 (a :: l) = some a := by
  rw [findKey_cons, if_pos ReflCmp.compare_self]

theorem head_eq_of_findKey_eq [TransCmp cmp] {a b : κ × α} {as bs : List (κ × α)}
    (h₁ : KeysSortedBy cmp (a :: as)) (h₂ : KeysSortedBy cmp (b :: bs))
    (h : ∀ k, findKey cmp k (a :: as) = findKey cmp k (b :: bs)) : a = b := by
  have hfa := h a.1
  have hfb := h b.1
  rw [findKey_cons_self a as, findKey_cons] at hfa
  rw [findKey_cons_self b bs, findKey_cons] at hfb
  by_cases hba : cmp a.1 b.1 = .eq
  · rw [if_pos hba] at hfa
    exact Option.some.inj hfa
  · -- otherwise each head is found in the other map's tail, above its head
    rw [if_neg hba] at hfa
    have hb' : cmp b.1 a.1 ≠ .eq := fun e => hba (OrientedCmp.eq_symm e)
    rw [if_neg hb'] at hfb
    have hlt₁ := (List.pairwise_cons.mp h₂).1 a (List.mem_of_find?_eq_some hfa.symm)
    have hlt₂ := (List.pairwise_cons.mp h₁).1 b (List.mem_of_find?_eq_some hfb)
    exact absurd hlt₂ (OrientedCmp.not_lt_of_lt hlt₁)

/-- A sorted map is fixed by the entries it holds for the keys, as stored. -/
theorem eq_of_findKey_eq [TransCmp cmp] {l₁ l₂ : List (κ × α)} (h₁ : KeysSortedBy cmp l₁)
    (h₂ : KeysSortedBy cmp l₂) (h : ∀ k, findKey cmp k l₁ = findKey cmp k l₂) : l₁ = l₂ := by
  induction l₁ generalizing l₂ with
  | nil =>
    cases l₂ with
    | nil => rfl
    | cons b bs =>
      have := h b.1
      rw [findKey_nil, findKey_cons_self] at this
      cases this
  | cons a as ih =>
    cases l₂ with
    | nil =>
      have := h a.1
      rw [findKey_nil, findKey_cons_self] at this
      cases this
    | cons b bs =>
      have ha := List.pairwise_cons.mp h₁
      have hb := List.pairwise_cons.mp h₂
      obtain rfl := head_eq_of_findKey_eq h₁ h₂ h
      refine congrArg _ (ih ha.2 hb.2 fun k => ?_)
      by_cases hk : cmp k a.1 = .eq
      · -- no key of the tails is equal to the head's
        have hlt : ∀ {l : List (κ × α)}, (∀ q ∈ l, cmp a.1 q.1 = .lt) → findKey cmp k l = none :=
          fun hl => findKey_eq_none_of_lt fun q hq => by
            rw [TransCmp.congr_left hk]
            exact hl q hq
        rw [hlt ha.1, hlt hb.1]
      · have := h k
        rwa [findKey_cons, findKey_cons, if_neg hk, if_neg hk] at this

theorem upsertBy_of_findKey [TransCmp cmp] {k : κ} {new : α} {f : α → α} {l : List (κ × α)}
    {p : κ × α} (hl : KeysSortedBy cmp l) (hp : findKey cmp k l = some p) (hf : f p.2 = p.2) :
    upsertBy cmp k new f l = l := by
  refine eq_of_findKey_eq (keysSortedBy_upsertBy k new f hl) hl fun k' => ?_
  by_cases hk : cmp k' k = .eq
  · rw [findKey_upsertBy_of_eq hk _ _ hl, hp, findKey_congr hk, hp, upsertFound, hf]
  · exact findKey_upsertBy_of_ne hk _ _ _

theorem KeysSortedBy.eq_of_fst_eq [ReflCmp cmp] {l : List (κ × α)} (hl : KeysSortedBy cmp l)
    {a b : κ × α} (ha : a ∈ l) (hb : b ∈ l) (h : a.1 = b.1) : a = b := by
  induction l with
  | nil => cases ha
  | cons x xs ih =>
    have hx := List.pairwise_cons.mp hl
    -- the head's key is below every key of the tail, so no key of the tail is the head's
    have hne : ∀ y ∈ xs, y.1 ≠ x.1 := fun y hy he => by
      have hlt := hx.1 y hy
      rw [he] at hlt
      exact absurd (hlt.symm.trans ReflCmp.compare_self) (by decide)
    rcases List.mem_cons.mp ha with rfl | ha' <;> rcases List.mem_cons.mp hb with rfl | hb'
    · rfl
    · exact absurd h.symm (hne b hb')
    · exact absurd h (hne a ha')
    · exact ih hx.2 ha' hb'

/-- In a map sorted by keys, the entry found for a key is the one whose key is equal to it. -/
theorem findKey_eq_some_iff [TransCmp cmp] {k : κ} {q : κ × α} {l : List (κ × α)}
    (hl : KeysSortedBy cmp l) : findKey cmp k l = some q ↔ q ∈ l ∧ cmp k q.1 = .eq := by
  constructor
  · intro h
    exact ⟨List.mem_of_find?_eq_some h, by simpa using List.find?_some h⟩
  · rintro ⟨hq, hk⟩
    induction l with
    | nil => cases hq
    | cons p l ih =>
      have hp := List.pairwise_cons.mp hl
      rcases List.mem_cons.mp hq with rfl | hq
      · rw [findKey_cons, if_pos hk]
      · -- the head's key is below `q`'s, so it is not equal to `k`
        have hne : cmp k p.1 ≠ .eq := by
          rw [TransCmp.congr_left hk, OrientedCmp.gt_iff_lt.mpr (hp.1 q hq)]
          decide
        rw [findKey_cons, if_neg hne]
        exact ih hp.2 hq

theorem KeysSortedBy.eq_of_compare_eq [TransCmp cmp] {l : List (κ × α)} (hl : KeysSortedBy cmp l)
    {a b : κ × α} (ha : a ∈ l) (hb : b ∈ l) (h : cmp a.1 b.1 = .eq) : a = b := by
  have hfa := (findKey_eq_some_iff hl).mpr ⟨ha, ReflCmp.compare_self⟩
  have hfb := (findKey_eq_some_iff hl).mpr ⟨hb, h⟩
  exact Option.some.inj (hfa.symm.trans hfb)

theorem eq_of_keysSortedBy_of_mem_iff [TransCmp cmp] {l₁ l₂ : List (κ × α)}
    (h₁ : KeysSortedBy cmp l₁) (h₂ : KeysSortedBy cmp l₂) (h : ∀ p, p ∈ l₁ ↔ p ∈ l₂) :
    l₁ = l₂ :=
  eq_of_findKey_eq h₁ h₂ fun k => Option.ext fun q => by
    rw [findKey_eq_some_iff h₁, findKey_eq_some_iff h₂, h]

theorem mergeBy_nil_left [TransCmp cmp] (comb : α → α → α) {n : List (κ × α)}
    (hn : KeysSortedBy cmp n) : mergeBy cmp comb [] n = n :=
  eq_of_findKey_eq (keysSortedBy_mergeBy comb List.Pairwise.nil n) hn fun k => by
    rw [findKey_mergeBy comb k List.Pairwise.nil hn, findKey_nil]
    rfl

/-- **An update commutes with a merge.** When the update of a stored value is combining it with
the new value, and updates of combined values are combined updates, updating the merge of two
maps is merging the first with the second updated. The stored keys agree as well: a key stored
in the first map stays, and otherwise the second map's. -/
theorem upsertBy_mergeBy [TransCmp cmp] {P : α → Prop} {comb : α → α → α} {k : κ} {new : α}
    {f : α → α} {m n : List (κ × α)} (hm : KeysSortedBy cmp m) (hn : KeysSortedBy cmp n)
    (hPm : ∀ p ∈ m, P p.2) (hPn : ∀ p ∈ n, P p.2) (hnew : ∀ v, P v → f v = comb v new)
    (hcomm : ∀ v w, P v → P w → f (comb v w) = comb v (f w)) :
    upsertBy cmp k new f (mergeBy cmp comb m n) = mergeBy cmp comb m (upsertBy cmp k new f n) := by
  have hmn := keysSortedBy_mergeBy comb hm n
  have hn' := keysSortedBy_upsertBy k new f hn
  refine eq_of_findKey_eq (keysSortedBy_upsertBy k new f hmn)
    (keysSortedBy_mergeBy comb hm _) fun k' => ?_
  rw [findKey_mergeBy comb k' hm hn']
  by_cases hk : cmp k' k = .eq
  · rw [findKey_upsertBy_of_eq hk _ _ hmn, findKey_upsertBy_of_eq hk _ _ hn,
      findKey_mergeBy comb k hm hn, findKey_congr hk]
    -- the values the two maps hold for `k` have the property
    have hPfound : ∀ {l : List (κ × α)}, (∀ p ∈ l, P p.2) → ∀ q, findKey cmp k l = some q →
        P q.2 := fun hl q hq => hl q (List.mem_of_find?_eq_some hq)
    cases hfm : findKey cmp k m with
    | none => cases findKey cmp k n <;> rfl
    | some p =>
      cases hfn : findKey cmp k n with
      | none => simp [mergeFound, upsertFound, hnew p.2 (hPfound hPm p hfm)]
      | some q =>
        simp [mergeFound, upsertFound, hcomm p.2 q.2 (hPfound hPm p hfm) (hPfound hPn q hfn)]
  · rw [findKey_upsertBy_of_ne hk, findKey_upsertBy_of_ne hk, findKey_mergeBy comb k' hm hn]

end Map

end FeatureDocs.Data
