/-!
# Sorted look-up

Binary search over an array sorted by a natural-number key: `countAtMost` is the number of
leading entries whose key is at most a given value, and `lastAtMost?` is the last of them. The
Unicode tables of this folder are searched this way.
-/

namespace FeatureDocs.Text

/-- The number of leading entries of `a`, within `[lo, hi)`, whose key is at most `c`, for an
array sorted by `key`: the search halves the window until it is empty. -/
def countAtMostIn {α : Type} (a : Array α) (key : α → Nat) (c : Nat) (lo hi : Nat) : Nat :=
  if lo < hi then
    let mid := (lo + hi) / 2
    match a[mid]? with
    | some x => if key x ≤ c then countAtMostIn a key c (mid + 1) hi else countAtMostIn a key c lo mid
    | none => lo
  else lo
termination_by hi - lo

/-- The number of leading entries of a sorted array whose key is at most `c`. -/
def countAtMost {α : Type} (a : Array α) (key : α → Nat) (c : Nat) : Nat :=
  countAtMostIn a key c 0 a.size

/-- The last entry of a sorted array whose key is at most `c`, if any. -/
def lastAtMost? {α : Type} (a : Array α) (key : α → Nat) (c : Nat) : Option α :=
  match countAtMost a key c with
  | 0 => none
  | n + 1 => a[n]?

/-- A code point lies in one of a sorted array of inclusive ranges. -/
def inRanges (rs : Array (Nat × Nat)) (c : Nat) : Bool :=
  match lastAtMost? rs Prod.fst c with
  | some r => c ≤ r.2
  | none => false

end FeatureDocs.Text
