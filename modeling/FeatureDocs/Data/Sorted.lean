/-!
# Sorted lists

Sets and maps kept as lists sorted by a three-way comparison, without two elements (or keys)
that compare equal. A key that compares equal to a stored one updates the stored entry and
keeps the stored key.

* `insertBy`: sorted insertion into a set;
* `upsertBy`: sorted insertion or update in a map;
* `compareLex`: lexicographic comparison of lists.
-/

namespace FeatureDocs.Data

/-- Insert into a sorted list; an element equal to a stored one is dropped. -/
def insertBy {α : Type} (cmp : α → α → Ordering) (x : α) : List α → List α
  | [] => [x]
  | y :: ys =>
    match cmp x y with
    | .lt => x :: y :: ys
    | .eq => y :: ys
    | .gt => y :: insertBy cmp x ys

/-- Insert all elements of a list into a sorted list. -/
def insertAllBy {α : Type} (cmp : α → α → Ordering) (xs : List α) (into : List α) : List α :=
  xs.foldl (fun acc x => insertBy cmp x acc) into

/-- Insert a key with a value into a sorted map, or update the value of an equal key with `f`,
keeping the stored key. -/
def upsertBy {κ α : Type} (cmp : κ → κ → Ordering) (k : κ) (new : α) (f : α → α) :
    List (κ × α) → List (κ × α)
  | [] => [(k, new)]
  | (k', v) :: rest =>
    match cmp k k' with
    | .lt => (k, new) :: (k', v) :: rest
    | .eq => (k', f v) :: rest
    | .gt => (k', v) :: upsertBy cmp k new f rest

/-- Lists compared element by element; a proper prefix comes first. -/
def compareLex {α : Type} (cmp : α → α → Ordering) : List α → List α → Ordering
  | [], [] => .eq
  | [], _ :: _ => .lt
  | _ :: _, [] => .gt
  | a :: as, b :: bs =>
    match cmp a b with
    | .eq => compareLex cmp as bs
    | o => o

/-- Texts compared character by character, which is the order of their UTF-8 bytes. -/
def compareText (a b : String) : Ordering :=
  compareLex (fun x y : Char => compare x.toNat y.toNat) a.toList b.toList

theorem insertBy_nil {α : Type} (cmp : α → α → Ordering) (x : α) : insertBy cmp x [] = [x] := rfl

end FeatureDocs.Data
