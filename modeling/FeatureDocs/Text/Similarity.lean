/-!
# Jaro similarity

The Jaro similarity of two texts, kept as an exact fraction: characters match when they are
equal, not yet matched and at most `max (|a|, |b|) / 2 - 1` places apart; with `m` matches and
`t` half the number of matched characters that are out of order,
`sim = (m / |a| + m / |b| + (m - t) / m) / 3`. Two empty texts are alike (1) and an empty text is
unlike any other (0).

* `Fraction`, `jaro`, `Fraction.lt`;
* `alike`: the candidates above a threshold, least similar first;
* `closest?`: among candidates above a threshold, the most similar one, the last of equals.
-/

namespace FeatureDocs.Text

/-- A non-negative fraction. -/
structure Fraction where
  num : Nat
  den : Nat
deriving Repr, Inhabited

/-- The order of fractions with positive denominators. -/
def Fraction.lt (x y : Fraction) : Bool := x.num * y.den < y.num * x.den

/-- Mark the first unmatched position of `b` within `[lo, hi)` that holds `c`. -/
def claim (c : Char) (lo hi : Nat) : List (Char × Bool) → Nat → Option (List (Char × Bool))
  | [], _ => none
  | (d, taken) :: rest, j =>
    if lo ≤ j && j < hi && d == c && !taken then some ((d, true) :: rest)
    else ((claim c lo hi rest (j + 1)).map fun r => (d, taken) :: r)

/-- Match the characters of `a` (from position `i`) against `b`, with the search window `w`:
the characters of `a` that matched, in order, and `b` with its matched positions marked. -/
def matchAll (w : Nat) (lenB : Nat) : List Char → Nat → List (Char × Bool) → List Char × List (Char × Bool)
  | [], _, b => ([], b)
  | c :: rest, i, b =>
    match claim c (i - w) (min lenB (i + w + 1)) b 0 with
    | some b' => let (ms, b'') := matchAll w lenB rest (i + 1) b'; (c :: ms, b'')
    | none => matchAll w lenB rest (i + 1) b

/-- The number of places where two lists differ, over their common length. -/
def mismatches : List Char → List Char → Nat
  | x :: xs, y :: ys => (if x == y then 0 else 1) + mismatches xs ys
  | _, _ => 0

/-- The Jaro similarity of two texts. -/
def jaro (a b : String) : Fraction :=
  let la := a.length
  let lb := b.length
  if la == 0 && lb == 0 then ⟨1, 1⟩
  else if la == 0 || lb == 0 then ⟨0, 1⟩
  else
    let w := max la lb / 2 - 1
    let (fromA, marked) := matchAll w lb a.toList 0 (b.toList.map fun c => (c, false))
    let fromB := (marked.filter Prod.snd).map Prod.fst
    let m := fromA.length
    let t := mismatches fromA fromB / 2
    if m == 0 then ⟨0, 1⟩
    else ⟨m * lb * m + m * la * m + (m - t) * la * lb, 3 * la * lb * m⟩

/-- The candidates more similar to a text than the threshold, least similar first; equally
similar ones keep their order. -/
def alike (threshold : Fraction) (text : String) (candidates : List String) : List String :=
  let scored := (candidates.map fun c => (jaro text c, c)).filter fun (s, _) => threshold.lt s
  (scored.mergeSort fun a b => !b.1.lt a.1).map Prod.snd

/-- The candidate most similar to a text among those above the threshold; of equally similar
ones the last. -/
def closest? (threshold : Fraction) (text : String) (candidates : List String) : Option String :=
  (alike threshold text candidates).getLast?

end FeatureDocs.Text
