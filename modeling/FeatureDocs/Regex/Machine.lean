import FeatureDocs.Regex.Syntax
import FeatureDocs.Regex.Parse

/-!
# Regular expressions: matching

An expression is compiled to a program of a few instructions and run by a Pike machine: all
alternatives advance together over the text, ordered by priority, so the match found is the
leftmost one and, among those that start there, the one the priorities prefer (greedy
repetitions first, earlier alternatives first). A capture group holds the text of its last
repetition.

* `Inst`, `compile`;
* `Pattern.capturesFrom?`, `Pattern.captures?`: the capture spans of the first match from a
  position of a text, and in a whole text.
-/

namespace FeatureDocs.Regex

open FeatureDocs.Text

/-- A test on one character. -/
inductive Test where
  | literal (c : Char) (caseless : Bool)
  | charClass (items : List ClassItem) (negated caseless : Bool)
  | dot (newline : Bool)
deriving Repr, Inhabited

/-- The test accepts a character. -/
def Test.accepts : Test → Char → Bool
  | .literal c false, d => c == d
  | .literal c true, d => (foldClass c).contains d
  | .charClass items neg cl, d => classHolds items neg cl d
  | .dot nl, d => nl || d != '\n'

/-- An instruction of the matching machine. -/
inductive Inst where
  /-- Consume one character that passes the test. -/
  | test (t : Test)
  /-- Continue at both targets, the first preferred. -/
  | split (first second : Nat)
  /-- Continue at the target. -/
  | jump (target : Nat)
  /-- Record the current position in a capture slot. -/
  | save (slot : Nat)
  /-- Continue only where the assertion holds. -/
  | look (l : Look)
  /-- The whole expression has matched. -/
  | done
deriving Repr, Inhabited

/-- A split that prefers its first target when greedy and its second otherwise. -/
def splitFor (greedy : Bool) (body skip : Nat) : Inst :=
  if greedy then .split body skip else .split skip body

mutual
/-- The expression may match the empty text, so that a loop over it must be entered through
an optional first pass to keep the preference order. -/
def Term.matchesEmpty : Term → Bool
  | .empty | .look _ => true
  | .literal .. | .charClass .. | .dot _ => false
  | .group _ r => r.matchesEmpty
  | .concat rs => allMatchEmpty rs
  | .alt rs => anyMatchesEmpty rs
  | .rep r lo _ _ => lo == 0 || r.matchesEmpty

/-- Every expression of the list may match the empty text. -/
def allMatchEmpty : List Term → Bool
  | [] => true
  | r :: rs => r.matchesEmpty && allMatchEmpty rs

/-- Some expression of the list may match the empty text. -/
def anyMatchesEmpty : List Term → Bool
  | [] => false
  | r :: rs => r.matchesEmpty || anyMatchesEmpty rs
end

mutual
/-- The program of an expression whose first instruction is at `pc`; its length does not
depend on `pc`. -/
def compile : Term → Nat → List Inst
  | .empty, _ => []
  | .literal c cl, _ => [.test (.literal c cl)]
  | .charClass items neg cl, _ => [.test (.charClass items neg cl)]
  | .dot nl, _ => [.test (.dot nl)]
  | .look l, _ => [.look l]
  | .group none r, pc => compile r pc
  | .group (some i) r, pc => .save (2 * i) :: compile r (pc + 1) ++ [.save (2 * i + 1)]
  | .concat rs, pc => compileSeq rs pc
  | .alt rs, pc => compileAlt rs pc
  | .rep r lo hi greedy, pc =>
    let size := (compile r 0).length
    let copies := fun (n : Nat) => (List.range n).flatMap fun k => compile r (pc + k * size)
    match hi with
    | some m =>
      let base := pc + lo * size
      let extra := m - lo
      let stop := base + extra * (size + 1)
      copies lo ++ (List.range extra).flatMap fun k =>
        let here := base + k * (size + 1)
        splitFor greedy (here + 1) stop :: compile r (here + 1)
    | none =>
      match lo with
      | 0 =>
        if r.matchesEmpty then
          splitFor greedy (pc + 1) (pc + size + 2) :: compile r (pc + 1) ++
            [splitFor greedy (pc + 1) (pc + size + 2)]
        else
          splitFor greedy (pc + 1) (pc + size + 2) :: compile r (pc + 1) ++ [.jump pc]
      | n + 1 =>
        let last := pc + n * size
        copies n ++ compile r last ++ [splitFor greedy last (last + size + 1)]
  termination_by r => (sizeOf r, 0)

/-- The programs of expressions one after another. -/
def compileSeq : List Term → Nat → List Inst
  | [], _ => []
  | r :: rs, pc =>
    let code := compile r pc
    code ++ compileSeq rs (pc + code.length)
  termination_by rs => (sizeOf rs, 1)

/-- The program of alternatives: each but the last is tried first and jumps past the rest. -/
def compileAlt : List Term → Nat → List Inst
  | [], _ => []
  | [r], pc => compile r pc
  | r :: rs, pc =>
    let code := compile r (pc + 1)
    let rest := compileAlt rs (pc + code.length + 2)
    .split (pc + 1) (pc + code.length + 2) :: code ++
      [.jump (pc + code.length + 2 + rest.length)] ++ rest
  termination_by rs => (sizeOf rs, 1)
end

/-- The machine's program for a pattern: record the match's bounds around the expression. -/
def Pattern.program (p : Pattern) : Array Inst :=
  (Inst.save 0 :: compile p.regex 1 ++ [Inst.save 1, Inst.done]).toArray

/-- A thread of the machine: where it is in the program and what it has captured. -/
structure Thread where
  pc : Nat
  caps : Array (Option Nat)
deriving Repr, Inhabited

/-- The character at a position, if any. -/
def charAt (text : Array Char) (pos : Nat) : Option Char := text[pos]?

/-- The position follows a word character. -/
def wordBefore (text : Array Char) (pos : Nat) : Bool :=
  match pos with
  | 0 => false
  | p + 1 => ((charAt text p).map isWordChar).getD false

/-- The position precedes a word character. -/
def wordAfter (text : Array Char) (pos : Nat) : Bool :=
  ((charAt text pos).map isWordChar).getD false

/-- An ASCII word character: a letter, a digit or an underscore. -/
def isAsciiWord (c : Char) : Bool := c.isAlphanum || c == '_'

/-- The position follows an ASCII word character. -/
def asciiWordBefore (text : Array Char) (pos : Nat) : Bool :=
  match pos with
  | 0 => false
  | p + 1 => ((charAt text p).map isAsciiWord).getD false

/-- The position precedes an ASCII word character. -/
def asciiWordAfter (text : Array Char) (pos : Nat) : Bool :=
  ((charAt text pos).map isAsciiWord).getD false

/-- An assertion holds at a position of the text. -/
def Look.holds (l : Look) (text : Array Char) (pos : Nat) : Bool :=
  match l with
  | .start false => pos == 0
  | .start true => pos == 0 || (pos > 0 && charAt text (pos - 1) == some '\n')
  | .finish false => pos == text.size
  | .finish true => pos == text.size || charAt text pos == some '\n'
  | .boundary neg => (wordBefore text pos != wordAfter text pos) != neg
  | .wordStart => !wordBefore text pos && wordAfter text pos
  | .wordEnd => wordBefore text pos && !wordAfter text pos
  | .asciiBoundary => asciiWordBefore text pos != asciiWordAfter text pos
  | .wordStartHalf => !wordBefore text pos
  | .wordEndHalf => !wordAfter text pos

/-- Follow the instructions that consume nothing from `pc`, at position `pos`, adding the
threads that wait on a character or have matched; each program point is entered once. -/
def follow (prog : Array Inst) (text : Array Char) (pos : Nat) :
    Nat → Array Bool × Array Thread → Nat → Array (Option Nat) → Array Bool × Array Thread
  | 0, acc, _, _ => acc
  | fuel + 1, (seen, out), pc, caps =>
    if seen[pc]?.getD true then (seen, out)
    else
      let seen := seen.setIfInBounds pc true
      match prog[pc]? with
      | none => (seen, out)
      | some (.jump t) => follow prog text pos fuel (seen, out) t caps
      | some (.split a b) =>
        let acc := follow prog text pos fuel (seen, out) a caps
        follow prog text pos fuel acc b caps
      | some (.save k) => follow prog text pos fuel (seen, out) (pc + 1) (caps.setIfInBounds k (some pos))
      | some (.look l) =>
        if l.holds text pos then follow prog text pos fuel (seen, out) (pc + 1) caps else (seen, out)
      | some (.test _) | some .done => (seen, out.push ⟨pc, caps⟩)

/-- One step over the character at `pos`: the threads for the next position, in priority order,
and the captures of a thread that matched here, which cuts the threads after it. -/
def advance (prog : Array Inst) (text : Array Char) (pos : Nat) (threads : List Thread) :
    (Array Bool × Array Thread) → Option (Array (Option Nat)) →
      (Array Bool × Array Thread) × Option (Array (Option Nat)) :=
  fun acc found =>
    match threads with
    | [] => (acc, found)
    | t :: rest =>
      match prog[t.pc]? with
      | some .done => (acc, some t.caps)
      | some (.test tst) =>
        match charAt text pos with
        | some c =>
          if tst.accepts c then
            advance prog text pos rest (follow prog text (pos + 1) (prog.size + 1) acc (t.pc + 1) t.caps) found
          else advance prog text pos rest acc found
        | none => advance prog text pos rest acc found
      | _ => advance prog text pos rest acc found

/-- The search from `pos`: a thread is started at every position until a match is found, and
the search goes on while threads that may still give a preferred match are alive. -/
def search (prog : Array Inst) (text : Array Char) (slots : Nat) (pos : Nat)
    (seen : Array Bool) (threads : Array Thread) (best : Option (Array (Option Nat))) :
    Option (Array (Option Nat)) :=
  let (_, threads) :=
    if best.isNone then follow prog text pos (prog.size + 1) (seen, threads) 0 (Array.replicate slots none)
    else (seen, threads)
  if threads.isEmpty && best.isSome then best
  else
    let ((seen', next), found) :=
      advance prog text pos threads.toList (Array.replicate prog.size false, #[]) none
    let best := if found.isSome then found else best
    if pos < text.size then search prog text slots (pos + 1) seen' next best else best
termination_by text.size + 1 - pos

/-- The spans of the groups held in a match's capture slots. -/
def Pattern.spansOf (p : Pattern) (caps : Array (Option Nat)) : Array (Option (Nat × Nat)) :=
  (Array.range (p.groups + 1)).map fun i =>
    match caps[2 * i]?, caps[2 * i + 1]? with
    | some (some a), some (some b) => some (a, b)
    | _, _ => none

/-- The spans of the groups of the first match that starts at `start` or later, group 0 being the
whole match, as character positions; none when there is no such match. -/
def Pattern.capturesFrom? (p : Pattern) (text : Array Char) (start : Nat) :
    Option (Array (Option (Nat × Nat))) :=
  let prog := p.program
  (search prog text (2 * (p.groups + 1)) start (Array.replicate prog.size false) #[] none).map
    p.spansOf

/-- The spans of the groups of the first match; none when the text has no match. -/
def Pattern.captures? (p : Pattern) (s : String) : Option (Array (Option (Nat × Nat))) :=
  p.capturesFrom? s.toList.toArray 0

/-- The pattern matches somewhere in the text. -/
def Pattern.isMatch (p : Pattern) (s : String) : Bool := (p.captures? s).isSome

end FeatureDocs.Regex
