/-
  Matching: one pattern against a text from one position on.

  The rest of the pattern is a continuation: a move hands every position at which it can end to what
  comes after it, and the first success counts.  All ways of matching share one memory, which a way
  that fails leaves behind.  It holds

  * the place of rest, where a group of moves was last begun or found complete.  A possessive
    repetition goes on from the place at which its last round came to rest, even if that round
    failed;
  * the marks of the groups.  When a way fails, the marks set first by it are dropped.  The marks
    that it moved go back to where they were only inside a repetition of more than one character;
    elsewhere they stay.

  A repetition goes on only from a position other than that at which its last free round began.
-/
import Conformance.Pattern.Move

namespace Conformance.Pattern

/-- What the ways of matching share: the place of rest, and the marks up to the last one that is
    set. -/
structure Memory where
  rest : Nat
  marks : List (Option Nat)

/-- Whether a way of matching succeeds, and the memory after it. -/
abbrev Verdict := Bool × Memory

/-- What comes after a move. -/
abbrev Continuation := Nat → Memory → Verdict

namespace Memory

/-- The memory before a match that begins at a position. -/
def fresh (position : Nat) : Memory := ⟨position, []⟩

/-- Comes to rest. -/
def restAt (m : Memory) (position : Nat) : Memory := { m with rest := position }

/-- Sets a mark; those that it passes over are unset. -/
def mark (m : Memory) (index position : Nat) : Memory :=
  if index < m.marks.length then { m with marks := m.marks.set index (some position) }
  else { m with
    marks := m.marks ++ List.replicate (index - m.marks.length) none ++ [some position] }

/-- Both marks of a group. -/
def marks? (m : Memory) (group : Nat) : Option (Nat × Nat) :=
  match (m.marks[2 * (group - 1)]?).join, (m.marks[2 * (group - 1) + 1]?).join with
  | some first, some last => some (first, last)
  | _, _ => none

/-- The span of a group that has matched. -/
def span? (m : Memory) (group : Nat) : Option (Nat × Nat) :=
  (m.marks? group).filter fun s => decide (s.1 ≤ s.2)

/-- The memory after a way has failed that was begun with `before`. -/
def undo (now : Memory) (repeating : Bool) (before : Memory) : Memory :=
  { now with
    marks := if repeating then before.marks else now.marks.take before.marks.length }

end Memory

/-- The end of a sequence of moves that stands on its own. -/
def done : Continuation := fun p m => (true, m.restAt p)

/-! ## Single characters -/

/-- Whether the text has a character at a position that passes a test. -/
def Single.passesAt (s : Single) (text : Array Nat) (p : Nat) : Bool :=
  match text[p]? with
  | some c => s.accepts c
  | none => false

/-- Where a run of characters that pass a test ends, if it takes no more than a number of them. -/
def Single.endOfRun (s : Single) (text : Array Nat) (p : Nat) : Nat → Nat
  | 0 => p
  | most + 1 => if s.passesAt text p then s.endOfRun text (p + 1) most else p

/-- Comes to rest before a run of characters, or after it if the test looks each of them up. -/
def Single.rest (s : Single) (first last : Nat) (m : Memory) : Memory :=
  m.restAt (if s.looksUp then last else first)

/-- Whether a sequence of moves can only begin with another character than the next one. -/
def startsElsewhere (text : Array Nat) (p : Nat) : List Move → Bool
  | .one (.exactly c) :: _ => !(Single.exactly c).passesAt text p
  | .one (.set u n members) :: _ => !(Single.set u n members).passesAt text p
  | _ => false

/-- The character that must come next if a sequence of moves begins with one as it is; `after` is
    what must come after the sequence. -/
def nextCharacter (after : Option Nat) : List Move → Option Nat
  | [] => after
  | .one (.exactly c) :: _ => some c
  | _ => none

/-- Whether the text repeats a span at a position. -/
def repeatsAt (text : Array Nat) (same : Nat → Nat → Bool) (first position : Nat) : Nat → Bool
  | 0 => true
  | length + 1 =>
    match text[first]?, text[position]? with
    | some a, some b => same a b && repeatsAt text same (first + 1) (position + 1) length
    | _, _ => false

/-! ## Anchors -/

/-- Whether the character at an index is one of a word. -/
def wordAt (text : Array Nat) (unicode : Bool) (i : Nat) : Bool :=
  match text[i]? with
  | some c => Category.word.has unicode c
  | none => false

/-- Whether a position lies between a word and what is none. -/
def atWordEdge (text : Array Nat) (unicode : Bool) (position : Nat) : Bool :=
  (position != 0 && wordAt text unicode (position - 1)) != wordAt text unicode position

/-- Whether an anchor holds at a position; those of words hold nowhere in an empty text. -/
def Anchor.holds (text : Array Nat) (flags : Flags) (position : Nat) : Anchor → Bool
  | .textStart => position == 0
  | .lineStart =>
    position == 0 || (flags.contains .multiline && text[position - 1]? == some 10)
  | .lineEnd =>
    position == text.size
      || (text[position]? == some 10 && (flags.contains .multiline || position + 1 == text.size))
  | .textEnd => position == text.size
  | .wordEdge => text.size != 0 && atWordEdge text (flags.contains .unicode) position
  | .noWordEdge => text.size != 0 && !atWordEdge text (flags.contains .unicode) position

/-! ## Repetitions of one character -/

/-- Tries what comes after a run from its end back to its shortest length, at most `tries` times:
    the run then ends at `shortest + tries - 1`.  Where the next character is known, positions
    before another one are passed over. -/
def retreat (text : Array Nat) (repeating : Bool) (after : Option Nat) (k : Continuation)
    (before : Memory) (shortest : Nat) : Nat → Memory → Verdict
  | 0, m => (false, m)
  | tries + 1, m =>
    let p := shortest + tries
    if after.any (fun c => text[p]? != some c) then
      retreat text repeating after k before shortest tries m
    else
      match k p (m.restAt p) with
      | (true, m) => (true, m)
      | (false, m) =>
        retreat text repeating after k before shortest tries (m.undo repeating before)

/-- Tries what comes after a run from its shortest length on, at most `tries` times. -/
def advance (text : Array Nat) (repeating : Bool) (s : Single) (k : Continuation)
    (before : Memory) : Nat → Continuation
  | 0, _, m => (false, m)
  | tries + 1, p, m =>
    match k p (m.restAt p) with
    | (true, m) => (true, m)
    | (false, m) =>
      let m := (m.undo repeating before).restAt p
      if s.passesAt text p then
        advance text repeating s k before tries (p + 1) (s.rest p (p + 1) m)
      else (false, m)

/-- A repetition of one character. -/
def runOfOne (text : Array Nat) (repeating : Bool) (after : Option Nat) (least : Nat)
    (most : Option Nat) (greed : Greed) (s : Single) (k : Continuation) : Continuation := fun p m =>
  let room := text.size - p
  if room < least then (false, m)
  else
    let longest := min room (most.getD room)
    let last := s.endOfRun text p (if greed = .lazy then least else longest)
    let m := s.rest p last m
    if last < p + least then (false, m)
    else match greed with
      | .greedy => retreat text repeating after k m (p + least) (last - (p + least) + 1) m
      | .lazy =>
        advance text repeating s k m (match most with
          | some n => n - least + 1
          | none => room + 1) last m
      | .possessive => k last m

/-! ## Repetitions -/

/-- Whether a repetition may do another round after `count` of them. -/
def mayRepeat (most : Option Nat) (count : Nat) (lastFree : Option Nat) (p : Nat) : Bool :=
  (match most with
    | some n => decide (count < n)
    | none => true) && lastFree != some p

/-- Comes to rest again where a way that failed was begun. -/
def backAt (p : Nat) : Verdict → Verdict
  | (true, m) => (true, m)
  | (false, m) => (false, m.restAt p)

/-- As many rounds as possible first. -/
def repeatGreedy (round : Continuation → Continuation) (least : Nat) (most : Option Nat)
    (k : Continuation) : Nat → Nat → Option Nat → Continuation
  | 0, _, _, _, m => (false, m)
  | fuel + 1, count, lastFree, p, m =>
    let m := m.restAt p
    if count < least then
      backAt p (round (repeatGreedy round least most k fuel (count + 1) lastFree) p m)
    else if mayRepeat most count lastFree p then
      -- one more round first; what comes after the repetition only if that fails
      match round (repeatGreedy round least most k fuel (count + 1) (some p)) p m with
      | (true, m) => (true, m)
      | (false, _) => backAt p (k p m)
    else backAt p (k p m)

/-- As few rounds as possible first; `repeating` tells that the repetition is part of another. -/
def repeatLazy (round : Continuation → Continuation) (repeating : Bool) (least : Nat)
    (most : Option Nat) (k : Continuation) : Nat → Nat → Option Nat → Continuation
  | 0, _, _, _, m => (false, m)
  | fuel + 1, count, lastFree, p, m =>
    let m := m.restAt p
    if count < least then
      backAt p (round (repeatLazy round repeating least most k fuel (count + 1) lastFree) p m)
    else
      match k p m with
      | (true, m) => (true, m)
      | (false, now) =>
        let m := (now.undo repeating m).restAt p
        if mayRepeat most count lastFree p then
          backAt p
            (round (repeatLazy round repeating least most k fuel (count + 1) (some p)) p m)
        else (false, m)

/-- The rounds that a possessive repetition must do, each from where the last one came to rest. -/
def neededRounds (round : Continuation) : Nat → Memory → Verdict
  | 0, m => (true, m)
  | count + 1, m =>
    match round m.rest m with
    | (true, m) => neededRounds round count m
    | (false, m) => (false, m)

/-- The rounds that a possessive repetition may do.  The one that fails leaves no marks, but its
    place of rest. -/
def freeRounds (round : Continuation) : Nat → Option Nat → Memory → Memory
  | 0, _, m => m
  | count + 1, lastFree, m =>
    if lastFree = some m.rest then m
    else match round m.rest m with
      | (true, now) => freeRounds round count (some m.rest) now
      | (false, now) => { now with marks := m.marks }

/-- As many rounds as possible, none of them ever reconsidered. -/
def repeatPossessive (round : Continuation) (least count : Nat) (k : Continuation) : Continuation :=
  fun p m =>
    match neededRounds round least (m.restAt p) with
    | (true, m) =>
      let m := freeRounds round count none m
      k m.rest m
    | (false, m) => (false, m.restAt p)

/-! ## Moves -/

/-- A bound for the free rounds of a repetition. -/
def roundLimit (text : Array Nat) : Nat := (text.size + 2) * (text.size + 2)

mutual

/-- Makes a move and what comes after it.  `repeating` tells that the move is part of a repetition,
    `after` the character that must come next after it, if one is known. -/
def Move.run (text : Array Nat) (repeating : Bool) (after : Option Nat) :
    Move → Continuation → Continuation
  | .one s, k => fun p m => if s.passesAt text p then k (p + 1) m else (false, m)
  | .anchor flags a, k => fun p m => if a.holds text flags p then k p m else (false, m)
  | .mark i, k => fun p m => k p (m.mark i p)
  | .choice alternatives, k => runChoice text repeating alternatives k
  | .timesOne least most greed s, k => runOfOne text repeating after least most greed s k
  | .times least most greed body, k =>
    let rounds := roundLimit text
    match greed with
    | .greedy => repeatGreedy (runAll text true none body) least most k (least + rounds) 0 none
    | .lazy =>
      repeatLazy (runAll text true none body) repeating least most k (least + rounds) 0 none
    | .possessive =>
      repeatPossessive (runAll text repeating none body done) least
        (min rounds (most.getD repeatLimit - least)) k
  | .atomic body, k => fun p m =>
    match runAll text repeating none body done p (m.restAt p) with
    | (true, m) => k m.rest m
    | (false, m) => (false, m.restAt p)
  | .reference flags n, k => fun p m =>
    match m.span? n with
    | some (first, last) =>
      if repeatsAt text (textMatches flags) first p (last - first) then k (p + (last - first)) m
      else (false, m)
    | none => (false, m)
  | .ifGroup n both yes no, k => fun p m =>
    if (m.span? n).isSome then runAll text repeating (if both then none else after) yes k p m
    else runAll text repeating after no k p m
  | .look false back body, k => fun p m =>
    if p < back then (false, m)
    else
      match runAll text repeating none body done (p - back) (m.restAt (p - back)) with
      | (true, m) => k p m
      | (false, m) => (false, m)
  | .look true back body, k => fun p m =>
    if p < back then k p m
    else
      match runAll text repeating none body done (p - back) (m.restAt (p - back)) with
      | (true, m) => (false, m)
      | (false, now) => k p (now.undo repeating m)

/-- Makes moves in order, and what comes after them. -/
def runAll (text : Array Nat) (repeating : Bool) (after : Option Nat) :
    List Move → Continuation → Continuation
  | [], k => k
  | move :: rest, k =>
    move.run text repeating (nextCharacter after rest) (runAll text repeating after rest k)

/-- Makes the first of several alternatives that lets what comes after it succeed as well. -/
def runChoice (text : Array Nat) (repeating : Bool) : List (List Move) → Continuation → Continuation
  | [], _ => fun _ m => (false, m)
  | a :: rest, k => fun p m =>
    if startsElsewhere text p a then runChoice text repeating rest k p m
    else
      match runAll text repeating none a k p (m.restAt p) with
      | (true, m) => (true, m)
      | (false, now) => runChoice text repeating rest k p (now.undo repeating m)

end

end Conformance.Pattern
