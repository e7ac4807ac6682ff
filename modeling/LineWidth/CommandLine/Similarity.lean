/-! # Similar words

Two words are as similar as the part of them that matches: the longest run of characters common to
both, and then what matches on either side of it. Of equally long runs the one that starts first
counts, in the first word and then in the second.
-/

namespace LineWidth

/-- The number of characters that two words start with in common. -/
def commonStart : List Char → List Char → Nat
  | x :: xs, y :: ys => if x = y then commonStart xs ys + 1 else 0
  | _, _ => 0

/-- A run of characters common to two words: where it starts in each, and its size. -/
structure CommonRun where
  first : Nat
  second : Nat
  size : Nat
deriving DecidableEq, Repr

/-- The longer of two runs, and the known one when they are equally long. -/
def CommonRun.max (known found : CommonRun) : CommonRun :=
  if known.size < found.size then found else known

/-- The longest common run of two words. -/
def longestRun (first second : List Char) : CommonRun :=
  (List.range first.length).foldl
    (fun best i => (List.range second.length).foldl
      (fun best j => best.max ⟨i, j, commonStart (first.drop i) (second.drop j)⟩) best)
    ⟨0, 0, 0⟩

/-- The number of characters that match. Every run found is taken out of the first word, so its
length is fuel enough. -/
def matchedCount : (fuel : Nat) → List Char → List Char → Nat
  | 0, _, _ => 0
  | fuel + 1, first, second =>
    let run := longestRun first second
    if run.size = 0 then 0
    else
      matchedCount fuel (first.take run.first) (second.take run.second) + run.size +
        matchedCount fuel (first.drop (run.first + run.size)) (second.drop (run.second + run.size))

/-- A name with the part of its characters, and of those of a given word, that match. -/
structure Likeness where
  name : String
  matched : Nat
  total : Nat
deriving DecidableEq, Repr

namespace Likeness

/-- How like a name is to a word. -/
def of (word name : String) : Likeness :=
  ⟨name, matchedCount name.length name.toList word.toList, name.length + word.length⟩

/-- Names are close when at least six tenths match. -/
def isClose (likeness : Likeness) : Bool := 3 * likeness.total ≤ 10 * likeness.matched

/-- Closer names come first, and of equally close ones the greater. -/
def before (first second : Likeness) : Bool :=
  let here := first.matched * second.total
  let there := second.matched * first.total
  there < here || (here == there && decide (second.name ≤ first.name))

end Likeness

/-- Whether names of these lengths can be close at all. -/
def canBeClose (first second : Nat) : Bool := 3 * (first + second) ≤ 10 * min first second

/-- The names closest to a word, at most three, sorted. -/
def closeNames (word : String) (names : List String) : List String :=
  let possible := names.filter fun name => canBeClose name.length word.length
  let close := (possible.map (Likeness.of word)).filter Likeness.isClose
  (((close.mergeSort Likeness.before).take 3).map (·.name)).mergeSort fun x y => decide (x ≤ y)

end LineWidth
