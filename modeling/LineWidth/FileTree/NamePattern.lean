/-! # Patterns for names

In a pattern for one name a star stands for any characters, a question mark for one, and brackets
for one of a set. Names that start with a dot are matched like others, and case counts.
-/

namespace LineWidth

/-- One item of a pattern for a name. -/
inductive NameItem where
  | anything
  | anyChar
  | literal (c : Char)
  | set (negated : Bool) (ranges : List (Char × Char))
deriving DecidableEq, Repr

/-- For every place of a list, whether there is a `true` at it or after it. -/
def anyFrom (marks : List Bool) : List Bool :=
  marks.foldr (fun here later => (here || later.head?.getD false) :: later) []

namespace NameItem

/-- Whether one character fits an item that stands for one character. -/
def fits (c : Char) : NameItem → Bool
  | .anything => false
  | .anyChar => true
  | .literal expected => c == expected
  | .set negated ranges =>
    (ranges.any fun (first, last) => first.toNat ≤ c.toNat && c.toNat ≤ last.toNat) != negated

/-- For every suffix of a name, from the whole name to the empty one, whether it fits a sequence of
items. -/
def fitSuffixes (name : List Char) : List NameItem → List Bool
  | [] => name.map (fun _ => false) ++ [true]
  | .anything :: rest => anyFrom (fitSuffixes name rest)
  | item :: rest =>
    List.zipWith (fun c fitting => item.fits c && fitting) name ((fitSuffixes name rest).drop 1) ++
      [false]

/-- Whether a name fits a sequence of items. -/
def fitAll (items : List NameItem) (name : List Char) : Bool :=
  (fitSuffixes name items).head?.getD false

end NameItem

/-- Cut the inside of brackets at the hyphens that make ranges. A hyphen makes one only after
`least` characters of its piece, and after two in later pieces. `piece` holds the current piece,
last character first. -/
def rangePieces (least : Nat) (piece : List Char) : List Char → List (List Char)
  | [] => [piece.reverse]
  | c :: rest =>
    if c = '-' ∧ least ≤ piece.length then piece.reverse :: rangePieces 2 [] rest
    else rangePieces least (c :: piece) rest

/-- The pieces of the inside of brackets. A hyphen at the end stands for itself. -/
def setPieces (inside : List Char) : List (List Char) :=
  let pieces := rangePieces (if inside.head? = some '!' then 2 else 1) [] inside
  match pieces.reverse with
  | [] :: last :: earlier => ((last ++ ['-']) :: earlier).reverse
  | _ => pieces

/-- Drop the ranges that would be empty, from the last pair of pieces on: the pieces become one,
without the two ends. -/
def joinEmptyRanges : List (List Char) → List (List Char)
  | [] => []
  | piece :: rest =>
    match joinEmptyRanges rest with
    | [] => [piece]
    | next :: others =>
      match piece.getLast?, next.head? with
      | some last, some first =>
        if first.toNat < last.toNat then (piece.dropLast ++ next.drop 1) :: others
        else piece :: next :: others
      | _, _ => piece :: next :: others

/-- The set that pieces describe: their characters, and the range between each two neighbours. A
hyphen with no character before it stands for itself. -/
def setRanges : List (List Char) → List (Char × Char)
  | [] => []
  | piece :: rest =>
    let between := match piece.getLast?, rest with
      | some first, (last :: _) :: _ => [(first, last)]
      | none, _ :: _ => [('-', '-')]
      | _, _ => []
    piece.map (fun c => (c, c)) ++ between ++ setRanges rest

/-- The item that brackets stand for. An exclamation mark in front negates it, so that an empty set
fits nothing and its negation everything. -/
def setItem (inside : List Char) : NameItem :=
  match joinEmptyRanges (setPieces inside) with
  | ('!' :: first) :: rest => .set true (setRanges (first :: rest))
  | pieces => .set false (setRanges pieces)

/-- How many characters from just after an opening bracket on cannot close it: an exclamation mark,
and then a closing bracket, which stands for itself. -/
def setStart : List Char → Nat
  | '!' :: ']' :: _ => 2
  | '!' :: _ => 1
  | ']' :: _ => 1
  | _ => 0

/-- The inside of brackets, from just after the opening one; `none` when they do not close. -/
def setInside? (text : List Char) : Option (List Char) :=
  let start := setStart text
  let inside := text.take start ++ (text.drop start).takeWhile (· != ']')
  if inside.length < text.length then some inside else none

/-- The items of a pattern, whose first `skip` characters have been read. -/
def nameItems : (skip : Nat) → List Char → List NameItem
  | _, [] => []
  | skip + 1, _ :: rest => nameItems skip rest
  | 0, c :: rest =>
    if c = '*' then .anything :: nameItems 0 rest
    else if c = '?' then .anyChar :: nameItems 0 rest
    else if c = '[' then
      match setInside? rest with
      | some inside => setItem inside :: nameItems (inside.length + 1) rest
      | none => .literal c :: nameItems 0 rest
    else .literal c :: nameItems 0 rest

end LineWidth
