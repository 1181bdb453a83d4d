namespace Dataflow.Sorting

variable {α : Type} (less : α → α → Bool)

-- Puts an item behind the last of those in front of it that it is not less than. The front is held in reverse.
def slide (x : α) : List α → List α
  | [] => [x]
  | y :: front => if less x y then y :: slide x front else x :: y :: front

def insertAll (sorted items : List α) : List α :=
  (items.foldl (fun front x => slide less x front) sorted.reverse).reverse

def sortTwo (a b : α) : α × α := if less b a then (b, a) else (a, b)

def joinPairs (a b c d : α) : List α :=
  let lower := less c a
  let upper := less d b
  let least := if lower then c else a
  let greatest := if upper then b else d
  let inner := if lower then a else if upper then c else b
  let outer := if upper then d else if lower then b else c
  let middle := sortTwo less inner outer
  [least, middle.1, middle.2, greatest]

def sortFour (a b c d : α) : List α :=
  let (a, b) := sortTwo less a b
  let (c, d) := sortTwo less c d
  joinPairs less a b c d

-- Half of a short list. The first four items of a half are sorted on their own if the list has eight items or more.
def sortHalf (eight : Bool) : List α → List α
  | a :: b :: c :: d :: rest =>
    if eight then insertAll less (sortFour less a b c d) rest else insertAll less [] (a :: b :: c :: d :: rest)
  | items => insertAll less [] items

def draw (first : α → α → Bool) : Nat → List α → List α → List α × Nat
  | n + 1, x :: xs, y :: ys =>
    if first x y then
      let (taken, count) := draw first n xs (y :: ys)
      (x :: taken, count + 1)
    else
      let (taken, count) := draw first n (x :: xs) ys
      (y :: taken, count)
  | _, _, _ => ([], 0)

-- Merges two halves from both ends at once, as many items from either end as the left half has. If the two ends do
-- not meet, some item was taken twice and another one never: the items have no order, and nothing is returned.
def mergeEnds (left right : List α) : Option (List α) :=
  let half := left.length
  let (low, lowLeft) := draw (fun l r => !less r l) half left right
  let (high, highRight) := draw (fun r l => !less r l) half right.reverse left.reverse
  let lowRight := half - lowLeft
  let highLeft := half - highRight
  if lowLeft + highLeft ≤ left.length ∧ lowRight + highRight ≤ right.length then
    let between := (left.take (left.length - highLeft)).drop lowLeft ++ (right.take (right.length - highRight)).drop lowRight
    some (low ++ between ++ high.reverse)
  else none

def smallBound : Nat := 32

def smallSort (items : List α) : Option (List α) :=
  if items.length < 2 then some items
  else
    let eight := decide (8 ≤ items.length)
    mergeEnds less (sortHalf less eight (items.take (items.length / 2))) (sortHalf less eight (items.drop (items.length / 2)))

end Dataflow.Sorting
