import Dataflow.Sorting.Small

namespace Dataflow.Sorting

variable {α : Type} (less : α → α → Bool)

-- A stretch of the list. One that is not sorted has still to be.
structure Run (α : Type) where
  items : List α
  sorted : Bool

def Run.finish (quick : List α → Option (List α)) (run : Run α) : Option (List α) :=
  if run.sorted then some run.items else quick run.items

def stretch (next : α → α → Bool) (x : α) : List α → List α × List α
  | [] => ([], [])
  | y :: rest =>
    if next x y then
      let (run, after) := stretch next y rest
      (y :: run, after)
    else ([], y :: rest)

def natural : List α → List α × List α
  | x :: y :: rest =>
    if less y x then
      let (run, after) := stretch (fun a b => less b a) y rest
      ((x :: y :: run).reverse, after)
    else
      let (run, after) := stretch (fun a b => !less b a) y rest
      (x :: y :: run, after)
  | items => (items, [])

def squareRoot (n : Nat) : Nat :=
  let shift := (1 + n.log2) / 2
  (Nat.pow 2 shift + n / Nat.pow 2 shift) / 2

def goodLength (n : Nat) : Nat := if n ≤ 4096 then min (n - n / 2) 64 else squareRoot n

def nextRun (eager : Bool) (good : Nat) (items : List α) : Option (Run α × List α) :=
  let (run, after) := natural less items
  if good ≤ run.length then some (⟨run, true⟩, after)
  else if eager then (smallSort less (items.take smallBound)).map fun sorted => (⟨sorted, true⟩, items.drop smallBound)
  else some (⟨items.take good, false⟩, items.drop good)

def runs (eager : Bool) (good : Nat) : Nat → List α → Option (List (Run α))
  | 0, _ | _, [] => some []
  | fuel + 1, items => do
    let (run, after) ← nextRun less eager good items
    return run :: (← runs eager good fuel after)

def merge (left right : List α) : List α :=
  if left.length ≤ right.length then left.merge right fun l r => !less r l
  else (right.reverse.merge left.reverse fun r l => !less r l).reverse

-- How many items the buffer of a sort of `n` items holds, each of them 32 bytes.
def room (n : Nat) : Nat := max (n - n / 2) (min n 250000)

-- Two runs that are not sorted are made one if the buffer holds it.
def mergeRuns (quick : List α → Option (List α)) (room : Nat) (left right : Run α) : Option (Run α) :=
  if room < left.items.length + right.items.length ∨ left.sorted ∨ right.sorted then do
    let first ← left.finish quick
    let second ← right.finish quick
    some ⟨merge less first second, true⟩
  else some ⟨left.items ++ right.items, false⟩

def mergeDepth (n start middle stop : Nat) : Nat :=
  let scale := (0x4000000000000000 + n - 1) / n
  let differing := (scale * (start + middle)) ^^^ (scale * (middle + stop))
  if differing = 0 then 64 else 63 - differing.log2

def collapse (quick : List α → Option (List α)) (room depth : Nat) :
    List (Run α × Nat) → Run α → Option (List (Run α × Nat) × Run α)
  | [], last => some ([], last)
  | (left, waits) :: stack, last =>
    if depth ≤ waits then do collapse quick room depth stack (← mergeRuns less quick room left last)
    else some ((left, waits) :: stack, last)

def mergeAll (quick : List α → Option (List α)) (n : Nat) :
    List (Run α) → List (Run α × Nat) → Run α → Nat → Option (Run α)
  | [], stack, last, _ => (collapse less quick (room n) 0 stack last).map Prod.snd
  | next :: rest, stack, last, scanned => do
    let stop := scanned + next.items.length
    let depth := mergeDepth n (scanned - last.items.length) scanned stop
    let (stack, last) ← collapse less quick (room n) depth stack last
    mergeAll quick n rest ((last, depth) :: stack) next stop

def drift (eager : Bool) (quick : List α → Option (List α)) (items : List α) : Option (List α) := do
  match ← runs less eager (goodLength items.length) items.length items with
  | [] => some []
  | first :: rest =>
    (← mergeAll less quick items.length rest [] first first.items.length).finish quick

def median (a b c : α) : α :=
  if less a b = less a c then
    if less b c = less a b then b else c
  else a

-- The median of medians of about as many items as the cube root of `n`, which are those from `start` on.
def sample (items : List α) (first : α) (start n : Nat) : α :=
  if n < 8 then items.getD start first
  else median less (sample items first start (n / 8)) (sample items first (start + n / 8 * 4) (n / 8))
    (sample items first (start + n / 8 * 7) (n / 8))
termination_by n
decreasing_by all_goals omega

-- No item is less than `below`. Where the pivot is not greater than that, or no item is less than the pivot, those
-- that are not greater than the pivot are all equal. After too many turns it goes on by runs.
def quickSort : Nat → Option α → List α → Option (List α)
  | limit, below, items =>
    if items.length ≤ smallBound then smallSort less items
    else
      match limit with
      | 0 => drift less true some items
      | limit + 1 =>
        match items.head? with
        | none => some []
        | some first =>
          let pivot := sample less items first 0 items.length
          let lesser := items.filter (less · pivot)
          if below.any (!less · pivot) || lesser.isEmpty then do
            let greater ← quickSort limit none (items.filter (less pivot ·))
            some (items.filter (!less pivot ·) ++ greater)
          else do
            let high ← quickSort limit (some pivot) (items.filter (!less · pivot))
            let low ← quickSort limit below lesser
            some (low ++ high)

def turns (n : Nat) : Nat := 2 * (n ||| 1).log2

-- The stable sort. It may give up where the items have no order by which one is less than another.
def sort? (items : List α) : Option (List α) :=
  if items.length ≤ 20 then some (insertAll less [] items)
  else if items.length ≤ 2 * smallBound then drift less true some items
  else drift less false (fun items => quickSort less (turns items.length) none items) items

end Dataflow.Sorting
