import Dataflow.Proofs.Sorting.Arranged
import Dataflow.Sorting.Small

namespace Dataflow.Sorting

variable {α κ : Type} [LinearOrder κ] {less : α → α → Bool} {key : α → κ} {a b c d x y : α} {xs ys front : List α}

theorem Follows.not (follows : Follows less key) (x y : α) : (!less x y) = true ↔ key y ≤ key x := by
  rw [Bool.not_eq_true', ← Bool.not_eq_true, follows, not_lt]

-- The lists in reverse are in order by the keys the other way round.
theorem Ordered.reverse (ordered : Ordered key xs) : Ordered (OrderDual.toDual ∘ key) xs.reverse :=
  List.pairwise_reverse.mpr ordered

theorem Ordered.of_reverse (falling : Ordered (OrderDual.toDual ∘ key) xs) : Ordered key xs.reverse :=
  List.pairwise_reverse.mpr falling

theorem Ordered.cons (le : key x ≤ key y) (ordered : Ordered key (y :: ys)) : Ordered key (x :: y :: ys) := by
  refine List.pairwise_cons.mpr ⟨?_, ordered⟩
  intro z member
  rcases List.mem_cons.mp member with rfl | later
  · exact le
  · exact le.trans ((List.pairwise_cons.mp ordered).1 z later)

theorem Ordered.pair (ordered : Ordered key [x, y]) : key x ≤ key y := (List.pairwise_cons.mp ordered).1 y List.mem_cons_self

theorem Alike.of_dual (alike : Alike (OrderDual.toDual ∘ key) xs ys) : Alike key xs ys := alike

theorem slide_alike (follows : Follows less key) (x : α) (front : List α) : Alike key (slide less x front) (x :: front) := by
  induction front with
  | nil => exact .refl _
  | cons y front ih =>
    rw [slide]
    split
    · rename_i before
      have other : ∀ z ∈ [x], key z ≠ key y := by
        intro z member
        rw [List.mem_singleton.mp member]
        exact ((follows x y).mp before).ne
      exact (ih.cons y).trans (.pass other)
    · exact .refl _

theorem slide_ordered (follows : Follows less key) (falling : Ordered (OrderDual.toDual ∘ key) front) :
    Ordered (OrderDual.toDual ∘ key) (slide less x front) := by
  induction front with
  | nil => exact List.pairwise_singleton _ _
  | cons y front ih =>
    obtain ⟨greatest, behind⟩ := List.pairwise_cons.mp falling
    rw [slide]
    split
    · rename_i before
      refine List.pairwise_cons.mpr ⟨?_, ih behind⟩
      intro z member
      rcases List.mem_cons.mp ((slide_alike follows x front).mem.mp member) with rfl | earlier
      · exact ((follows _ _).mp before).le
      · exact greatest z earlier
    · rename_i kept
      exact .cons (not_lt.mp (mt (follows x y).mpr kept)) falling

theorem insertAll_arranges (follows : Follows less key) (ordered : Ordered key xs) (items : List α) :
    Arranges key (insertAll less xs items) (xs ++ items) := by
  have folded : ∀ front : List α, Ordered (OrderDual.toDual ∘ key) front →
      Arranges (OrderDual.toDual ∘ key) (items.foldl (fun front x => slide less x front) front) (items.reverse ++ front) := by
    induction items with
    | nil => exact fun front falling => ⟨falling, .refl front⟩
    | cons x items ih =>
      intro front falling
      refine (ih (slide less x front) (slide_ordered follows falling)).of_alike ?_
      rw [List.reverse_cons, List.append_assoc]
      exact (Alike.refl _).append (slide_alike follows x front)
  obtain ⟨falls, alike⟩ := folded xs.reverse ordered.reverse
  have front := alike.of_dual.reverse
  rw [List.reverse_append, List.reverse_reverse, List.reverse_reverse] at front
  exact ⟨falls.of_reverse, front⟩

theorem sortTwo_arranges (follows : Follows less key) (a b : α) :
    Arranges key [(sortTwo less a b).1, (sortTwo less a b).2] [a, b] := by
  unfold sortTwo
  split
  · rename_i swapped
    have before := (follows b a).mp swapped
    refine ⟨List.pairwise_pair.mpr before.le, ?_⟩
    have passed : Alike key (b :: ([a] ++ [])) ([a] ++ [b]) := .pass (by simpa using before.ne')
    exact passed
  · rename_i kept
    exact ⟨List.pairwise_pair.mpr (not_lt.mp (mt (follows b a).mpr kept)), .refl _⟩

theorem joinPairs_merge (follows : Follows less key) (low : key a ≤ key b) (high : key c ≤ key d) :
    joinPairs less a b c d = [a, b].merge [c, d] fun l r => !less r l := by
  have follow : ∀ x y, less x y = decide (key x < key y) := fun x y => by
    rw [Bool.eq_iff_iff, follows, decide_eq_true_iff]
  simp only [joinPairs, sortTwo, List.merge, follow]
  grind

theorem sortFour_arranges (follows : Follows less key) (a b c d : α) :
    Arranges key (sortFour less a b c d) [a, b, c, d] := by
  have first := sortTwo_arranges follows a b
  have second := sortTwo_arranges follows c d
  have joined := joinPairs_merge follows first.ordered.pair second.ordered.pair
  have merged := merge_arranges (fun l r => follows.not r l) first.ordered second.ordered
  rw [← joined] at merged
  exact merged.of_alike (first.alike.append second.alike)

theorem sortHalf_arranges (follows : Follows less key) (eight : Bool) (items : List α) :
    Arranges key (sortHalf less eight items) items := by
  have inserted (items : List α) : Arranges key (insertAll less [] items) items :=
    insertAll_arranges follows .nil items
  unfold sortHalf
  split
  · rename_i a b c d rest
    split
    · have four := sortFour_arranges follows a b c d
      exact (insertAll_arranges follows four.ordered rest).of_alike (four.alike.append (.refl rest))
    · exact inserted _
  · exact inserted _

-- What is taken from the fronts of two lists, `us` of the one and `vs` of the other, when `n` items are.
structure Drawn (key : α → κ) (n : Nat) (drawn : List α × Nat) (us xs vs ys : List α) : Prop where
  count : us.length = drawn.2
  total : us.length + vs.length = n
  arranges : Arranges key drawn.1 (us ++ vs)
  first : ∀ u ∈ us, ∀ y ∈ ys, key u ≤ key y
  second : ∀ v ∈ vs, ∀ x ∈ xs, key v < key x

theorem draw_drawn {first : α → α → Bool} (lets : ∀ x y, first x y ↔ key x ≤ key y) (n : Nat) {xs ys : List α}
    (ordered : Ordered key xs) (ordered' : Ordered key ys) (long : n ≤ xs.length) (long' : n ≤ ys.length) :
    ∃ us xs' vs ys', xs = us ++ xs' ∧ ys = vs ++ ys' ∧ Drawn key n (draw first n xs ys) us xs' vs ys' := by
  fun_induction draw first n xs ys with
  | case1 n x xs y ys before taken count same ih =>
    obtain ⟨least, behind⟩ := List.pairwise_cons.mp ordered
    obtain ⟨us, xs, vs, ys', rfl, split, drawn⟩ := ih behind ordered' (Nat.le_of_succ_le_succ long) (Nat.le_of_succ_le long')
    rw [same] at drawn
    have le : ∀ z ∈ y :: ys, key x ≤ key z := by
      have le := (lets x y).mp before
      exact List.forall_mem_cons.mpr ⟨le, fun z member => le.trans ((List.pairwise_cons.mp ordered').1 z member)⟩
    rw [split] at le
    refine ⟨x :: us, xs, vs, ys', rfl, split, ?_, ?_, ?_, ?_, drawn.second⟩
    · exact congrArg (· + 1) drawn.count
    · rw [← drawn.total, List.length_cons]
      omega
    · have single : Arranges key [x] [x] := ⟨List.pairwise_singleton _ _, .refl _⟩
      refine single.append drawn.arranges ?_
      intro z head w member
      rw [List.mem_singleton.mp head]
      rcases List.mem_append.mp member with own | other
      · exact least w (List.mem_append_left _ own)
      · exact le w (List.mem_append_left _ other)
    · exact List.forall_mem_cons.mpr ⟨fun z member => le z (List.mem_append_right _ member), drawn.first⟩
  | case2 n x xs y ys before taken count same ih =>
    obtain ⟨least, behind⟩ := List.pairwise_cons.mp ordered'
    obtain ⟨us, xs', vs, ys, split, rfl, drawn⟩ := ih ordered behind (Nat.le_of_succ_le long) (Nat.le_of_succ_le_succ long')
    rw [same] at drawn
    have lt : ∀ z ∈ x :: xs, key y < key z := by
      have lt := not_le.mp (mt (lets x y).mpr before)
      exact List.forall_mem_cons.mpr ⟨lt, fun z member => lt.trans_le ((List.pairwise_cons.mp ordered).1 z member)⟩
    rw [split] at lt
    refine ⟨us, xs', y :: vs, ys, split, rfl, drawn.count, ?_, ?_, drawn.first, ?_⟩
    · rw [← drawn.total, List.length_cons]
      omega
    · refine ⟨List.pairwise_cons.mpr ⟨?_, drawn.arranges.ordered⟩, (drawn.arranges.alike.cons y).trans (.pass ?_)⟩
      · intro w member
        rcases List.mem_append.mp (drawn.arranges.alike.mem.mp member) with other | own
        · exact (lt w (List.mem_append_left _ other)).le
        · exact least w (List.mem_append_left _ own)
      · intro w member
        exact (lt w (List.mem_append_left _ member)).ne'
    · exact List.forall_mem_cons.mpr ⟨fun z member => lt z (List.mem_append_right _ member), drawn.second⟩
  | case3 n xs ys stop =>
    have none : n = 0 := by
      cases n with
      | zero => rfl
      | succ n =>
        match xs, ys with
        | x :: xs, y :: ys => exact (stop n x xs y ys rfl rfl rfl).elim
        | [], _ => cases long
        | _, [] => cases long'
    exact ⟨[], xs, [], ys, rfl, rfl, rfl, none.symm, ⟨.nil, .refl _⟩, nofun, nofun⟩

theorem split_between {as bs cs ds : List α} (same : as ++ bs = cs ++ ds) (short : as.length ≤ cs.length) :
    ∃ ms, cs = as ++ ms ∧ bs = ms ++ ds := by
  obtain ⟨ms, rfl⟩ := List.prefix_of_prefix_length_le (same ▸ List.prefix_append as bs) (List.prefix_append cs ds) short
  rw [List.append_assoc] at same
  exact ⟨ms, rfl, List.append_cancel_left same⟩

theorem split_shared {as bs cs ds : List α} (same : as ++ bs = cs ++ ds) (long : cs.length < as.length) :
    ∃ x, x ∈ as ∧ x ∈ ds := by
  obtain ⟨ms, rfl, rfl⟩ := split_between same.symm long.le
  obtain ⟨x, rest, rfl⟩ := List.exists_cons_of_length_pos (l := ms) (by simp at long; omega)
  exact ⟨x, by simp, by simp⟩

-- What is taken from the low ends, what is left between and what is taken from the high ends.
theorem ends_arrange {low high ls lm ln rs rm rn : List α} (below : Arranges key low (ls ++ rs))
    (above : Arranges key high (ln ++ rn)) (ordered : Ordered key (ls ++ (lm ++ ln))) (ordered' : Ordered key (rs ++ (rm ++ rn)))
    (first : ∀ l ∈ ls, ∀ r ∈ rm ++ rn, key l ≤ key r) (second : ∀ r ∈ rs, ∀ l ∈ lm ++ ln, key r < key l)
    (third : ∀ r ∈ rn, ∀ l ∈ ls ++ lm, key l ≤ key r) (fourth : ∀ l ∈ ln, ∀ r ∈ rs ++ rm, key r < key l)
    (few : lm = [] ∨ rm = []) : Arranges key (low ++ ((lm ++ rm) ++ high)) ((ls ++ (lm ++ ln)) ++ (rs ++ (rm ++ rn))) := by
  obtain ⟨_, ordered, lowest⟩ := List.pairwise_append.mp ordered
  obtain ⟨inner, _, highest⟩ := List.pairwise_append.mp ordered
  obtain ⟨_, ordered', lowest'⟩ := List.pairwise_append.mp ordered'
  obtain ⟨inner', _, highest'⟩ := List.pairwise_append.mp ordered'
  have middle : Arranges key (lm ++ rm) (lm ++ rm) := by
    refine ⟨?_, .refl _⟩
    rcases few with rfl | rfl
    · exact inner'
    · rw [List.append_nil]
      exact inner
  have under : ∀ x ∈ lm ++ rm, ∀ y ∈ ln ++ rn, key x ≤ key y := by
    intro x here y there
    rcases List.mem_append.mp here with left | right <;> rcases List.mem_append.mp there with left' | right'
    · exact highest x left y left'
    · exact third y right' x (List.mem_append_right _ left)
    · exact (fourth y left' x (List.mem_append_right _ right)).le
    · exact highest' x right y right'
  have bottom : ∀ x ∈ ls ++ rs, ∀ y ∈ (lm ++ rm) ++ (ln ++ rn), key x ≤ key y := by
    intro x here y there
    have side : y ∈ lm ++ ln ∨ y ∈ rm ++ rn := by
      simp only [List.mem_append] at there ⊢
      exact or_or_or_comm.mp there
    rcases List.mem_append.mp here with left | right <;> rcases side with left' | right'
    · exact lowest x left y left'
    · exact first x left y right'
    · exact (second x right y left').le
    · exact lowest' x right y right'
  refine (below.append (middle.append above under) bottom).of_alike ?_
  -- The right items that stand too far in front pass the left items that stand behind them.
  have pass : Alike key (rm ++ ln) (ln ++ rm) :=
    .swap fun r there l here => (fourth l here r (List.mem_append_right _ there)).ne
  have passLow : Alike key (rs ++ (lm ++ ln)) ((lm ++ ln) ++ rs) := .swap fun r there l here => (second r there l here).ne
  have inward : Alike key (rs ++ (lm ++ (rm ++ ln))) ((lm ++ ln) ++ (rs ++ rm)) := by
    have same : Alike key (rs ++ lm) (rs ++ lm) := .refl _
    have moved := same.append pass
    have moved' := passLow.append (.refl rm)
    simp only [List.append_assoc] at moved moved' ⊢
    exact moved.trans moved'
  have same : Alike key ls ls := .refl ls
  have whole := (same.append inward).append (.refl rn)
  simpa only [List.append_assoc] using whole

-- Taking from the high ends is taking from the fronts of the lists in reverse.
theorem draw_back (follows : Follows less key) {left right : List α} (n : Nat) (ordered : Ordered key left)
    (ordered' : Ordered key right) (long : n ≤ left.length) (long' : n ≤ right.length) :
    ∃ lv ln rv rn, left = lv ++ ln ∧ right = rv ++ rn ∧
      rn.length = (draw (fun r l => !less r l) n right.reverse left.reverse).2 ∧ rn.length + ln.length = n ∧
      Arranges key (draw (fun r l => !less r l) n right.reverse left.reverse).1.reverse (ln ++ rn) ∧
      (∀ r ∈ rn, ∀ l ∈ lv, key l ≤ key r) ∧ ∀ l ∈ ln, ∀ r ∈ rv, key r < key l := by
  have lets : ∀ r l, !less r l ↔ (OrderDual.toDual ∘ key) r ≤ (OrderDual.toDual ∘ key) l := fun r l => follows.not r l
  obtain ⟨rn, rv, ln, lv, rightBack, leftBack, drawn⟩ :=
    draw_drawn lets n ordered'.reverse ordered.reverse (by simpa using long') (by simpa using long)
  have alike := drawn.arranges.alike.of_dual.reverse
  rw [List.reverse_append] at alike
  refine ⟨lv.reverse, ln.reverse, rv.reverse, rn.reverse, ?_, ?_, ?_, ?_, ⟨drawn.arranges.ordered.of_reverse, alike⟩, ?_, ?_⟩
  · simpa using congrArg List.reverse leftBack
  · simpa using congrArg List.reverse rightBack
  · simpa using drawn.count
  · simpa using drawn.total
  · simpa using drawn.first
  · simpa using drawn.second

-- No item is taken from both ends.
theorem ends_meet {ls lu lv ln rs ru rv rn : List α} (left : ls ++ lu = lv ++ ln) (right : rs ++ ru = rv ++ rn)
    (low : ls.length + rs.length = (ls ++ lu).length) (high : rn.length + ln.length = (ls ++ lu).length)
    (short : (ls ++ lu).length ≤ (rs ++ ru).length) (first : ∀ l ∈ ls, ∀ r ∈ ru, key l ≤ key r)
    (second : ∀ r ∈ rs, ∀ l ∈ lu, key r < key l) (third : ∀ r ∈ rn, ∀ l ∈ lv, key l ≤ key r)
    (fourth : ∀ l ∈ ln, ∀ r ∈ rv, key r < key l) : ls.length ≤ lv.length ∧ rs.length ≤ rv.length := by
  have leftLength := congrArg List.length left
  have rightLength := congrArg List.length right
  simp only [List.length_append] at *
  constructor
  · by_contra far
    obtain ⟨l, taken, taken'⟩ := split_shared left (not_le.mp far)
    obtain ⟨r, untaken, untaken'⟩ := split_shared right.symm (by omega)
    exact (first l taken r untaken').not_gt (fourth l taken' r untaken)
  · by_contra far
    obtain ⟨r, taken, taken'⟩ := split_shared right (not_le.mp far)
    obtain ⟨l, untaken, untaken'⟩ := split_shared left.symm (by omega)
    exact (second r taken l untaken').not_ge (third r taken' l untaken)

theorem mergeEnds_arranges (follows : Follows less key) {left right : List α} (ordered : Ordered key left)
    (ordered' : Ordered key right) (short : left.length ≤ right.length) (long : right.length ≤ left.length + 1) :
    ∃ merged, mergeEnds less left right = some merged ∧ Arranges key merged (left ++ right) := by
  obtain ⟨ls, lu, rs, ru, rfl, rfl, drawn⟩ :=
    draw_drawn (fun l r => follows.not r l) left.length ordered ordered' le_rfl short
  obtain ⟨lv, ln, rv, rn, leftBack, rightBack, count, total, above, third, fourth⟩ :=
    draw_back follows _ ordered ordered' le_rfl short
  obtain ⟨near, near'⟩ := ends_meet leftBack rightBack drawn.total total short drawn.first drawn.second third fourth
  obtain ⟨lm, rfl, rfl⟩ := split_between leftBack near
  obtain ⟨rm, rfl, rfl⟩ := split_between rightBack near'
  have few : lm = [] ∨ rm = [] := by
    have total' := drawn.total
    simp only [List.length_append] at *
    rcases Nat.eq_zero_or_pos lm.length with none | some
    · exact .inl (List.length_eq_zero_iff.mp none)
    · exact .inr (List.length_eq_zero_iff.mp (by omega))
  have lowRight : (ls ++ (lm ++ ln)).length - ls.length = rs.length := Nat.sub_eq_of_eq_add' drawn.total.symm
  have highLeft : (ls ++ (lm ++ ln)).length - rn.length = ln.length := Nat.sub_eq_of_eq_add' total.symm
  refine ⟨_, ?_, ends_arrange drawn.arranges above ordered ordered' drawn.first drawn.second third fourth few⟩
  unfold mergeEnds
  dsimp only
  rw [← drawn.count, ← count, lowRight, highLeft, if_pos (by simp only [List.length_append]; omega)]
  have between (as ms bs : List α) :
      ((as ++ (ms ++ bs)).take ((as ++ (ms ++ bs)).length - bs.length)).drop as.length = ms := by
    have kept : (as ++ (ms ++ bs)).length - bs.length = (as ++ ms).length := by
      simp only [List.length_append]
      omega
    rw [kept, ← List.append_assoc, List.take_left, List.drop_left]
  rw [between ls lm ln, between rs rm rn, List.append_assoc]

theorem smallSort_arranges (follows : Follows less key) (items : List α) :
    ∃ sorted, smallSort less items = some sorted ∧ Arranges key sorted items := by
  unfold smallSort
  split
  · rename_i short
    refine ⟨items, rfl, ?_, .refl items⟩
    match items with
    | [] => exact .nil
    | [x] => exact List.pairwise_singleton _ x
  · rename_i long
    have left := sortHalf_arranges follows (decide (8 ≤ items.length)) (items.take (items.length / 2))
    have right := sortHalf_arranges follows (decide (8 ≤ items.length)) (items.drop (items.length / 2))
    have leftLength := left.alike.perm.length_eq
    have rightLength := right.alike.perm.length_eq
    simp only [List.length_take, List.length_drop] at leftLength rightLength
    obtain ⟨sorted, merged, arranges⟩ := mergeEnds_arranges follows left.ordered right.ordered (by omega) (by omega)
    refine ⟨sorted, merged, arranges.of_alike ?_⟩
    have whole := left.alike.append right.alike
    rwa [List.take_append_drop] at whole

end Dataflow.Sorting
