import Dataflow.Proofs.Sorting.Small
import Dataflow.Sorting.Runs

namespace Dataflow.Sorting

variable {α κ : Type} [LinearOrder κ] {less : α → α → Bool} {key : α → κ} {x y : α} {xs ys items : List α}
  {quick : List α → Option (List α)} {eager : Bool}

theorem stretch_split (next : α → α → Bool) (x : α) (items : List α) :
    (stretch next x items).1 ++ (stretch next x items).2 = items := by
  fun_induction stretch next x items with
  | case1 => rfl
  | case2 x y rest follows run after same ih =>
    rw [same] at ih
    exact congrArg (y :: ·) ih
  | case3 => rfl

theorem stretch_pairwise {next : α → α → Bool} {related : α → α → Prop} (trans : ∀ x y z, related x y → related y z → related x z)
    (lets : ∀ x y, next x y → related x y) (x : α) (items : List α) : (x :: (stretch next x items).1).Pairwise related := by
  fun_induction stretch next x items with
  | case1 => exact List.pairwise_singleton _ _
  | case2 x y rest follows run after same ih =>
    rw [same] at ih
    refine List.pairwise_cons.mpr ⟨?_, ih⟩
    intro z member
    rcases List.mem_cons.mp member with rfl | later
    · exact lets _ _ follows
    · exact trans _ _ _ (lets _ _ follows) ((List.pairwise_cons.mp ih).1 z later)
  | case3 => exact List.pairwise_singleton _ _

theorem natural_arranges (follows : Follows less key) (items : List α) :
    ∃ start, items = start ++ (natural less items).2 ∧ Arranges key (natural less items).1 start := by
  unfold natural
  split
  · rename_i x y rest
    split
    · rename_i falls
      have split := stretch_split (fun a b => less b a) y rest
      have falling : (x :: y :: (stretch (fun a b => less b a) y rest).1).Pairwise fun x y => key y < key x := by
        have behind : (y :: (stretch (fun a b => less b a) y rest).1).Pairwise fun x y => key y < key x :=
          stretch_pairwise (fun x y z first second => second.trans first) (fun x y => (follows y x).mp) y rest
        refine List.pairwise_cons.mpr ⟨?_, behind⟩
        intro z member
        rcases List.mem_cons.mp member with rfl | later
        · exact (follows _ _).mp falls
        · exact ((List.pairwise_cons.mp behind).1 z later).trans ((follows _ _).mp falls)
      refine ⟨x :: y :: (stretch (fun a b => less b a) y rest).1, by simp [split], ?_, ?_⟩
      · exact List.pairwise_reverse.mpr (falling.imp le_of_lt)
      · exact .reversed (falling.imp fun lt => lt.ne')
    · rename_i rises
      have split := stretch_split (fun a b => !less b a) y rest
      have behind : Ordered key (y :: (stretch (fun a b => !less b a) y rest).1) :=
        @stretch_pairwise α _ (fun x y => key x ≤ key y) (fun x y z => le_trans) (fun x y => (follows.not y x).mp) y rest
      exact ⟨x :: y :: (stretch (fun a b => !less b a) y rest).1, by simp [split],
        .cons (not_lt.mp (mt (follows y x).mpr rises)) behind, .refl _⟩
  · rename_i short
    refine ⟨items, by simp, ?_, .refl _⟩
    match items, short with
    | [], _ => exact .nil
    | [x], _ => exact List.pairwise_singleton _ x
    | x :: y :: rest, short => exact (short x y rest rfl).elim

theorem natural_moves (items : List α) (some : items ≠ []) : (natural less items).2.length < items.length := by
  match items with
  | [x] => exact Nat.zero_lt_one
  | x :: y :: rest =>
    have up := congrArg List.length (stretch_split (fun a b => !less b a) y rest)
    have down := congrArg List.length (stretch_split (fun a b => less b a) y rest)
    simp only [List.length_append] at up down
    rw [natural]
    split
    · simp only [List.length_cons]
      omega
    · simp only [List.length_cons]
      omega

-- What is not sorted yet is left to a sort that sorts.
def Sorts (key : α → κ) (quick : List α → Option (List α)) : Prop :=
  ∀ items, ∃ sorted, quick items = some sorted ∧ Arranges key sorted items

structure Run.Proper (key : α → κ) (quick : List α → Option (List α)) (run : Run α) : Prop where
  ordered : run.sorted → Ordered key run.items
  sorts : ¬run.sorted → Sorts key quick

theorem Run.Proper.finished {run : Run α} (proper : run.Proper key quick) :
    ∃ sorted, run.finish quick = some sorted ∧ Arranges key sorted run.items := by
  unfold Run.finish
  split
  · rename_i ordered
    exact ⟨run.items, rfl, proper.ordered ordered, .refl _⟩
  · rename_i unsorted
    exact proper.sorts unsorted run.items

theorem nextRun_proper (follows : Follows less key) (capable : eager ∨ Sorts key quick) (good : Nat) (some : items ≠ []) :
    ∃ run after start, nextRun less eager good items = .some (run, after) ∧ run.Proper key quick ∧
      items = start ++ after ∧ Alike key run.items start ∧ after.length < items.length := by
  obtain ⟨start, split, arranges⟩ := natural_arranges follows items
  have positive : 0 < items.length := List.length_pos_iff.mpr some
  unfold nextRun
  dsimp only
  split
  · exact ⟨_, _, start, rfl, ⟨fun _ => arranges.ordered, nofun⟩, split, arranges.alike, natural_moves items some⟩
  · rename_i poor
    split
    · obtain ⟨sorted, small, arranges⟩ := smallSort_arranges follows (items.take smallBound)
      rw [small]
      refine ⟨_, _, items.take smallBound, rfl, ⟨fun _ => arranges.ordered, nofun⟩, (List.take_append_drop _ _).symm,
        arranges.alike, ?_⟩
      simp only [smallBound, List.length_drop]
      omega
    · rename_i lazy
      refine ⟨_, _, items.take good, rfl, ⟨nofun, fun _ => capable.resolve_left lazy⟩, (List.take_append_drop _ _).symm,
        .refl _, ?_⟩
      simp only [List.length_drop]
      omega

theorem runs_proper (follows : Follows less key) (capable : eager ∨ Sorts key quick) (good fuel : Nat) (items : List α)
    (enough : items.length ≤ fuel) : ∃ list, runs less eager good fuel items = some list ∧
      (∀ run ∈ list, run.Proper key quick) ∧ Alike key (list.flatMap Run.items) items := by
  induction fuel generalizing items with
  | zero =>
    obtain rfl := List.length_eq_zero_iff.mp (Nat.le_zero.mp enough)
    exact ⟨[], rfl, nofun, .refl []⟩
  | succ fuel ih =>
    cases items with
    | nil => exact ⟨[], rfl, nofun, .refl []⟩
    | cons x rest =>
      obtain ⟨run, after, start, next, proper, split, alike, shorter⟩ :=
        nextRun_proper follows capable good (List.cons_ne_nil x rest)
      obtain ⟨list, later, propers, alikes⟩ := ih after (by omega)
      refine ⟨run :: list, ?_, List.forall_mem_cons.mpr ⟨proper, propers⟩, ?_⟩
      · simp [runs, next, later]
      · rw [split, List.flatMap_cons]
        exact alike.append alikes

theorem merge_both (follows : Follows less key) {left right : List α} (ordered : Ordered key left) (ordered' : Ordered key right) :
    Arranges key (merge less left right) (left ++ right) := by
  unfold merge
  split
  · exact merge_arranges (fun l r => follows.not r l) ordered ordered'
  · have merged : Arranges (OrderDual.toDual ∘ key) (right.reverse.merge left.reverse fun r l => !less r l) _ :=
      merge_arranges (fun r l => follows.not r l) ordered'.reverse ordered.reverse
    have alike := merged.alike.of_dual.reverse
    rw [List.reverse_append, List.reverse_reverse, List.reverse_reverse] at alike
    exact ⟨merged.ordered.of_reverse, alike⟩

theorem mergeRuns_proper (follows : Follows less key) (room : Nat) {left right : Run α} (proper : left.Proper key quick)
    (proper' : right.Proper key quick) : ∃ run, mergeRuns less quick room left right = some run ∧
      run.Proper key quick ∧ Alike key run.items (left.items ++ right.items) := by
  unfold mergeRuns
  split
  · obtain ⟨first, finished, arranges⟩ := proper.finished
    obtain ⟨second, finished', arranges'⟩ := proper'.finished
    have merged := merge_both follows arranges.ordered arranges'.ordered
    refine ⟨⟨merge less first second, true⟩, ?_, ⟨fun _ => merged.ordered, nofun⟩, ?_⟩
    · rw [finished, finished']
      rfl
    · exact merged.alike.trans (arranges.alike.append arranges'.alike)
  · rename_i apart
    simp only [not_or] at apart
    exact ⟨_, rfl, ⟨nofun, fun _ => proper.sorts apart.2.1⟩, .refl _⟩

-- The items in the runs of a stack, which is held in reverse, in front of others.
def content : List (Run α × Nat) → List α → List α
  | [], behind => behind
  | (run, _) :: stack, behind => content stack (run.items ++ behind)

theorem content_alike (stack : List (Run α × Nat)) (alike : Alike key xs ys) : Alike key (content stack xs) (content stack ys) := by
  induction stack generalizing xs ys with
  | nil => exact alike
  | cons entry stack ih => exact ih ((Alike.refl _).append alike)

theorem collapse_proper (follows : Follows less key) (room depth : Nat) (stack : List (Run α × Nat)) (last : Run α)
    (propers : ∀ entry ∈ stack, entry.1.Proper key quick) (proper : last.Proper key quick) (behind : List α) :
    ∃ rest run, collapse less quick room depth stack last = some (rest, run) ∧
      (∀ entry ∈ rest, entry.1.Proper key quick) ∧ run.Proper key quick ∧
      Alike key (content rest (run.items ++ behind)) (content stack (last.items ++ behind)) ∧ (depth = 0 → rest = []) := by
  induction stack generalizing last with
  | nil => exact ⟨[], last, rfl, nofun, proper, .refl _, fun _ => rfl⟩
  | cons entry stack ih =>
    obtain ⟨left, waits⟩ := entry
    obtain ⟨proper', propers'⟩ := List.forall_mem_cons.mp propers
    rw [collapse]
    split
    · obtain ⟨run, merged, proper, alike⟩ := mergeRuns_proper follows room proper' proper
      obtain ⟨rest, last', collapsed, kept⟩ := ih run propers' proper
      refine ⟨rest, last', ?_, kept.1, kept.2.1, kept.2.2.1.trans ?_, kept.2.2.2⟩
      · simp [merged, collapsed]
      · have whole := alike.append (.refl behind)
        rw [List.append_assoc] at whole
        exact content_alike stack whole
    · rename_i shallow
      exact ⟨_, last, rfl, propers, proper, .refl _, fun none => absurd (none ▸ Nat.zero_le waits) shallow⟩

theorem mergeAll_proper (follows : Follows less key) (n : Nat) (rest : List (Run α)) (stack : List (Run α × Nat)) (last : Run α)
    (scanned : Nat) (later : ∀ run ∈ rest, run.Proper key quick) (propers : ∀ entry ∈ stack, entry.1.Proper key quick)
    (proper : last.Proper key quick) : ∃ run, mergeAll less quick n rest stack last scanned = some run ∧
      run.Proper key quick ∧ Alike key run.items (content stack (last.items ++ rest.flatMap Run.items)) := by
  induction rest generalizing stack last scanned with
  | nil =>
    obtain ⟨rest, run, collapsed, -, proper, alike, empty⟩ := collapse_proper follows (room n) 0 stack last propers proper []
    rw [empty rfl, content, List.append_nil] at alike
    exact ⟨run, by simp [mergeAll, collapsed], proper, alike⟩
  | cons next rest ih =>
    obtain ⟨proper', later⟩ := List.forall_mem_cons.mp later
    obtain ⟨stack', last', collapsed, propers, proper, alike, -⟩ := collapse_proper follows (room n)
      (mergeDepth n (scanned - last.items.length) scanned (scanned + next.items.length)) stack last propers proper
      (next.items ++ rest.flatMap Run.items)
    obtain ⟨run, merged, proper, whole⟩ := ih ((last', _) :: stack') next (scanned + next.items.length) later
      (List.forall_mem_cons.mpr ⟨proper, propers⟩) proper'
    exact ⟨run, by simp only [mergeAll, collapsed]; exact merged, proper, whole.trans alike⟩

theorem drift_arranges (follows : Follows less key) (capable : eager ∨ Sorts key quick) (items : List α) :
    ∃ sorted, drift less eager quick items = some sorted ∧ Arranges key sorted items := by
  obtain ⟨list, found, propers, alike⟩ := runs_proper follows capable (goodLength items.length) items.length items le_rfl
  unfold drift
  rw [found]
  cases list with
  | nil =>
    obtain rfl := alike.perm.nil_eq
    exact ⟨[], rfl, .nil, .refl []⟩
  | cons first rest =>
    obtain ⟨proper, later⟩ := List.forall_mem_cons.mp propers
    obtain ⟨run, merged, proper, whole⟩ := mergeAll_proper follows items.length rest [] first first.items.length later nofun proper
    obtain ⟨sorted, finished, arranges⟩ := proper.finished
    refine ⟨sorted, ?_, arranges.of_alike (whole.trans alike)⟩
    simp only [Option.bind_eq_bind, Option.bind_some, merged]
    exact finished

theorem median_mem (less : α → α → Bool) (a b c : α) : median less a b c = a ∨ median less a b c = b ∨ median less a b c = c := by
  unfold median
  grind

theorem sample_mem (less : α → α → Bool) {items : List α} {first : α} (there : first ∈ items) (start n : Nat) :
    sample less items first start n ∈ items := by
  fun_induction sample less items first start n with
  | case1 start =>
    rw [List.getD_eq_getElem?_getD]
    cases found : items[start]? with
    | none => exact there
    | some x => exact List.mem_of_getElem? found
  | case2 start n long one two three =>
    rcases median_mem less (sample less items first start (n / 8)) (sample less items first (start + n / 8 * 4) (n / 8))
      (sample less items first (start + n / 8 * 7) (n / 8)) with same | same | same
    · rwa [same]
    · rwa [same]
    · rwa [same]

-- Items that a pivot divides.
theorem pivot_alike (follows : Follows less key) (pivot : α) (items : List α) :
    Alike key (items.filter (less · pivot) ++ items.filter (!less · pivot)) items := by
  refine .divided (fun x y same => ?_) items
  rw [Bool.eq_iff_iff, follows, follows, same]

theorem pivot_alike' (follows : Follows less key) (pivot : α) (items : List α) :
    Alike key (items.filter (!less pivot ·) ++ items.filter (less pivot ·)) items := by
  have divided : Alike key (items.filter (!less pivot ·) ++ items.filter (!!less pivot ·)) items := by
    refine .divided (fun x y same => ?_) items
    rw [Bool.eq_iff_iff, follows.not, follows.not, same]
  simpa only [Bool.not_not] using divided

theorem quickSort_arranges (follows : Follows less key) (limit : Nat) (below : Option α) (items : List α)
    (above : ∀ b ∈ below, ∀ x ∈ items, key b ≤ key x) :
    ∃ sorted, quickSort less limit below items = some sorted ∧ Arranges key sorted items := by
  induction limit generalizing below items with
  | zero =>
    unfold quickSort
    split
    · exact smallSort_arranges follows items
    · exact drift_arranges follows (.inl rfl) items
  | succ limit ih =>
    unfold quickSort
    split
    · exact smallSort_arranges follows items
    dsimp only
    split
    · rename_i none
      rw [List.head?_eq_none_iff.mp none]
      exact ⟨[], rfl, .nil, .refl []⟩
    rename_i first head
    have pivotal := sample_mem less (List.mem_of_mem_head? head) 0 items.length
    generalize sample less items first 0 items.length = pivot at *
    split
    · rename_i least
      -- No item is less than the pivot.
      have bound : ∀ x ∈ items, key pivot ≤ key x := by
        intro x member
        rcases Bool.or_eq_true_iff.mp least with reached | none
        · obtain ⟨b, rfl, le⟩ := (Option.any_eq_true _ _).mp reached
          exact ((follows.not b pivot).mp le).trans (above b rfl x member)
        · have greater := List.filter_eq_nil_iff.mp (List.isEmpty_iff.mp none) x member
          exact not_lt.mp (mt (follows x pivot).mpr greater)
      obtain ⟨greater, sorted, arranges⟩ := ih none (items.filter (less pivot ·)) nofun
      refine ⟨_, by rw [sorted]; rfl, .of_alike (.append ⟨?_, .refl _⟩ arranges ?_) (pivot_alike' follows pivot items)⟩
      · refine List.pairwise_of_forall_mem_list fun x here y there => ?_
        obtain ⟨_, equal⟩ := List.mem_filter.mp here
        exact ((follows.not pivot x).mp equal).trans (bound y (List.mem_filter.mp there).1)
      · intro x here y there
        obtain ⟨_, equal⟩ := List.mem_filter.mp here
        obtain ⟨_, lt⟩ := List.mem_filter.mp there
        exact ((follows.not pivot x).mp equal).trans ((follows pivot y).mp lt).le
    · have high : ∀ x ∈ items.filter (!less · pivot), key pivot ≤ key x :=
        fun x member => (follows.not x pivot).mp (List.mem_filter.mp member).2
      have low : ∀ x ∈ items.filter (less · pivot), key x < key pivot :=
        fun x member => (follows x pivot).mp (List.mem_filter.mp member).2
      have within : ∀ b ∈ below, ∀ x ∈ items.filter (less · pivot), key b ≤ key x :=
        fun b known x member => above b known x (List.mem_filter.mp member).1
      obtain ⟨upper, sorted, arranges⟩ := ih (some pivot) (items.filter (!less · pivot)) (by rintro _ ⟨⟩; exact high)
      obtain ⟨lower, sorted', arranges'⟩ := ih below (items.filter (less · pivot)) within
      refine ⟨lower ++ upper, by rw [sorted, sorted']; rfl, .of_alike (arranges'.append arranges ?_) (pivot_alike follows pivot items)⟩
      exact fun x here y there => (low x here).le.trans (high y there)

theorem sort?_arranges (follows : Follows less key) (items : List α) :
    ∃ sorted, sort? less items = some sorted ∧ Arranges key sorted items := by
  unfold sort?
  split
  · exact ⟨_, rfl, insertAll_arranges follows .nil items⟩
  · split
    · exact drift_arranges follows (.inl rfl) items
    · exact drift_arranges follows (.inr fun items => quickSort_arranges follows _ none items nofun) items

end Dataflow.Sorting
