import Dataflow.Proofs.Sorting.Runs
import Dataflow.Proofs.Value.Ranking

namespace Dataflow.Value

variable {u v w : Value} {items : List Value} {settings : ListSettings} {inputs : Inputs Value}

def before (v w : Value) : Bool := (v.sortCompare w).isLE

theorem before_iff : before v w ↔ v.sortCompare w ≠ .gt := Ordering.isLE_iff_ne_gt

theorem before_rank (sorted : before v w) : v.rank ≤ w.rank := rank_le (before_iff.mp sorted)

theorem before_level (level : v.rank = w.rank) : before v w ↔ v.compare w ≠ some .gt := by
  rw [before_iff, ne_eq, sortCompare_gt level]

theorem before_equal (numeric : v.Numeric) (numeric' : w.Numeric) (equal : v.compare w = some .eq) : before v w := by
  have level : v.rank = w.rank := by
    by_contra apart
    rw [(compare_none_iff numeric numeric').mpr (.inl apart)] at equal
    cases equal
  rw [before_level level, equal]
  exact nofun

theorem before_not_lt (v w : Value) : before v w ↔ ¬(w.sortCompare v == .lt) := by
  rw [before, sortCompare_swap w v]
  cases w.sortCompare v <;> decide

def Consistent (items : List Value) : Prop := ∀ u ∈ items, ∀ v ∈ items, ∀ w ∈ items, before u v → before v w → before u w

structure Compatible (items : List Value) : Prop where
  numeric : ∀ v ∈ items, v.Numeric
  apart : ∀ v ∈ items, ∀ w ∈ items, ¬v.Clashes w

theorem Compatible.consistent (compatible : Compatible items) : Consistent items := by
  intro u first v second w third le le'
  rw [before_iff] at *
  intro greater
  have broken := (sortCompare_breaks (compatible.numeric u first) (compatible.numeric v second)
    (compatible.numeric w third)).mp ⟨le, le', greater⟩
  exact compatible.apart u first v second broken.1

-- The keys that the items are sorted by.
theorem Consistent.keys (consistent : Consistent items) : ∃ key : {v // v ∈ items} → Nat,
    Sorting.Follows (fun v w => v.1.sortCompare w.1 == .lt) key ∧ ∀ v w, key v ≤ key w ↔ before v.1 w.1 := by
  have follows := @Sorting.follows_count {v // v ∈ items} (fun v w => v.1.sortCompare w.1 == .lt) items.attach
    (List.mem_attach items) ?_ ?_
  · refine ⟨_, follows, fun v w => ?_⟩
    rw [before_not_lt, ← not_lt]
    exact not_congr (follows w v).symm
  · intro v w less
    rw [← before_not_lt]
    have lt : v.1.sortCompare w.1 = .lt := beq_iff_eq.mp less
    rw [before, lt]
    rfl
  · intro u v w
    simp only [← before_not_lt]
    exact consistent u.1 u.2 v.1 v.2 w.1 w.2

-- What is sorted has the same items in order, and those that may stand on either side of each other are in the order
-- they had.
structure Sorts (sorted items : List Value) : Prop where
  perm : sorted.Perm items
  ordered : sorted.Pairwise (before · ·)
  level {kept : Value → Bool} (all : ∀ v ∈ items, ∀ w ∈ items, kept v → kept w → before v w) :
    sorted.filter kept = items.filter kept

theorem unattach_filter (kept : Value → Bool) (attached : List {v // v ∈ items}) :
    attached.unattach.filter kept = (attached.filter (kept ·.1)).unattach := by
  rw [List.unattach, List.filter_map, List.unattach]
  rfl

theorem Consistent.sorts (consistent : Consistent items) : ∃ sorted, sort? items = some sorted ∧ Sorts sorted items := by
  obtain ⟨key, follows, le⟩ := consistent.keys
  obtain ⟨sorted, result, arranges⟩ := Sorting.sort?_arranges follows items.attach
  refine ⟨sorted.unattach, by rw [sort?, result]; rfl, ?_, ?_, ?_⟩
  · simpa using arranges.alike.perm.map Subtype.val
  · exact List.pairwise_map.mpr (arranges.ordered.imp (le _ _).mp)
  · intro kept all
    have same : sorted.filter (kept ·.1) = items.attach.filter (kept ·.1) := by
      apply arranges.alike.picked
      intro v _ w _ holds holds'
      apply le_antisymm
      · exact (le v w).mpr (all v.1 v.2 w.1 w.2 holds holds')
      · exact (le w v).mpr (all w.1 w.2 v.1 v.2 holds' holds)
    rw [unattach_filter, same, ← unattach_filter, List.unattach_attach]

-- The sort gives up on lists only that have no order.
theorem sort?_none (stuck : sort? items = none) : ¬Consistent items := by
  intro consistent
  obtain ⟨sorted, result, _⟩ := consistent.sorts
  rw [stuck] at result
  cases result

theorem sort?_ordered (consistent : Consistent items) (ordered : items.Pairwise (before · ·)) : sort? items = some items := by
  obtain ⟨key, follows, le⟩ := consistent.keys
  obtain ⟨sorted, result, arranges⟩ := Sorting.sort?_arranges follows items.attach
  have attached : Sorting.Ordered key items.attach := by
    rw [← List.attach_map_subtype_val items, List.pairwise_map] at ordered
    exact ordered.imp (le _ _).mpr
  rw [sort?, result, arranges.ordered.unique attached arranges.alike, Option.map_some, List.unattach_attach]

theorem Sorts.stable {sorted : List Value} (sorts : Sorts sorted items) (numeric : ∀ v ∈ items, v.Numeric) (v : Value) :
    sorted.filter v.equals = items.filter v.equals := by
  refine sorts.level fun u first w second equal equal' => ?_
  rw [equals_iff] at equal equal'
  refine before_equal (numeric u first) (numeric w second) ?_
  rw [← compare_congr equal w, equal']

theorem Sorts.again {sorted : List Value} (consistent : Consistent items) (sorts : Sorts sorted items) :
    sort? sorted = some sorted := by
  refine sort?_ordered (fun u first v second w third => ?_) sorts.ordered
  exact consistent u (sorts.perm.mem_iff.mp first) v (sorts.perm.mem_iff.mp second) w (sorts.perm.mem_iff.mp third)

def Scalars (items : List Value) : Prop := ∀ v ∈ items, v.Numeric ∧ v.shape ≠ .list

instance : Decidable (Scalars items) := inferInstanceAs (Decidable (∀ v ∈ items, v.Numeric ∧ v.shape ≠ .list))

theorem Scalars.compatible (scalars : Scalars items) : Compatible items where
  numeric v member := (scalars v member).1
  apart v member w _ clashes := by
    obtain ⟨xs, ys, rfl, rfl, _⟩ := clashes.lists
    exact (scalars _ member).2 rfl

theorem position_weight {x : Float} (weighs : v.weight? = some x) : v.position = .ofWeight x := by
  cases v with
  | number | bool =>
    cases weighs
    rfl
  | text | list => cases weighs

theorem weight_scalar {x : Float} (weighs : v.weight? = some x) : v.shape ≠ .list := by
  intro listed
  cases v with
  | list => cases weighs
  | number | bool | text => cases listed

theorem weight_rank {x : Float} (weighs : v.weight? = some x) : v.rank = 0 := by
  cases v with
  | number | bool => rfl
  | text | list => cases weighs

theorem weight_number {x : Float} (numeric : v.Numeric) (weighs : v.weight? = some x) : ¬x.isNaN := by
  cases v with
  | number n =>
    cases weighs
    exact numeric
  | bool b =>
    cases weighs
    exact ofBool_number b
  | text | list => cases weighs

-- Numbers and truth values come in the order of what they weigh.
theorem before_weights {x y : Float} (numeric : v.Numeric) (numeric' : w.Numeric) (weighs : v.weight? = some x)
    (weighs' : w.weight? = some y) : before v w ↔ x ≤ y := by
  have number := weight_number numeric weighs
  have number' := weight_number numeric' weighs'
  have compared : v.compare w = some (Ord.compare (place x) (place y)) := by
    rw [compare_position (.inl (weight_scalar weighs)), position_weight weighs, position_weight weighs',
      Position.compare_weights, compareNumbers_eq, place?, place?, if_neg number, if_neg number', Option.bind_some,
      Option.map_some]
  rw [before_level ((weight_rank weighs).trans (weight_rank weighs').symm), compared, le_iff_place number number', ne_eq,
    Option.some.injEq, compare_gt_iff_gt, not_lt]

theorem before_texts (s t : String) : before (text s) (text t) ↔ s ≤ t := by
  have level : (text s).rank = (text t).rank := rfl
  rw [before_level level, compare, ← LinearOrder.compare_eq_compareOfLessAndEq, ne_eq, Option.some.injEq, compare_gt_iff_gt,
    not_lt]

-- Scalars in order are numbers and truth values with texts behind them.
theorem divided (scalars : Scalars items) (sorted : items.Pairwise (before · ·)) :
    ∃ (numbers : List Value) (texts : List String), items = numbers ++ texts.map text ∧ ∀ v ∈ numbers, v.weight?.isSome := by
  induction items with
  | nil => exact ⟨[], [], rfl, nofun⟩
  | cons v rest ih =>
    obtain ⟨first, sorted⟩ := List.pairwise_cons.mp sorted
    obtain ⟨numbers, texts, rfl, weigh⟩ := ih (fun w member => scalars w (.tail _ member)) sorted
    cases v with
    | number n => exact ⟨number n :: numbers, texts, rfl, List.forall_mem_cons.mpr ⟨rfl, weigh⟩⟩
    | bool b => exact ⟨bool b :: numbers, texts, rfl, List.forall_mem_cons.mpr ⟨rfl, weigh⟩⟩
    | text s =>
      -- No number is behind a text.
      cases numbers with
      | nil => exact ⟨[], s :: texts, rfl, nofun⟩
      | cons w numbers =>
        obtain ⟨x, weighs⟩ := Option.isSome_iff_exists.mp (weigh w (.head _))
        have ranked := before_rank (first w (.head _))
        rw [weight_rank weighs] at ranked
        cases ranked
    | list => exact absurd rfl (scalars _ (.head _)).2

theorem Sorts.scalars {sorted : List Value} (sorts : Sorts sorted items) (scalars : Scalars items) :
    ∃ (numbers : List Value) (texts : List String), sorted = numbers ++ texts.map text ∧
      (∀ v ∈ numbers, v.weight?.isSome) ∧ (numbers.filterMap weight?).Pairwise (· ≤ ·) ∧ texts.Pairwise (· ≤ ·) := by
  have members : Scalars sorted := fun v member => scalars v (sorts.perm.mem_iff.mp member)
  obtain ⟨numbers, texts, rfl, weigh⟩ := divided members sorts.ordered
  obtain ⟨weights, words, _⟩ := List.pairwise_append.mp sorts.ordered
  refine ⟨numbers, texts, rfl, weigh, List.pairwise_filterMap.mpr ?_, ?_⟩
  · apply weights.imp_of_mem
    intro v w first second le x weighs y weighs'
    have numeric := (members v (List.mem_append_left _ first)).1
    have numeric' := (members w (List.mem_append_left _ second)).1
    exact (before_weights numeric numeric' weighs weighs').mp le
  · exact (List.pairwise_map.mp words).imp fun le => (before_texts _ _).mp le

theorem evaluate_sort (sorting : settings.operation = .sort) (bound : inputs.get? "target" = some (.list items))
    (literal : Value) : (Kind.list settings).evaluate literal inputs = (sort? items).map .list := by
  simp only [Kind.evaluate, ListSettings.evaluate, sorting, targetItems, bound, toList]

-- Sorting a list of texts, truth values and numbers keeps its items and puts the numbers and truth values first, by
-- what they weigh, and the texts behind them by their code points. Equal items keep their order, and the sorted list
-- is sorted to itself.
theorem sort_scalars (scalars : Scalars items) (sorting : settings.operation = .sort)
    (bound : inputs.get? "target" = some (.list items)) (literal : Value) :
    ∃ (numbers : List Value) (texts : List String),
      (Kind.list settings).evaluate literal inputs = some (.list (numbers ++ texts.map text)) ∧
      (numbers ++ texts.map text).Perm items ∧
      (∀ v ∈ numbers, v.weight?.isSome) ∧ (numbers.filterMap weight?).Pairwise (· ≤ ·) ∧ texts.Pairwise (· ≤ ·) ∧
      (∀ v : Value, (numbers ++ texts.map text).filter v.equals = items.filter v.equals) ∧
      ∀ (again : Inputs Value) (literal' : Value), again.get? "target" = some (.list (numbers ++ texts.map text)) →
        (Kind.list settings).evaluate literal' again = some (.list (numbers ++ texts.map text)) := by
  obtain ⟨sorted, result, sorts⟩ := scalars.compatible.consistent.sorts
  obtain ⟨numbers, texts, rfl, weigh, weights, words⟩ := sorts.scalars scalars
  refine ⟨numbers, texts, ?_, sorts.perm, weigh, weights, words, ?_, ?_⟩
  · rw [evaluate_sort sorting bound, result]
    rfl
  · exact sorts.stable fun v member => (scalars v member).1
  · intro again literal' rebound
    rw [evaluate_sort sorting rebound, sorts.again scalars.compatible.consistent]
    rfl

-- A text, two truth values and numbers, of which `1` is equal to `True` and `-0` to `False`.
def mixed : List Value := [text "b", bool true, number 1.0, text "", number (-0.0), bool false, number 0.5, text "B"]

def listed (items : List Value) : Inputs Value :=
  { named := [("target", some (list items))], variadic := [], unbound := 0 }

theorem mixed_sorted : Scalars mixed ∧ ∃ (numbers : List Value) (texts : List String),
    (Kind.list { operation := .sort }).evaluate (list []) (listed mixed) = some (.list (numbers ++ texts.map text)) ∧
      (numbers ++ texts.map text).Perm mixed ∧ (numbers.filterMap weight?).Pairwise (· ≤ ·) ∧ texts.Pairwise (· ≤ ·) ∧
      (numbers ++ texts.map text).filter (number 1.0).equals = mixed.filter (number 1.0).equals ∧
      (Kind.list { operation := .sort }).evaluate (list []) (listed (numbers ++ texts.map text)) =
        some (.list (numbers ++ texts.map text)) := by
  have scalars : Scalars mixed := by decide +kernel
  obtain ⟨numbers, texts, result, perm, _, weights, words, level, again⟩ :=
    @sort_scalars mixed { operation := .sort } (listed mixed) scalars rfl rfl (list [])
  exact ⟨scalars, numbers, texts, result, perm, weights, words, level (number 1.0), again _ _ rfl⟩

end Dataflow.Value
