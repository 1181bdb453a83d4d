import Mathlib.Data.List.Sort

namespace Dataflow.Sorting

variable {α κ : Type} [LinearOrder κ] {key : α → κ} {x y : α} {xs ys zs us vs : List α}

-- A comparator by which one item is less than another where its key is.
def Follows (less : α → α → Bool) (key : α → κ) : Prop := ∀ x y, less x y ↔ key x < key y

-- Of each key the lists have the same items in the same order.
def Alike (key : α → κ) (xs ys : List α) : Prop := ∀ k, xs.filter (key · = k) = ys.filter (key · = k)

def Ordered (key : α → κ) (xs : List α) : Prop := xs.Pairwise (key · ≤ key ·)

namespace Alike

theorem refl (xs : List α) : Alike key xs xs := fun _ => rfl

theorem symm (alike : Alike key xs ys) : Alike key ys xs := fun k => (alike k).symm

theorem trans (first : Alike key xs ys) (second : Alike key ys zs) : Alike key xs zs := fun k => (first k).trans (second k)

theorem append (first : Alike key xs ys) (second : Alike key us vs) : Alike key (xs ++ us) (ys ++ vs) := by
  intro k
  rw [List.filter_append, List.filter_append, first k, second k]

theorem cons (x : α) (alike : Alike key xs ys) : Alike key (x :: xs) (x :: ys) := (refl [x]).append alike

theorem reverse (alike : Alike key xs ys) : Alike key xs.reverse ys.reverse := by
  intro k
  rw [List.filter_reverse, List.filter_reverse, alike k]

theorem pass (other : ∀ y ∈ ys, key y ≠ key x) : Alike key (x :: (ys ++ zs)) (ys ++ x :: zs) := by
  intro k
  simp only [List.filter_cons, List.filter_append]
  split
  · rename_i same
    have none : ys.filter (key · = k) = [] := by
      simp only [List.filter_eq_nil_iff, decide_eq_true_eq] at same ⊢
      intro y member
      exact same ▸ other y member
    rw [none]
    rfl
  · rfl

theorem swap (apart : ∀ x ∈ xs, ∀ y ∈ ys, key x ≠ key y) : Alike key (xs ++ ys) (ys ++ xs) := by
  induction xs with
  | nil =>
    rw [List.nil_append, List.append_nil]
    exact refl ys
  | cons x xs ih =>
    obtain ⟨other, apart⟩ := List.forall_mem_cons.mp apart
    have passed : Alike key (x :: (ys ++ xs)) (ys ++ x :: xs) := pass fun y member => (other y member).symm
    exact ((ih apart).cons x).trans passed

theorem perm (alike : Alike key xs ys) : xs.Perm ys := by
  classical
  rw [List.perm_iff_count]
  intro x
  have counted (zs : List α) : (zs.filter (key · = key x)).count x = zs.count x :=
    List.count_filter (decide_eq_true rfl)
  rw [← counted xs, alike (key x), counted ys]

theorem mem (alike : Alike key xs ys) : x ∈ xs ↔ x ∈ ys := alike.perm.mem_iff

-- Of one key are also those that any condition picks out of these.
theorem picked (alike : Alike key xs ys) {kept : α → Bool} (level : ∀ x ∈ ys, ∀ y ∈ ys, kept x → kept y → key x = key y) :
    xs.filter kept = ys.filter kept := by
  by_cases empty : ys.filter kept = []
  · rw [empty]
    rw [List.filter_eq_nil_iff] at empty ⊢
    intro x member
    exact empty x (alike.mem.mp member)
  · obtain ⟨x, picked⟩ := List.exists_mem_of_ne_nil _ empty
    obtain ⟨there, holds⟩ := List.mem_filter.mp picked
    have narrow (zs : List α) (within : ∀ y ∈ zs, y ∈ ys) : (zs.filter (key · = key x)).filter kept = zs.filter kept := by
      rw [List.filter_filter]
      apply List.filter_congr
      intro y member
      by_cases holds' : kept y
      · simp [holds', level y (within y member) x there holds' holds]
      · simp [holds']
    rw [← narrow xs fun y => alike.mem.mp, alike (key x), narrow ys fun y => id]

-- A condition on keys splits a list into two that are together like it.
theorem divided {kept : α → Bool} (keyed : ∀ x y, key x = key y → kept x = kept y) (xs : List α) :
    Alike key (xs.filter kept ++ xs.filter (!kept ·)) xs := by
  induction xs with
  | nil => exact refl []
  | cons x xs ih =>
    by_cases holds : kept x
    · simpa [holds] using ih.cons x
    · have other : ∀ y ∈ xs.filter kept, key y ≠ key x := by
        intro y member same
        have holds' := (List.mem_filter.mp member).2
        rw [keyed y x same] at holds'
        exact holds holds'
      simpa [holds] using (pass other).symm.trans (ih.cons x)

-- Where no two items have the same key, their order does not matter.
theorem reversed (distinct : xs.Pairwise (key · ≠ key ·)) : Alike key xs.reverse xs := by
  induction xs with
  | nil => exact refl []
  | cons x xs ih =>
    obtain ⟨other, distinct⟩ := List.pairwise_cons.mp distinct
    have passed : Alike key (x :: (xs ++ [])) (xs ++ [x]) := pass fun y member => (other y member).symm
    rw [List.append_nil] at passed
    rw [List.reverse_cons]
    exact ((ih distinct).append (refl [x])).trans passed.symm

end Alike

structure Arranges (key : α → κ) (ys xs : List α) : Prop where
  ordered : Ordered key ys
  alike : Alike key ys xs

theorem Arranges.of_alike (arranges : Arranges key zs ys) (alike : Alike key ys xs) : Arranges key zs xs :=
  ⟨arranges.ordered, arranges.alike.trans alike⟩

theorem Arranges.append (first : Arranges key xs us) (second : Arranges key ys vs)
    (apart : ∀ x ∈ us, ∀ y ∈ vs, key x ≤ key y) : Arranges key (xs ++ ys) (us ++ vs) := by
  refine ⟨List.pairwise_append.mpr ⟨first.ordered, second.ordered, ?_⟩, first.alike.append second.alike⟩
  intro x inFirst y inSecond
  exact apart x (first.alike.mem.mp inFirst) y (second.alike.mem.mp inSecond)

theorem Ordered.unique (ordered : Ordered key xs) (ordered' : Ordered key ys) (alike : Alike key xs ys) : xs = ys := by
  induction xs generalizing ys with
  | nil => exact (alike.perm.nil_eq)
  | cons x xs ih =>
    cases ys with
    | nil => exact absurd alike.perm.length_eq (by simp)
    | cons y ys =>
      obtain ⟨least, behind⟩ := List.pairwise_cons.mp ordered
      obtain ⟨least', behind'⟩ := List.pairwise_cons.mp ordered'
      have le : key x ≤ key y := by
        rcases List.mem_cons.mp (alike.mem.mpr List.mem_cons_self) with same | later
        · rw [same]
        · exact least y later
      have ge : key y ≤ key x := by
        rcases List.mem_cons.mp (alike.mem.mp List.mem_cons_self) with same | later
        · rw [same]
        · exact least' x later
      have level : key y = key x := le_antisymm ge le
      have first := alike (key x)
      simp only [List.filter_cons, level, decide_true, if_true] at first
      obtain rfl := (List.cons.inj first).1
      have rest : Alike key xs ys := by
        intro k
        have both := alike k
        simp only [List.filter_cons] at both
        split at both
        · exact (List.cons.inj both).2
        · exact both
      rw [ih behind behind' rest]

theorem merge_alike {first : α → α → Bool} (lets : ∀ x y, first x y ↔ key x ≤ key y) (ordered : Ordered key xs) :
    Alike key (xs.merge ys first) (xs ++ ys) := by
  fun_induction List.merge xs ys first with
  | case1 ys => exact .refl ys
  | case2 xs =>
    rw [List.append_nil]
    exact .refl _
  | case3 x xs y ys before ih => exact (ih (List.pairwise_cons.mp ordered).2).cons x
  | case4 x xs y ys behind ih =>
    have less : key y < key x := not_le.mp fun le => behind ((lets x y).mpr le)
    refine ((ih ordered).cons y).trans (.pass fun z member => ?_)
    rcases List.mem_cons.mp member with rfl | later
    · exact less.ne'
    · exact (less.trans_le ((List.pairwise_cons.mp ordered).1 z later)).ne'

theorem merge_arranges {first : α → α → Bool} (lets : ∀ x y, first x y ↔ key x ≤ key y) (ordered : Ordered key xs)
    (ordered' : Ordered key ys) : Arranges key (xs.merge ys first) (xs ++ ys) := by
  refine ⟨?_, merge_alike lets ordered⟩
  have total : ∀ x y, first x y || first y x := by
    intro x y
    simp only [Bool.or_eq_true, lets]
    exact le_total _ _
  have trans : ∀ x y z, first x y → first y z → first x z := by
    intro x y z
    simp only [lets]
    exact le_trans
  have merged := List.pairwise_merge trans total xs ys (ordered.imp (lets _ _).mpr) (ordered'.imp (lets _ _).mpr)
  exact merged.imp (lets _ _).mp

-- A key that there is in every finite order.

theorem countP_lt {p q : α → Bool} (le : ∀ x ∈ xs, p x → q x) (there : y ∈ xs) (holds : q y) (fails : ¬p y) :
    xs.countP p < xs.countP q := by
  obtain ⟨before, after, rfl⟩ := List.append_of_mem there
  have front := List.countP_mono_left fun x member => le x (List.mem_append_left _ member)
  have back := List.countP_mono_left fun x member => le x (List.mem_append_right _ (List.mem_cons_of_mem _ member))
  rw [List.countP_append, List.countP_append, List.countP_cons_of_neg fails, List.countP_cons_of_pos holds]
  omega

-- Each item counts the items that are less than it.
theorem follows_count {less : α → α → Bool} {all : List α} (complete : ∀ x, x ∈ all) (asymm : ∀ x y, less x y → ¬less y x)
    (trans : ∀ x y z, ¬less y x → ¬less z y → ¬less z x) : Follows less fun x => all.countP (less · x) := by
  intro x y
  constructor
  · intro before
    have self : ¬less x x := fun own => asymm x x own own
    refine countP_lt (fun z _ under => ?_) (complete x) before self
    by_contra level
    exact trans x y z (asymm x y before) level under
  · intro fewer
    by_contra behind
    refine fewer.not_ge (List.countP_mono_left fun z _ under => ?_)
    by_contra level
    exact trans y x z behind level under

end Dataflow.Sorting
