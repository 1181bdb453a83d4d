import Dataflow.Evaluation
import Dataflow.Proofs.Value.Zero

namespace Dataflow

def Value.Agrees (v w : Value) : Prop := v = w ∨ v.same w

-- Some of the empty texts of a list are left out.
inductive Thins : List Value → List Value → Prop where
  | nil : Thins [] []
  | keep (item : Value) {live kept : List Value} : Thins live kept → Thins (item :: live) (item :: kept)
  | drop {live kept : List Value} : Thins live kept → Thins (.text "" :: live) kept

namespace Value

variable {v : Value} {x y z : Float}

theorem bool_agrees {b : Bool} : (bool b).Agrees v ↔ v = bool b := by
  unfold Agrees
  cases v <;> simp [same]
  exact eq_comm

theorem text_agrees {s : String} : (text s).Agrees v ↔ v = text s := by
  unfold Agrees
  cases v <;> simp [same]
  exact eq_comm

theorem number_agrees : (number x).Agrees v ↔ ∃ y, v = number y ∧ Tied x y := by
  cases v <;> simp [Agrees, same, Tied]

theorem blank_asNumber : (text "").asNumber = 0.0 := by decide +kernel

theorem blank_items : parseList "" = [] := by
  have blank : (Text.trim "").isEmpty := by decide
  rw [parseList, if_pos blank]

end Value

theorem sum_thins {live kept : List Value} (thins : Thins live kept) : SumsAlike (sum live) (sum kept) := by
  have totals : ∀ x y, SumsAlike x y → SumsAlike (live.foldl (fun total item => total + item.asNumber) x)
      (kept.foldl (fun total item => total + item.asNumber) y) := by
    induction thins with
    | nil => exact fun _ _ alike => alike
    | keep item _ ih => exact fun x y alike => ih _ _ (alike.add item.asNumber)
    | drop _ ih =>
      intro x y alike
      have blank : SumsAlike (x + (Value.text "").asNumber) y := by
        rw [Value.blank_asNumber]
        exact alike.zero
      exact ih _ _ blank
  exact totals _ _ (.inl rfl)

def multiplied (x : Float) (items : List Value) : Float := items.foldl (fun total item => total * item.asNumber) x

theorem multiplied_dulled {live kept : List Value} {x y : Float} (thins : Thins live kept) (dulled : Dulled x y) :
    Dulled (multiplied x live) (multiplied y kept) := by
  induction thins generalizing x y with
  | nil => exact dulled
  | keep item _ ih => exact ih (dulled.mul item.asNumber)
  | @drop live kept _ ih =>
    have blank : Dulled (x * (Value.text "").asNumber) y := by
      rw [Value.blank_asNumber]
      exact dulled.again
    exact ih blank

theorem Thins.length {live kept : List Value} (thins : Thins live kept) : kept.length ≤ live.length := by
  induction thins with
  | nil => exact Nat.le_refl _
  | keep _ _ ih => exact Nat.succ_le_succ ih
  | drop _ ih => exact Nat.le_succ_of_le ih

theorem multiplied_thins {live kept : List Value} (thins : Thins live kept) (x : Float) :
    live = kept ∨ kept.length < live.length ∧ Dulled (multiplied x live) (multiplied x kept) := by
  induction thins generalizing x with
  | nil => exact .inl rfl
  | keep item _ ih =>
    rcases ih (x * item.asNumber) with rfl | ⟨fewer, dulled⟩
    · exact .inl rfl
    · exact .inr ⟨Nat.succ_lt_succ fewer, dulled⟩
  | @drop live kept thins _ =>
    have blank : Dulled (x * (Value.text "").asNumber) x := by
      rw [Value.blank_asNumber]
      exact .start x
    have rest := multiplied_dulled thins blank
    exact .inr ⟨Nat.lt_succ_of_le thins.length, rest⟩

-- A product without the zeros is that with them, or it is dulled by them.
theorem product_thins {live kept : List Value} (thins : Thins live kept) :
    live = kept ∨ kept.length < live.length ∧ Dulled (product live) (product kept) := by
  refine (multiplied_thins thins 1.0).imp id fun ⟨fewer, dulled⟩ => ⟨fewer, ?_⟩
  have full : product live = multiplied 1.0 live := by
    cases live with
    | nil => cases fewer
    | cons item rest => rfl
  cases kept with
  | nil =>
    have zero := dulled.finite (by decide +kernel)
    rw [full]
    exact ⟨.inl zero, fun _ => zero⟩
  | cons item rest =>
    rw [full]
    exact dulled

-- What two values come to that have no order.
def Comparison.undecided (comparison : Comparison) : Bool := comparison = .notEqual

theorem Comparison.holds_undecided {comparison : Comparison} {v w : Value} (none : v.compare w = none) :
    comparison.holds v w = comparison.undecided := by
  cases comparison <;> simp [holds, Value.equals, none, undecided]

-- The empty text and zero are comparable with no value both.
theorem blank_compare (v : Value) : (Value.text "").compare v = none ∨ (Value.number 0.0).compare v = none := by
  cases v <;> simp [Value.compare, Value.weight?]

theorem compare_blank (v : Value) : v.compare (.text "") = none ∨ v.compare (.number 0.0) = none := by
  cases v <;> simp [Value.compare, Value.weight?]

namespace Inputs

structure Thinned (live kept : Inputs Value) : Prop where
  named : ∀ slot, kept.get? slot = live.get? slot ∨ live.get? slot = some (.text "") ∧ kept.get? slot = none
  variadic : Thins live.variadic kept.variadic

def LeavesOut (live kept : Inputs Value) (slot : String) : Prop := (live.get? slot).isSome ∧ kept.get? slot = none

instance (live kept : Inputs Value) (slot : String) : Decidable (LeavesOut live kept slot) :=
  inferInstanceAs (Decidable (_ ∧ _))

def side (inputs : Inputs Value) (slot : String) : Value := (inputs.get? slot).getD (.number 0.0)

variable {live kept : Inputs Value} {slot : String}

theorem Thinned.number (thinned : live.Thinned kept) (slot : String) : kept.number slot = live.number slot := by
  rcases thinned.named slot with same | ⟨blank, missing⟩
  · rw [Inputs.number, Inputs.number, same]
  · rw [Inputs.number, Inputs.number, blank, missing]
    exact Value.blank_asNumber.symm

theorem Thinned.truthy (thinned : live.Thinned kept) (slot : String) : kept.truthy slot = live.truthy slot := by
  rcases thinned.named slot with same | ⟨blank, missing⟩
  · rw [Inputs.truthy, Inputs.truthy, same]
  · rw [Inputs.truthy, Inputs.truthy, blank, missing]
    rfl

theorem Thinned.blank (thinned : live.Thinned kept) (slot : String) :
    (kept.get? slot).getD (.text "") = (live.get? slot).getD (.text "") := by
  rcases thinned.named slot with same | ⟨blank, missing⟩
  · rw [same]
  · rw [blank, missing]
    rfl

theorem text_eq (inputs : Inputs Value) (slot : String) :
    inputs.text slot = ((inputs.get? slot).getD (.text "")).toText := by
  rw [Inputs.text]
  cases inputs.get? slot <;> rfl

theorem Thinned.text (thinned : live.Thinned kept) (slot : String) : kept.text slot = live.text slot := by
  rw [text_eq, text_eq, thinned.blank]

theorem Thinned.targetItems (thinned : live.Thinned kept) : targetItems kept = targetItems live := by
  unfold Dataflow.targetItems
  rcases thinned.named "target" with same | ⟨blank, missing⟩
  · rw [same]
  · rw [blank, missing]
    exact Value.blank_items.symm

theorem Thinned.side (thinned : live.Thinned kept) (slot : String) :
    kept.side slot = live.side slot ∧ ¬LeavesOut live kept slot ∨
      live.side slot = .text "" ∧ kept.side slot = .number 0.0 ∧ LeavesOut live kept slot := by
  unfold Inputs.side LeavesOut
  rcases thinned.named slot with same | ⟨blank, missing⟩
  · rw [same]
    cases live.get? slot <;> simp
  · simp [blank, missing]

end Inputs

-- Whether it makes no difference to a comparison if zero stands for the empty text. Of the two sides the
-- other one decides, and if both are left out nothing does.
def Comparison.Indifferent (comparison : Comparison) (live kept : Inputs Value) : Prop :=
  (live.LeavesOut kept "left" → live.LeavesOut kept "right" ∨ ∀ blank ∈ [Value.text "", .number 0.0],
    comparison.holds blank (live.side "right") = comparison.undecided) ∧
  (live.LeavesOut kept "right" → live.LeavesOut kept "left" ∨ ∀ blank ∈ [Value.text "", .number 0.0],
    comparison.holds (live.side "left") blank = comparison.undecided)

instance (comparison : Comparison) (live kept : Inputs Value) : Decidable (comparison.Indifferent live kept) :=
  inferInstanceAs (Decidable ((_ → _) ∧ (_ → _)))

-- Whether the inputs that are left out make no difference to a node of this kind.
def Kind.Indifferent (kind : Kind) (live kept : Inputs Value) : Prop :=
  match kind with
  | multiplication => kept.variadic.length = live.variadic.length ∨ product kept.variadic == 0.0 ∨
      (product live.variadic).isNaN ∧ (product kept.variadic).isNaN
  | comparison operation => operation.Indifferent live kept
  | ifElse => ¬live.LeavesOut kept (if live.truthy "condition" then "true" else "false")
  | _ => True

instance (kind : Kind) (live kept : Inputs Value) : Decidable (kind.Indifferent live kept) :=
  match kind with
  | .multiplication => inferInstanceAs (Decidable (_ ∨ _ ∨ _))
  | .comparison operation => inferInstanceAs (Decidable (operation.Indifferent live kept))
  | .ifElse => inferInstanceAs (Decidable (¬_))
  | .input _ | .addition | .subtraction | .division | .boolean _ | .text _ | .list _ | .display | .unknown _ =>
    .isTrue trivial

-- What the kind makes of the inputs is the value, up to equality of values.
def Kind.Yields (kind : Kind) (literal : Value) (inputs : Inputs Value) (value : Value) : Prop :=
  ∃ made, kind.evaluate literal inputs = some made ∧ made.Agrees value

variable {live kept inputs : Inputs Value} {value literal made : Value} {kind : Kind}

theorem Kind.yields_iff (evaluated : kind.evaluate literal inputs = some made) :
    kind.Yields literal inputs value ↔ made.Agrees value := by
  simp [Yields, evaluated]

theorem addition_thinned (thinned : live.Thinned kept) (settled : (Value.number (sum live.variadic)).Agrees value) :
    (Value.number (sum kept.variadic)).Agrees value := by
  obtain ⟨y, rfl, tied⟩ := Value.number_agrees.mp settled
  exact Value.number_agrees.mpr ⟨y, rfl, (sum_thins thinned.variadic).tied tied⟩

theorem multiplication_thinned (thinned : live.Thinned kept)
    (settled : (Value.number (product live.variadic)).Agrees value) :
    (Value.number (product kept.variadic)).Agrees value ↔ Kind.multiplication.Indifferent live kept := by
  obtain ⟨y, rfl, tied⟩ := Value.number_agrees.mp settled
  have numbers : (Value.number (product kept.variadic)).Agrees (.number y) ↔ Tied (product kept.variadic) y := by
    simp [Value.number_agrees]
  rw [numbers, Kind.Indifferent]
  rcases product_thins thinned.variadic with same | ⟨fewer, dulled⟩
  · rw [← same]
    exact ⟨fun _ => .inl rfl, fun _ => tied⟩
  · rw [dulled.tied_iff tied]
    exact ⟨.inr, fun indifferent => indifferent.resolve_left (Nat.ne_of_lt fewer)⟩

-- Of two outcomes one is undecided; they are the same if both are.
theorem outcomes_iff (outcomes : Value → Bool) {undecided : Bool}
    (one : outcomes (.text "") = undecided ∨ outcomes (.number 0.0) = undecided) :
    outcomes (.text "") = outcomes (.number 0.0) ↔ ∀ blank ∈ [Value.text "", .number 0.0], outcomes blank = undecided := by
  simp only [List.forall_mem_cons, List.not_mem_nil, false_implies, implies_true, and_true]
  constructor
  · intro same
    rcases one with first | second
    · exact ⟨first, same ▸ first⟩
    · exact ⟨same.trans second, second⟩
  · exact fun both => both.1.trans both.2.symm

theorem comparison_thinned (comparison : Comparison) (thinned : live.Thinned kept)
    (settled : (Value.bool (comparison.holds (live.side "left") (live.side "right"))).Agrees value) :
    (Value.bool (comparison.holds (kept.side "left") (kept.side "right"))).Agrees value ↔
      comparison.Indifferent live kept := by
  obtain rfl := Value.bool_agrees.mp settled
  rw [Value.bool_agrees, Value.bool.injEq, Comparison.Indifferent]
  rcases thinned.side "left" with ⟨left, leftKept⟩ | ⟨leftBlank, leftZero, leftOut⟩ <;>
    rcases thinned.side "right" with ⟨right, rightKept⟩ | ⟨rightBlank, rightZero, rightOut⟩
  · simp [left, right, leftKept, rightKept]
  · have outcomes := outcomes_iff (fun blank => comparison.holds (live.side "left") blank)
      ((compare_blank (live.side "left")).imp Comparison.holds_undecided Comparison.holds_undecided)
    rw [left, rightBlank, rightZero, outcomes]
    simp [leftKept, rightOut]
  · have outcomes := outcomes_iff (fun blank => comparison.holds blank (live.side "right"))
      ((blank_compare (live.side "right")).imp Comparison.holds_undecided Comparison.holds_undecided)
    rw [right, leftBlank, leftZero, outcomes]
    simp [rightKept, leftOut]
  · have alike : comparison.holds (.text "") (.text "") = comparison.holds (.number 0.0) (.number 0.0) := by
      cases comparison <;> decide +kernel
    simp [leftBlank, leftZero, rightBlank, rightZero, leftOut, rightOut, alike]

theorem ifElse_thinned (thinned : live.Thinned kept) {branch : String}
    (taken : (if live.truthy "condition" then "true" else "false") = branch)
    (settled : (live.side branch).Agrees value) :
    (kept.side branch).Agrees value ↔ Kind.ifElse.Indifferent live kept := by
  rw [Kind.Indifferent, taken]
  rcases thinned.side branch with ⟨same, taken⟩ | ⟨blank, zero, out⟩
  · rw [same]
    exact ⟨fun _ => taken, fun _ => settled⟩
  · rw [blank] at settled
    obtain rfl := Value.text_agrees.mp settled
    rw [zero, Value.number_agrees]
    simp [out]

-- Settled on all its inputs, a node would be so on those that are kept exactly if the others make no difference.
theorem Kind.evaluate_thinned (kind : Kind) (literal : Value) (thinned : live.Thinned kept)
    (settled : kind.Yields literal live value) : kind.Yields literal kept value ↔ kind.Indifferent live kept := by
  have unchanged (same : kind.evaluate literal kept = kind.evaluate literal live) : kind.Yields literal kept value ↔ True := by
    rw [Yields, same]
    exact ⟨fun _ => trivial, fun _ => settled⟩
  cases kind with
  | addition =>
    rw [yields_iff rfl] at settled
    exact ⟨fun _ => trivial, fun _ => (yields_iff rfl).mpr (addition_thinned thinned settled)⟩
  | multiplication =>
    rw [yields_iff rfl] at settled ⊢
    exact multiplication_thinned thinned settled
  | comparison operation =>
    rw [yields_iff rfl] at settled ⊢
    exact comparison_thinned operation thinned settled
  | ifElse =>
    have kept' : ifElse.evaluate literal kept = some (kept.side (if live.truthy "condition" then "true" else "false")) := by
      rw [← thinned.truthy]
      rfl
    rw [yields_iff rfl] at settled
    rw [yields_iff kept']
    exact ifElse_thinned thinned rfl settled
  | input shape => exact unchanged rfl
  | unknown typeName => exact unchanged rfl
  | subtraction => exact unchanged (by simp only [evaluate, thinned.number])
  | division => exact unchanged (by simp only [evaluate, thinned.number])
  | boolean operation => exact unchanged (by simp only [evaluate, thinned.truthy])
  | text settings => exact unchanged (by simp only [evaluate, TextSettings.evaluate, thinned.text, thinned.blank])
  | list settings => exact unchanged (by simp only [evaluate, ListSettings.evaluate, thinned.targetItems])
  | display => exact unchanged (by simp only [evaluate, thinned.blank])

end Dataflow
