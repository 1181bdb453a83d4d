import Dataflow.Evaluation
import Dataflow.Proofs.Text.Integer
import Dataflow.Proofs.Text.Splitting

namespace Dataflow
open Text (greatestWord InWord)

variable {α : Type} {items : List α} {word : Int64} {b low high : Int} {start stop : Option Int}

-- Where a bound cuts a sequence of `length` items.
def cut (length bound : Int) : Int := if bound < 0 then max (length + bound) 0 else min bound length

-- Where a slice starts and where it ends. A bound that is not given is that end of the sequence.
def startCut (length : Int) (start : Option Int) : Int := (start.map (cut length)).getD 0

def stopCut (length : Int) (stop : Option Int) : Int := (stop.map (cut length)).getD length

-- A text's slice that ends at zero goes on to the end.
def textCut (length : Int) (stop : Option Int) : Int := if stop = some 0 then length else stopCut length stop

def Fits (items : List α) : Prop := (items.length : Int) ≤ greatestWord

instance (items : List α) : Decidable (Fits items) := inferInstanceAs (Decidable (_ ≤ _))

-- The items whose positions are from `low` on and in front of `high`, in their order.
def between (low high : Int) (items : List α) : List α :=
  (items.zipIdx.filter fun item => low ≤ (item.2 : Int) && (item.2 : Int) < high).map (·.1)

theorem between_from (low high : Int) (offset : Nat) (items : List α) :
    ((items.zipIdx offset).filter fun item => low ≤ (item.2 : Int) && (item.2 : Int) < high).map (·.1) =
      (items.take (high - offset).toNat).drop (low - offset).toNat := by
  induction items generalizing offset with
  | nil => simp
  | cons item items ih =>
    have behind := ih (offset + 1)
    rw [List.zipIdx_cons, List.filter_cons]
    by_cases before : high ≤ offset
    · have out : ¬(offset : Int) < high := not_lt.mpr before
      have none : (high - offset).toNat = 0 := by omega
      have still : (high - (offset + 1 : Nat)).toNat = 0 := by omega
      rw [still, List.take_zero, List.drop_nil] at behind
      simp [out, none, behind]
    have more : (high - offset).toNat = (high - (offset + 1 : Nat)).toNat + 1 := by omega
    rw [more, List.take_succ_cons]
    by_cases inside : low ≤ offset
    · have first : (low - offset).toNat = 0 := by omega
      have still : (low - (offset + 1 : Nat)).toNat = 0 := by omega
      rw [still, List.drop_zero] at behind
      simp [inside, not_le.mp before, first, behind]
    · have later : (low - offset).toNat = (low - (offset + 1 : Nat)).toNat + 1 := by omega
      rw [later, List.drop_succ_cons, ← behind]
      simp [inside]

theorem between_eq (low high : Int) (items : List α) : between low high items = (items.take high.toNat).drop low.toNat := by
  simpa [between] using between_from low high 0 items

-- A slice that would end before it starts is empty, wherever it is said to end.
theorem between_max (low high : Int) (items : List α) : between low (max low high) items = between low high items := by
  unfold between
  congr 1
  refine List.filter_congr fun item _ => ?_
  rw [Bool.eq_iff_iff]
  simp only [Bool.and_eq_true, decide_eq_true_eq]
  omega

theorem toInt_ofInt (word : InWord b) : (Int64.ofInt b).toInt = b := by
  unfold InWord Text.leastWord greatestWord at word
  exact Int64.toInt_ofInt_of_le (by omega) (by omega)

theorem lengthWord_toInt (length : Nat) : (lengthWord length).toInt = min (length : Int) greatestWord := by
  have word : InWord (min (length : Int) greatestWord) := by
    unfold InWord Text.leastWord greatestWord
    omega
  exact toInt_ofInt word

theorem max_toInt (a b : Int64) : (max a b).toInt = max a.toInt b.toInt := by
  change (if a ≤ b then b else a).toInt = _
  rw [apply_ite Int64.toInt, Int.max_def]
  simp only [Int64.le_iff_toInt_le]

theorem min_toInt (a b : Int64) : (min a b).toInt = min a.toInt b.toInt := by
  change (if a ≤ b then a else b).toInt = _
  rw [apply_ite Int64.toInt, Int.min_def]
  simp only [Int64.le_iff_toInt_le]

def counted (length : Nat) : Int := min length greatestWord

theorem counted_clear (length : Nat) : 0 ≤ counted length := by
  unfold counted greatestWord
  omega

-- The only sum that is made has one term of either sign, so that it is a word.
theorem add_toInt (bound : Int64) (length : Nat) (negative : bound < 0) :
    (bound + lengthWord length).toInt = bound.toInt + (lengthWord length).toInt := by
  have below : bound.toInt < 0 := Int64.lt_iff_toInt_lt.mp negative
  have least := bound.le_toInt
  have clear : 0 ≤ (lengthWord length).toInt := lengthWord_toInt length ▸ counted_clear length
  have most := (lengthWord length).toInt_lt
  rw [Int64.toInt_add]
  exact Int.bmod_eq_of_le (by omega) (by omega)

theorem sliceBound_toInt (length : Nat) (bound : Int64) :
    (sliceBound (lengthWord length) bound).toInt = cut (counted length) bound.toInt := by
  unfold sliceBound cut
  by_cases negative : bound < 0
  · have below : bound.toInt < 0 := Int64.lt_iff_toInt_lt.mp negative
    rw [if_pos negative, if_pos below, max_toInt, add_toInt bound length negative, lengthWord_toInt, Int.add_comm]
    rfl
  · have clear : ¬bound.toInt < 0 := fun below => negative (Int64.lt_iff_toInt_lt.mpr below)
    rw [if_neg negative, if_neg clear, min_toInt, lengthWord_toInt]
    rfl

theorem optional_toInt (length : Nat) (bound : Option Int64) (otherwise : Int64) :
    ((bound.map (sliceBound (lengthWord length))).getD otherwise).toInt =
      ((bound.map Int64.toInt).map (cut (counted length))).getD otherwise.toInt := by
  cases bound with
  | none => rfl
  | some bound => exact sliceBound_toInt length bound

theorem cut_within (clear : 0 ≤ low) (bound : Int) : 0 ≤ cut low bound ∧ cut low bound ≤ low := by
  unfold cut
  split <;> omega

theorem optional_within (clear : 0 ≤ low) (bound : Option Int) {otherwise : Int} (least : 0 ≤ otherwise)
    (most : otherwise ≤ low) : 0 ≤ (bound.map (cut low)).getD otherwise ∧ (bound.map (cut low)).getD otherwise ≤ low := by
  cases bound with
  | none => exact ⟨least, most⟩
  | some bound => exact cut_within clear bound

theorem startCut_within (clear : 0 ≤ low) (start : Option Int) : 0 ≤ startCut low start ∧ startCut low start ≤ low :=
  optional_within clear start le_rfl clear

theorem stopCut_within (clear : 0 ≤ low) (stop : Option Int) : 0 ≤ stopCut low stop ∧ stopCut low stop ≤ low :=
  optional_within clear stop clear le_rfl

theorem toNat_of_clear (clear : 0 ≤ word.toInt) : (word.toUInt64.toNat : Int) = word.toInt := by
  have cases := word.toBitVec.toInt_eq_toNat_cond
  change 0 ≤ word.toBitVec.toInt at clear
  change (word.toBitVec.toNat : Int) = word.toBitVec.toInt
  have := word.toBitVec.isLt
  split at cases <;> omega

theorem sliceRange_cuts (length : Nat) (start stop : Option Int64) :
    ((sliceRange length start stop).1 : Int) = startCut (counted length) (start.map Int64.toInt) ∧
    ((sliceRange length start stop).2 : Int) =
      max (startCut (counted length) (start.map Int64.toInt)) (stopCut (counted length) (stop.map Int64.toInt)) := by
  have first : ((start.map (sliceBound (lengthWord length))).getD 0).toInt =
      startCut (counted length) (start.map Int64.toInt) := optional_toInt length start 0
  have last : ((stop.map (sliceBound (lengthWord length))).getD (lengthWord length)).toInt =
      stopCut (counted length) (stop.map Int64.toInt) := by
    rw [optional_toInt, lengthWord_toInt, stopCut, counted]
  have clear := (startCut_within (counted_clear length) (start.map Int64.toInt)).1
  constructor
  · rw [sliceRange, toNat_of_clear (by rwa [first]), first]
  · rw [sliceRange, toNat_of_clear, max_toInt, first, last]
    rw [max_toInt, first]
    exact le_max_of_le_left clear

theorem sliceRange_within (length : Nat) (start stop : Option Int64) :
    (sliceRange length start stop).1 ≤ (sliceRange length start stop).2 ∧ (sliceRange length start stop).2 ≤ length := by
  obtain ⟨first, last⟩ := sliceRange_cuts length start stop
  have low := startCut_within (counted_clear length) (start.map Int64.toInt)
  have high := stopCut_within (counted_clear length) (stop.map Int64.toInt)
  have short : counted length ≤ length := min_le_left _ _
  omega

theorem words_toInt (words : ∀ bound ∈ start, InWord bound) : (start.map Int64.ofInt).map Int64.toInt = start := by
  cases start with
  | none => rfl
  | some bound => exact congrArg some (toInt_ofInt (words bound rfl))

theorem slice_between (fits : Fits items) (starts : ∀ bound ∈ start, InWord bound)
    (stops : ∀ bound ∈ stop, InWord bound) :
    slice items start stop = between (startCut items.length start) (stopCut items.length stop) items := by
  have all : counted items.length = items.length := min_eq_left fits
  obtain ⟨first, last⟩ := sliceRange_cuts items.length (start.map .ofInt) (stop.map .ofInt)
  rw [all, words_toInt starts] at first last
  rw [words_toInt stops] at last
  rw [← between_max, between_eq, ← last, ← first, Int.toNat_natCast, Int.toNat_natCast, slice]

namespace ListSettings

variable {settings : ListSettings} {words : List Int}

theorem mem_found {texts : List String} {bound : Int} {i : Nat}
    (found : (texts.filterMap fun part => Text.integer? (Text.trim part))[i]? = some bound) : InWord bound := by
  obtain ⟨part, _, read⟩ := List.mem_filterMap.mp (List.mem_of_getElem? found)
  have word := (Option.filter_eq_some_iff.mp read).2
  simpa [InWord] using word

-- The bounds of a range are words, and any words can be bounds.
theorem bounds_words (settings : ListSettings) :
    (∀ bound ∈ settings.bounds.1, InWord bound) ∧ ∀ bound ∈ settings.bounds.2, InWord bound :=
  ⟨fun _ found => mem_found found, fun _ found => mem_found found⟩

theorem bounds_written (fits : ∀ n ∈ words, InWord n) (written : settings.range = ",".intercalate (words.map toString)) :
    settings.bounds = (words[0]?, words[1]?) := by
  have read : (Text.splitChar ',' settings.range).filterMap (fun part => Text.integer? (Text.trim part)) = words := by
    rw [written]
    cases words with
    | nil => decide +kernel
    | cons n words =>
      have unmarked : ∀ text ∈ (n :: words).map toString, ',' ∉ text.toList := by
        intro text member inside
        obtain ⟨m, _, rfl⟩ := List.mem_map.mp member
        rcases Text.mem_repr inside with minus | digit
        · cases minus
        · cases digit
      have parts : Text.splitChar ',' (",".intercalate ((n :: words).map toString)) = (n :: words).map toString :=
        Text.splitChar_intercalate (by simp) unmarked
      have each : ∀ m ∈ n :: words, ((fun part => Text.integer? (Text.trim part)) ∘ toString) m = some m := by
        intro m member
        rw [Function.comp_apply, Text.integer?_toString (fits m member)]
      rw [parts, List.filterMap_map, List.filterMap_congr each, List.filterMap_some]
  rw [bounds, read]

end ListSettings

theorem effectiveStop_cut (settings : TextSettings) (length : Int) :
    stopCut length settings.effectiveStop = textCut length settings.stop := by
  unfold TextSettings.effectiveStop textCut
  split
  · rename_i zero
    rw [zero]
    rfl
  · rename_i other
    cases given : settings.stop with
    | none => rfl
    | some bound =>
      have some : bound ≠ 0 := fun zero => other (zero ▸ given)
      rw [Option.filter_some, if_pos (bne_iff_ne.mpr some)]

-- A list or text that is sliced is what stands between the two cuts, and nothing on the way to them goes wrong.
theorem slices_exact :
    (∀ settings : ListSettings, settings.operation = .slice → ∀ literal inputs items, targetItems inputs = items → Fits items →
      (Kind.list settings).evaluate literal inputs = some (.list
        (between (startCut items.length settings.bounds.1) (stopCut items.length settings.bounds.2) items))) ∧
    (∀ (words : List Int) (settings : ListSettings), (∀ n ∈ words, InWord n) →
      settings.range = ",".intercalate (words.map toString) → settings.bounds = (words[0]?, words[1]?)) ∧
    (∀ settings : TextSettings, settings.operation = .substring → InWord settings.start →
      (∀ stop ∈ settings.stop, InWord stop) → ∀ literal inputs chars, (inputs.text "left").toList = chars → Fits chars →
      (Kind.text settings).evaluate literal inputs = some (.text (.ofList
        (between (cut chars.length settings.start) (textCut chars.length settings.stop) chars)))) ∧
    (∀ (length : Nat) (start stop : Option Int64), (sliceRange length start stop).1 ≤ (sliceRange length start stop).2 ∧
      (sliceRange length start stop).2 ≤ length) ∧
    ∀ (bound : Int64) (length : Nat), bound < 0 →
      (bound + lengthWord length).toInt = bound.toInt + (lengthWord length).toInt := by
  refine ⟨?_, ?_, ?_, sliceRange_within, add_toInt⟩
  · rintro settings sliced literal inputs items rfl fits
    obtain ⟨starts, stops⟩ := settings.bounds_words
    simp only [Kind.evaluate, ListSettings.evaluate, sliced, slice_between fits starts stops]
  · intro words settings fits written
    exact ListSettings.bounds_written fits written
  · rintro settings sliced start stop literal inputs chars rfl fits
    have starts : ∀ bound ∈ some settings.start, InWord bound := by simpa using start
    have stops : ∀ bound ∈ settings.effectiveStop, InWord bound :=
      fun bound given => stop bound (Option.mem_filter_iff.mp given).1
    simp only [Kind.evaluate, TextSettings.evaluate, sliced, slice_between fits starts stops, effectiveStop_cut]
    rfl

-- The last three items, up to the greatest word, and a text from the least word on to its end.
def lastThree : ListSettings := { operation := .slice, range := "-3,9223372036854775807" }

def fromLeast : TextSettings := { operation := .substring, start := Text.leastWord, stop := some 0 }

def letters : List Value := [.text "a", .text "b", .text "c", .text "d"]

theorem extremes_sliced :
    (Kind.list lastThree).evaluate (.list []) (.bind (.named ["target"]) [(none, .list letters)]) =
      some (.list [.text "b", .text "c", .text "d"]) ∧
    lastThree.bounds = (some (-3), some greatestWord) ∧
    (Kind.text fromLeast).evaluate (.text "") (.bind (.named ["left"]) [(none, .text "né!")]) = some (.text "né!") ∧
    (Int64.minValue + lengthWord 3).toInt = Int64.minValue.toInt + (lengthWord 3).toInt := by
  obtain ⟨lists, ranges, texts, _, sums⟩ := slices_exact
  have bounds : lastThree.bounds = (some (-3), some greatestWord) := ranges [-3, greatestWord] lastThree (by decide) (by decide)
  refine ⟨?_, bounds, ?_, sums _ 3 (by decide)⟩
  · rw [lists lastThree rfl _ _ letters rfl (by decide), bounds]
    rfl
  · rw [texts fromLeast rfl (by decide) (by decide) _ _ ['n', 'é', '!'] (by decide) (by decide)]
    rfl

end Dataflow
