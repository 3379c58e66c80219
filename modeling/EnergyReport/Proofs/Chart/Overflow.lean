import EnergyReport.Proofs.Chart.Payload
import EnergyReport.Proofs.Number.Exact

namespace EnergyReport.Chart.Losses

open Html Number

/-! How far the arithmetic of a chart reaches.

The weights are checked one by one. Their sum, a wedge's share of it, and the number in the
legend may still leave the range of floating-point numbers. -/

/-- All weights are finite and above zero. -/
def Weighs (entries : List (LossEntry Float)) : Prop :=
  ∀ entry ∈ entries, entry.weight.isFinite ∧ 0 < entry.weight

/-- Each sum on the way to the total is below the limit. -/
def SumsFit (entries : List (LossEntry Float)) : Prop :=
  ∀ before entry after, entries = before ++ entry :: after →
    exact (total before) + exact entry.weight < overflowLimit

theorem weighs_ofPairs (pairs : List (Text × Float)) : Weighs (ofPairs pairs) := by
  intro entry member
  obtain ⟨pair, _, entered⟩ := List.mem_filterMap.mp member
  obtain ⟨valid, enters⟩ := entry?_eq_some_iff.mp entered
  rw [enters.weight]
  exact ⟨valid.finite, valid.positive⟩

section Total

variable {entries before : List (LossEntry Float)} {entry : LossEntry Float}

theorem Weighs.isNumber (weighs : Weighs entries) (member : entry ∈ entries) :
    IsNumber entry.weight (exact entry.weight) ∧ 0 < exact entry.weight := by
  have number := isNumber_exact (weighs entry member).1 (weighs entry member).2
  exact ⟨number, number.zero_lt_iff.mp (weighs entry member).2⟩

theorem Weighs.front (weighs : Weighs (before ++ [entry])) : Weighs before :=
  fun other member => weighs other (List.mem_append_left _ member)

theorem total_concat (before : List (LossEntry Float)) (entry : LossEntry Float) :
    total (before ++ [entry]) = total before + entry.weight := by
  rw [total, List.foldl_append]
  rfl

theorem sumsFit_concat_iff :
    SumsFit (before ++ [entry]) ↔
      SumsFit before ∧ exact (total before) + exact entry.weight < overflowLimit := by
  constructor
  · intro fits
    refine ⟨fun front other back split => fits front other (back ++ [entry]) ?_,
      fits before entry [] rfl⟩
    rw [split, List.append_assoc, List.cons_append]
  · intro ⟨fits, last⟩ front other back split
    rcases back.eq_nil_or_concat' with rfl | ⟨back, final, rfl⟩
    · obtain ⟨rfl, same⟩ := List.append_inj' split rfl
      obtain rfl := (List.cons.inj same).1
      exact last
    · rw [← List.cons_append, ← List.append_assoc] at split
      exact fits front other back (List.append_inj_left' split rfl)

/-- The total stays finite as long as the sums fit, and it is infinite from the first one on that
does not. -/
theorem total_cases (weighs : Weighs entries) :
    (SumsFit entries ∧ IsNumber (total entries) (exact (total entries))) ∨
      (¬ SumsFit entries ∧ IsInfinite (total entries)) := by
  induction entries using List.reverseRecOn with
  | nil =>
      left
      have number : IsNumber (total []) 0 := isNumber_zero
      exact ⟨fun before entry after split => by simp at split, by rwa [number.exact_eq]⟩
  | append_singleton before entry ih =>
      have weight := (weighs.isNumber (List.mem_concat_self)).1
      rw [sumsFit_concat_iff, total_concat]
      rcases ih weighs.front with ⟨fits, number⟩ | ⟨exceeds, infinite⟩
      · have sum := number.add weight
        rcases lt_or_ge (exact (total before) + exact entry.weight) overflowLimit with below | limit
        · have finite := sum.finite below
          exact .inl ⟨⟨fits, below⟩, by rwa [finite.exact_eq]⟩
        · exact .inr ⟨fun both => absurd both.2 (not_lt.mpr limit), sum.infinite limit⟩
      · exact .inr ⟨fun both => exceeds both.1, infinite.add weight⟩

theorem isNumber_total (weighs : Weighs entries) (fits : SumsFit entries) :
    IsNumber (total entries) (exact (total entries)) := by
  rcases total_cases weighs with ⟨_, number⟩ | ⟨exceeds, _⟩
  · exact number
  · exact absurd fits exceeds

theorem isFinite_total_iff (weighs : Weighs entries) :
    (total entries).isFinite ↔ SumsFit entries := by
  rcases total_cases weighs with ⟨fits, number⟩ | ⟨exceeds, infinite⟩
  · exact iff_of_true number.isFinite fits
  · exact iff_of_false infinite.not_isFinite exceeds

/-- A total that is finite is no less than each of the weights. -/
theorem weight_le_total (weighs : Weighs entries) (fits : SumsFit entries)
    (member : entry ∈ entries) : exact entry.weight ≤ exact (total entries) := by
  induction entries using List.reverseRecOn with
  | nil => cases member
  | append_singleton before last ih =>
      have weight := weighs.isNumber (List.mem_concat_self)
      obtain ⟨fits, below⟩ := sumsFit_concat_iff.mp fits
      have number := isNumber_total weighs.front fits
      have sum := (number.add weight.1).finite below
      rw [total_concat, sum.exact_eq]
      rcases List.mem_append.mp member with among | isLast
      · have positive := (weighs.front.isNumber among).2
        have least := ih weighs.front fits among
        calc exact entry.weight ≤ exact (total before) := least
          _ = rounded (exact (total before)) := (Holds.rounded_eq number).symm
          _ ≤ _ := rounded_mono (positive.trans_le least) (by linarith [weight.2])
      · obtain rfl := List.mem_singleton.mp isLast
        calc exact entry.weight = rounded (exact entry.weight) := (Holds.rounded_eq weight.1).symm
          _ ≤ _ := rounded_mono weight.2 (by linarith [number.nonneg])

end Total

section Sweep

variable {entry : LossEntry Float} {whole : Float} {value sum : ℚ}

theorem sweep_of_infinite (weight : IsNumber entry.weight value) (infinite : IsInfinite whole) :
    ¬ 0 < sweep whole entry := by
  have share := weight.div_infinite infinite
  have degrees := (share.mul isNumber_circle).finite (by rw [zero_mul]; exact overflowLimit_pos)
  rw [zero_mul, rounded_zero] at degrees
  exact fun positive => lt_irrefl 0 (degrees.zero_lt_iff.mp positive)

/-- A wedge has a sweep as long as its share is above half of the least number. -/
theorem zero_lt_sweep_iff (weight : IsNumber entry.weight value) (isWhole : IsNumber whole sum)
    (positive : 0 < value) (share : value ≤ sum) :
    0 < sweep whole entry ↔ sum < 2 ^ 1075 * value := by
  have positive' : 0 < sum := positive.trans_le share
  have most : value / sum ≤ 1 := (div_le_one positive').mpr share
  have ratio := (weight.div isWhole positive').finite
    (most.trans_lt ((by norm_num : (1 : ℚ) < 2 ^ 100).trans_le large_overflowLimit))
  have atMost : rounded (value / sum) ≤ 1 :=
    rounded_one ▸ rounded_mono (div_pos positive positive') most
  have degrees := (ratio.mul isNumber_circle).finite (by
    refine lt_of_lt_of_le ?_ large_overflowLimit
    linarith)
  change 0 < entry.weight / whole * 360 ↔ _
  rw [degrees.zero_lt_iff, ratio.rounded_mul_pos_iff (by norm_num),
    rounded_pos_iff (div_nonneg positive.le positive'.le), lt_div_iff₀ positive',
    zpow_neg, inv_mul_lt_iff₀ (zpow_pos two_pos _)]
  rfl

end Sweep

/-! ### The legend -/

def IsDigits (text : Text) : Prop :=
  text ≠ [] ∧ ∀ c ∈ text, c.isDigit

/-- Digits, at most with a point and more digits behind them. -/
inductive IsDecimal : Text → Prop where
  | whole {digits : Text} (isDigits : IsDigits digits) : IsDecimal digits
  | fraction {digits places : Text} (isDigits : IsDigits digits) (isDigits' : IsDigits places) :
      IsDecimal (digits ++ '.' :: places)

/-- The lines of a legend in bold letters. -/
def isPercentage (shown : Element) : Bool :=
  shown.attributes.lookup "font-weight" = some "600"

/-- The weights that the legend of a page shows. -/
def percentages (page : List Token) : List Text :=
  ((elements page).filter isPercentage).map Element.text

section Legend

variable {weight : Float} {value : ℚ}

theorem isDigits_toString (n : Nat) : IsDigits (toString n).toList := by
  rw [Nat.toString_eq_ofList_toDigits, String.toList_ofList]
  exact ⟨Nat.toDigits_ne_nil, fun c member =>
    Nat.isDigit_of_mem_toDigits (by decide) (by decide) member⟩

theorem IsDigits.cons {digit : Char} {text : Text} (isDigit : digit.isDigit)
    (isDigits : IsDigits text) : IsDigits (digit :: text) :=
  ⟨List.cons_ne_nil _ _, List.forall_mem_cons.mpr ⟨isDigit, isDigits.2⟩⟩

theorem isDecimal_showHundredths (count : Nat) : IsDecimal (showHundredths count).toList := by
  have whole := isDigits_toString (count / 100)
  have cents := isDigits_toString (count % 100)
  simp only [showHundredths]
  split_ifs
  · exact .whole whole
  · rw [String.toList_append, String.toList_append, List.append_assoc]
    exact .fraction whole (isDigits_toString _)
  · rw [String.toList_append, String.toList_append, List.append_assoc]
    exact .fraction whole (cents.cons (by decide))
  · rw [String.toList_append, String.toList_append, List.append_assoc]
    exact .fraction whole cents

/-- The legend shows digits, unless a hundred times the weight is too large. -/
theorem legendWeight_cases (number : IsNumber weight value) :
    if 100 * value < overflowLimit then
      ∃ decimal, IsDecimal decimal ∧ (legendWeight weight).toList = decimal ++ ['%']
    else legendWeight weight = "inf%" := by
  obtain ⟨whole, isWhole, same⟩ := number.exists_round
  have limit : 100 * whole < overflowLimit ↔ 100 * value < overflowLimit := by
    rcases same with rfl | ⟨small, small'⟩
    · rfl
    · have large := large_overflowLimit
      exact iff_of_true (by linarith) (by linarith)
  split_ifs with fits
  · obtain ⟨count, shown⟩ := isWhole.exists_showCoordinate_eq (limit.mpr fits)
    refine ⟨_, isDecimal_showHundredths count, ?_⟩
    rw [legendWeight, shown, String.toList_append]
    rfl
  · have shown := isWhole.showCoordinate_of_large (not_lt.mp (mt limit.mp fits))
    rw [legendWeight, shown]
    rfl

theorem percentages_pieces (entries : List (LossEntry Float)) :
    percentages (tokens (render (pieces entries)).toList) =
      entries.map fun entry => (legendWeight entry.weight).toList := by
  rcases eq_or_ne entries [] with rfl | several
  · rfl
  · have places : entries.zipIdx.map Prod.fst = entries := List.zipIdx_map_fst 0 entries
    rw [percentages, elements_pieces several, List.filter_append, List.filter_append]
    have frame : (frameElements entries.length).filter isPercentage = [] := rfl
    have pie : (pieElements entries).filter isPercentage = [] := by
      refine List.filter_eq_nil_iff.mpr fun shown member => ?_
      obtain ⟨place, _, rfl⟩ := List.mem_map.mp member
      exact Bool.false_ne_true
    have legend : ((legendElements entries).filter isPercentage).map Element.text =
        entries.zipIdx.map fun place => (legendWeight place.1.weight).toList := by
      rw [legendElements, List.filter_flatMap, List.map_flatMap]
      exact List.flatMap_pure_eq_map _ _
    rw [frame, pie, List.nil_append, List.nil_append, legend]
    conv_rhs => rw [← places, List.map_map]
    rfl

end Legend

/-- How far the weights of a payload may go. The total is finite exactly as long as each sum is
below the limit. A wedge has a sweep exactly where, besides, the total is less than `2 ^ 1075`
times its weight. The legend shows a number exactly where a hundred times the weight is below the
limit, for which the weight itself need not be near it. -/
theorem arithmetic_range (payload : Json) :
    ((total (ofJson payload)).isFinite ↔ SumsFit (ofJson payload)) ∧
      (∀ wedge ∈ wedges (ofJson payload), 0 < wedge.sweep ↔
        (total (ofJson payload)).isFinite ∧
          exact (total (ofJson payload)) < 2 ^ 1075 * exact wedge.weight) ∧
      List.Forall₂ (fun entry shown =>
          if 100 * exact entry.weight < overflowLimit then
            ∃ decimal, IsDecimal decimal ∧ shown = decimal ++ ['%']
          else shown = "inf%".toList)
        (ofJson payload) (percentages (tokens (render (lossesOf payload)).toList)) := by
  have weighs : Weighs (ofJson payload) := ofJson_eq payload ▸ weighs_ofPairs _
  generalize entered : ofJson payload = entries at weighs
  refine ⟨isFinite_total_iff weighs, fun wedge member => ?_, ?_⟩
  · rw [wedges_eq] at member
    obtain ⟨⟨entry, place⟩, among, rfl⟩ := List.mem_map.mp member
    have isEntry : entry ∈ entries := List.fst_mem_of_mem_zipIdx among
    obtain ⟨weight, positive⟩ := weighs.isNumber isEntry
    change 0 < sweep (total entries) entry ↔ _ ∧ _ < _ * exact entry.weight
    rcases total_cases weighs with ⟨fits, number⟩ | ⟨exceeds, infinite⟩
    · rw [zero_lt_sweep_iff weight number positive (weight_le_total weighs fits isEntry)]
      exact (and_iff_right number.isFinite).symm
    · exact iff_of_false (sweep_of_infinite weight infinite)
        fun both => infinite.not_isFinite both.1
  · rw [lossesOf, entered, percentages_pieces, List.forall₂_map_right_iff, List.forall₂_same]
    intro entry member
    have shown := legendWeight_cases (weighs.isNumber member).1
    split_ifs at shown ⊢ with fits
    · exact shown
    · rw [shown]

example :
    (Json.read "\x7b\"murs\":1e307\x7d".toList).map (fun payload =>
      (ofJson payload).map fun entry => legendWeight entry.weight) = some ["inf%"] := by
  decide +kernel

example :
    (Json.read "\x7b\"murs\":1e308,\"toiture\":1e308\x7d".toList).map (fun payload =>
      (total (ofJson payload)).isFinite) = some false := by
  decide +kernel

example :
    (Json.read "\x7b\"murs\":1e-320,\"toiture\":1e10\x7d".toList).map (fun payload =>
      (wedges (ofJson payload)).map fun wedge => decide (0 < wedge.sweep)) =
        some [false, true] := by
  decide +kernel

end EnergyReport.Chart.Losses
