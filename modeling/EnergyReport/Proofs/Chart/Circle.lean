import EnergyReport.Proofs.Chart.Losses
import Mathlib.Algebra.BigOperators.Ring.List
import Mathlib.Algebra.Order.BigOperators.Group.List
import Mathlib.Algebra.Order.Field.Rat
import Mathlib.Tactic.Positivity
import Mathlib.Tactic.Ring

namespace EnergyReport.Chart

/-! The wedges in exact arithmetic: together they go once round the circle, and each has the
share of its weight. -/

def Wedge.stop (wedge : Wedge ℚ) : ℚ :=
  wedge.start + wedge.sweep

def Wedge.angles (wedge : Wedge ℚ) : ℚ × ℚ :=
  (wedge.start, wedge.sweep)

/-- What a wedge shows, wherever it lies. -/
def Wedge.portion (wedge : Wedge ℚ) : LossCategory × ℚ × ℚ :=
  (wedge.category, wedge.weight, wedge.sweep)

/-- The wedge of an entry whose degrees are its weight times a factor. -/
def LossEntry.portion (factor : ℚ) (entry : LossEntry ℚ) : LossCategory × ℚ × ℚ :=
  (entry.category, entry.weight, factor * entry.weight)

def LossEntry.scaled (factor : ℚ) (entry : LossEntry ℚ) : LossEntry ℚ :=
  { entry with weight := factor * entry.weight }

/-- Wedges that cover the circle from the top round to the top, each once. -/
structure PartitionsCircle (wedges : List (Wedge ℚ)) : Prop where
  begins : wedges.head?.map Wedge.start = some 0
  adjoins : wedges.IsChain fun wedge next => next.start = wedge.stop
  positive : ∀ wedge ∈ wedges, 0 < wedge.sweep
  closes : wedges.getLast?.map Wedge.stop = some 360

namespace Losses

theorem total_eq_sum (entries : List (LossEntry ℚ)) :
    total entries = (entries.map LossEntry.weight).sum := by
  rw [total, List.sum_eq_foldl, List.foldl_map]

theorem total_pos {entries : List (LossEntry ℚ)} (several : entries ≠ [])
    (positive : ∀ entry ∈ entries, 0 < entry.weight) : 0 < total entries := by
  rw [total_eq_sum]
  exact List.sum_pos _ (List.forall_mem_map.mpr positive) (by simpa using several)

theorem total_scaled (factor : ℚ) (entries : List (LossEntry ℚ)) :
    total (entries.map (LossEntry.scaled factor)) = factor * total entries := by
  rw [total_eq_sum, total_eq_sum, List.map_map, ← List.sum_map_mul_left]
  rfl

theorem total_perm {entries others : List (LossEntry ℚ)} (same : others.Perm entries) :
    total others = total entries := by
  rw [total_eq_sum, total_eq_sum]
  exact (same.map _).sum_eq

theorem sweep_eq (total : ℚ) (entry : LossEntry ℚ) :
    sweep total entry = 360 / total * entry.weight := by
  rw [sweep]
  ring

theorem sweep_scaled {factor : ℚ} (positive : 0 < factor) (total : ℚ) (entry : LossEntry ℚ) :
    sweep (factor * total) (entry.scaled factor) = sweep total entry := by
  rw [sweep, sweep, LossEntry.scaled, mul_div_mul_left _ _ positive.ne']

theorem head?_wedgesFrom (total start : ℚ) {entries : List (LossEntry ℚ)}
    (several : entries ≠ []) :
    (wedgesFrom total start entries).head?.map Wedge.start = some start := by
  obtain ⟨entry, rest, rfl⟩ := List.exists_cons_of_ne_nil several
  rfl

theorem isChain_wedgesFrom (total start : ℚ) (entries : List (LossEntry ℚ)) :
    (wedgesFrom total start entries).IsChain fun wedge next => next.start = wedge.stop := by
  induction entries generalizing start with
  | nil => exact .nil
  | cons entry rest ih =>
      cases rest with
      | nil => exact .singleton _
      | cons next rest => exact .cons_cons rfl (ih _)

/-- The wedges end where the sum of the weights takes them. -/
theorem getLast?_wedgesFrom (total start : ℚ) {entries : List (LossEntry ℚ)}
    (several : entries ≠ []) :
    (wedgesFrom total start entries).getLast?.map Wedge.stop =
      some (start + 360 / total * (entries.map LossEntry.weight).sum) := by
  induction entries generalizing start with
  | nil => contradiction
  | cons entry rest ih =>
      have first : entry.weight / total * 360 = 360 / total * entry.weight := sweep_eq total entry
      cases rest with
      | nil => simp [wedgesFrom, Wedge.stop, first]
      | cons next rest =>
          have following := ih (start + entry.weight / total * 360) (by simp)
          have sum : ((entry :: next :: rest).map LossEntry.weight).sum =
              entry.weight + ((next :: rest).map LossEntry.weight).sum := by simp
          rw [wedgesFrom, wedgesFrom, List.getLast?_cons_cons, ← wedgesFrom, following, first, sum,
            mul_add, add_assoc]

theorem map_portion_wedgesFrom (total start : ℚ) (entries : List (LossEntry ℚ)) :
    (wedgesFrom total start entries).map Wedge.portion =
      entries.map (LossEntry.portion (360 / total)) := by
  induction entries generalizing start with
  | nil => rfl
  | cons entry rest ih =>
      rw [wedgesFrom, List.map_cons, List.map_cons, ih, LossEntry.portion, ← sweep_eq]
      rfl

theorem map_angles_scaled {factor : ℚ} (positive : 0 < factor) (total start : ℚ)
    (entries : List (LossEntry ℚ)) :
    (wedgesFrom (factor * total) start (entries.map (LossEntry.scaled factor))).map Wedge.angles =
      (wedgesFrom total start entries).map Wedge.angles := by
  induction entries generalizing start with
  | nil => rfl
  | cons entry rest ih =>
      have same := sweep_scaled positive total entry
      rw [sweep, sweep] at same
      rw [List.map_cons, wedgesFrom, wedgesFrom, same, List.map_cons, List.map_cons, ih]
      rfl

/-- Positive weights are shared out exactly. The wedges go once round the circle; the degrees of
each are its weight times one factor, in whatever order the entries stand; and only the ratios of
the weights count. -/
theorem wedges_partition_circle {entries : List (LossEntry ℚ)} (several : entries ≠ [])
    (positive : ∀ entry ∈ entries, 0 < entry.weight) :
    PartitionsCircle (wedges entries) ∧
      (∃ factor > 0, ∀ others, others.Perm entries →
        (wedges others).map Wedge.portion = others.map (LossEntry.portion factor) ∧
          ((wedges others).map Wedge.portion).Perm ((wedges entries).map Wedge.portion)) ∧
      ∀ factor > 0, (wedges (entries.map (LossEntry.scaled factor))).map Wedge.angles =
        (wedges entries).map Wedge.angles := by
  have whole : 0 < total entries := total_pos several positive
  have portions (others : List (LossEntry ℚ)) (same : others.Perm entries) :
      (wedges others).map Wedge.portion =
        others.map (LossEntry.portion (360 / total entries)) := by
    rw [wedges, total_perm same, map_portion_wedgesFrom]
  refine ⟨⟨head?_wedgesFrom _ _ several, isChain_wedgesFrom _ _ _, ?_, ?_⟩,
    ⟨360 / total entries, by positivity, fun others same => ⟨portions others same, ?_⟩⟩, ?_⟩
  · intro wedge member
    have shown := List.mem_map_of_mem (f := Wedge.portion) member
    rw [portions entries (.refl _)] at shown
    obtain ⟨entry, among, same⟩ := List.mem_map.mp shown
    have degrees : 360 / total entries * entry.weight = wedge.sweep :=
      congrArg (fun portion => portion.2.2) same
    have weight := positive entry among
    rw [← degrees]
    positivity
  · rw [wedges, getLast?_wedgesFrom _ _ several, ← total_eq_sum, zero_add,
      div_mul_cancel₀ _ whole.ne']
  · rw [portions others same, portions entries (.refl _)]
    exact same.map _
  · intro factor above
    rw [wedges, total_scaled, map_angles_scaled above]
    rfl

theorem wedges_partition_circle_thirds :
    let entries : List (LossEntry ℚ) := [⟨.walls, 1⟩, ⟨.roof, 1 / 3⟩, ⟨.floors, 1 / 3⟩]
    let turned : List (LossEntry ℚ) := [⟨.floors, 1 / 3⟩, ⟨.walls, 1⟩, ⟨.roof, 1 / 3⟩]
    entries ≠ [] ∧ (∀ entry ∈ entries, 0 < entry.weight) ∧ PartitionsCircle (wedges entries) ∧
      turned.Perm entries ∧
      ((wedges turned).map Wedge.portion).Perm ((wedges entries).map Wedge.portion) ∧
      (wedges (entries.map (LossEntry.scaled 3))).map Wedge.angles =
        (wedges entries).map Wedge.angles ∧
      (wedges entries).map Wedge.angles = [(0, 216), (216, 72), (288, 72)] := by
  intro entries turned
  have several : entries ≠ [] := List.cons_ne_nil _ _
  have positive : ∀ entry ∈ entries, 0 < entry.weight := by
    simp [entries]
  have permuted : turned.Perm entries := .trans (.swap _ _ _) (.cons _ (.swap _ _ _))
  obtain ⟨circle, ⟨factor, _, shared⟩, ratios⟩ := wedges_partition_circle several positive
  refine ⟨several, positive, circle, permuted, (shared turned permuted).2, ratios 3 (by norm_num),
    ?_⟩
  simp only [entries, wedges, total, wedgesFrom, List.foldl_cons, List.foldl_nil, List.map_cons,
    List.map_nil, Wedge.angles]
  norm_num

end Losses
end EnergyReport.Chart
