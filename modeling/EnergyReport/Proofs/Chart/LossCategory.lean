import EnergyReport.Chart.LossCategory

namespace EnergyReport.Chart.LossCategory

/-! The keys that name a category of losses. -/

theorem mem_all (category : LossCategory) : category ∈ all := by
  cases category <;> decide

theorem key_injective : Function.Injective key := by
  intro first second same
  cases first <;> cases second <;> first | rfl | exact absurd same (by decide)

/-- A category is named by the spellings of its key and by no others. -/
theorem ofKey?_eq_some_iff {name : Text} {category : LossCategory} :
    ofKey? name = some category ↔ normalizeKey name = category.key := by
  constructor
  · intro found
    have named := List.find?_some found
    simpa [eq_comm] using named
  · intro named
    have apart : ∀ candidate, candidate.key = normalizeKey name ↔ candidate = category :=
      fun candidate => named ▸ key_injective.eq_iff
    simp only [ofKey?, apart]
    cases category <;> rfl

end EnergyReport.Chart.LossCategory
