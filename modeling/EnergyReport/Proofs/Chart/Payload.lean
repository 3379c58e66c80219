import EnergyReport.Proofs.Chart.Losses
import EnergyReport.Proofs.Json.Reader
import Mathlib.Data.List.Nodup
import Mathlib.Data.List.Perm.Subperm

namespace EnergyReport.Chart.Losses

open Html

/-! The categories that the chart of a payload shows. A category is shown once for each
spelling of its key, so a payload with different spellings of one key repeats it. -/

/-- The keys of a payload with the weights that they are given. -/
def pairsOf : Json → List (Text × Float)
  | .object members => members.filterMap fun member => (weightOf? member.2).map (member.1, ·)
  | _ => []

/-- The keys that count. -/
def validKeys (payload : Json) : List Text :=
  ((pairsOf payload).filter IsValid).map Prod.fst

theorem ofJson_eq (payload : Json) : ofJson payload = ofPairs (pairsOf payload) := by
  cases payload <;> rfl

theorem keys_pairsOf_sublist (members : List (Text × Json)) :
    ((pairsOf (.object members)).map Prod.fst).Sublist (members.map Prod.fst) := by
  induction members with
  | nil => exact List.Sublist.slnil
  | cons member rest ih =>
      rw [pairsOf] at ih ⊢
      cases weight : weightOf? member.2 with
      | none => simpa [List.filterMap_cons, weight] using ih.cons member.1
      | some value => simpa [List.filterMap_cons, weight] using ih

theorem nodup_validKeys {text : Text} {payload : Json} (read : Json.read text = some payload) :
    (validKeys payload).Nodup := by
  cases payload with
  | object members =>
      have among : (validKeys (.object members)).Sublist (members.map Prod.fst) :=
        (List.filter_sublist.map Prod.fst).trans (keys_pairsOf_sublist members)
      exact among.nodup (Json.nodup_keys_of_read read)
  | _ => exact List.nodup_nil

/-! ### The categories of a payload -/

theorem map_category_wedges {α : Type} [Add α] [Mul α] [Div α] [OfNat α 0] [OfNat α 360]
    (entries : List (LossEntry α)) :
    (wedges entries).map Wedge.category = entries.map LossEntry.category := by
  have places : entries.zipIdx.map Prod.fst = entries := List.zipIdx_map_fst 0 entries
  rw [wedges_eq, List.map_map]
  conv_rhs => rw [← places, List.map_map]
  rfl

theorem map_key_of_enters {pairs : List (Text × Float)} {entries : List (LossEntry Float)}
    (entered : List.Forall₂ Enters pairs entries) :
    (entries.map LossEntry.category).map LossCategory.key =
      (pairs.map Prod.fst).map LossCategory.normalizeKey := by
  induction entered with
  | nil => rfl
  | cons enters _ ih => simp only [List.map_cons, ih, enters.category]

/-- The categories of the wedges are those that the keys spell, in the order of the keys. -/
theorem map_key_wedges_ofJson (payload : Json) :
    ((wedges (ofJson payload)).map Wedge.category).map LossCategory.key =
      (validKeys payload).map LossCategory.normalizeKey := by
  rw [map_category_wedges, ofJson_eq]
  exact map_key_of_enters (forall₂_enters (pairsOf payload))

theorem length_le_of_nodup {categories : List LossCategory} (apart : categories.Nodup) :
    categories.length ≤ 6 :=
  (List.Nodup.subperm apart fun category _ => category.mem_all).length_le

/-! ### The chart of a payload -/

/-- How many elements of a name a page has. -/
def countElements (name : String) (page : List Token) : Nat :=
  (elements page).countP (·.name = name)

/-- An entry has one wedge, and one row with one marker. -/
theorem countElements_pieces (entries : List (LossEntry Float)) :
    countElements "path" (tokens (render (pieces entries)).toList) = entries.length ∧
      countElements "circle" (tokens (render (pieces entries)).toList) = entries.length := by
  rcases eq_or_ne entries [] with rfl | several
  · exact ⟨rfl, rfl⟩
  · simp only [countElements, elements_pieces several, List.countP_append]
    simp [frameElements, pieElements, legendElements, List.countP_flatMap, List.countP_map,
      rowElements, wedgeElement, Function.comp_def]

/-- The categories of the wedges are those that the keys of the payload spell, and the page has
one wedge and one row of the legend for each key that counts. No category comes twice exactly
where no two keys are spellings of one, and there are no more than six of them then. -/
theorem categories_of_read {text : Text} {payload : Json}
    (read : Json.read text = some payload) :
    ((wedges (ofJson payload)).map Wedge.category).map LossCategory.key =
        (validKeys payload).map LossCategory.normalizeKey ∧
      (((wedges (ofJson payload)).map Wedge.category).Nodup ↔
        ∀ key ∈ validKeys payload, ∀ other ∈ validKeys payload,
          LossCategory.normalizeKey key = LossCategory.normalizeKey other → key = other) ∧
      countElements "path" (tokens (render (lossesOf payload)).toList) =
        (validKeys payload).length ∧
      countElements "circle" (tokens (render (lossesOf payload)).toList) =
        (validKeys payload).length ∧
      (((wedges (ofJson payload)).map Wedge.category).Nodup → (validKeys payload).length ≤ 6) := by
  have keys := map_key_wedges_ofJson payload
  have entered : (ofJson payload).length = (validKeys payload).length := by
    simpa [map_category_wedges] using congrArg List.length keys
  have counted := countElements_pieces (ofJson payload)
  rw [entered] at counted
  refine ⟨keys, ?_, counted.1, counted.2, fun apart => ?_⟩
  · rw [← List.nodup_map_iff LossCategory.key_injective, keys]
    constructor
    · intro apart key first other second same
      exact List.inj_on_of_nodup_map apart first second same
    · exact (nodup_validKeys read).map_on
  · have few := length_le_of_nodup apart
    rwa [map_category_wedges, List.length_map, entered] at few

/-- Two spellings of one key make two wedges of one category. -/
theorem categories_of_read_twoSpellings :
    ∃ payload, Json.read "\x7b\"murs\":30,\"MURS\":30\x7d".toList = some payload ∧
      ((wedges (ofJson payload)).map Wedge.category).map LossCategory.key =
        ["murs".toList, "murs".toList] ∧
      ¬ ((wedges (ofJson payload)).map Wedge.category).Nodup ∧
      countElements "path" (tokens (render (lossesOf payload)).toList) = 2 := by
  let members : List (Text × Json.Scalar) :=
    [("murs".toList, .natural 30), ("MURS".toList, .natural 30)]
  have written :
      "\x7b\"murs\":30,\"MURS\":30\x7d".toList = Json.writeObject members := by
    decide
  have writable : ∀ member ∈ members, Json.WritableMember member :=
    List.forall_mem_cons.mpr ⟨⟨List.all_eq_true.mp (by decide), by decide⟩,
      List.forall_mem_singleton.mpr ⟨List.all_eq_true.mp (by decide), by decide⟩⟩
  have read := Json.read_writeObject writable (by decide)
  obtain ⟨keys, apart, counted, _⟩ := categories_of_read read
  have valid : validKeys (.object (members.map Json.memberOf)) =
      ["murs".toList, "MURS".toList] := by decide
  refine ⟨_, written ▸ read, ?_, ?_, ?_⟩
  · rw [keys, valid]
    decide
  · rw [apart, valid]
    decide
  · rw [counted, valid]
    rfl

end EnergyReport.Chart.Losses
