import EnergyReport.Proofs.Chart.LossCategory
import EnergyReport.Proofs.Chart.Safety
import EnergyReport.Proofs.Document.Reading
import EnergyReport.Proofs.Html.Elements
import EnergyReport.Proofs.Number.Exact

namespace EnergyReport.Chart.Losses

open Html Number

/-! The chart of the losses is decided by the pairs that count, and shows each of them once:
as a wedge, and as a row of the legend in the same place. -/

/-! ### The pairs that count -/

/-- The key is a spelling of the key of a category, and the weight is finite and positive. -/
structure IsValid (pair : Text × Float) : Prop where
  known : ∃ category ∈ LossCategory.all, LossCategory.normalizeKey pair.1 = category.key
  finite : pair.2.isFinite
  positive : 0 < pair.2

instance (pair : Text × Float) : Decidable (IsValid pair) :=
  decidable_of_iff ((∃ category ∈ LossCategory.all,
      LossCategory.normalizeKey pair.1 = category.key) ∧ pair.2.isFinite ∧ 0 < pair.2)
    ⟨fun ⟨known, finite, positive⟩ => ⟨known, finite, positive⟩,
      fun ⟨known, finite, positive⟩ => ⟨known, finite, positive⟩⟩

/-- The entry has the category that the key of the pair spells, and its weight. -/
structure Enters (pair : Text × Float) (entry : LossEntry Float) : Prop where
  category : LossCategory.normalizeKey pair.1 = entry.category.key
  weight : entry.weight = pair.2

theorem entry?_eq_some_iff {pair : Text × Float} {entry : LossEntry Float} :
    entry? pair.1 pair.2 = some entry ↔ IsValid pair ∧ Enters pair entry := by
  constructor
  · intro entered
    unfold entry? at entered
    split at entered
    · rename_i category named
      split at entered
      · rename_i counts
        obtain ⟨finite, positive⟩ := by simpa using counts
        cases entered
        have spelled := LossCategory.ofKey?_eq_some_iff.mp named
        exact ⟨⟨⟨category, category.mem_all, spelled⟩, finite, positive⟩, spelled, rfl⟩
      · cases entered
    · cases entered
  · intro ⟨valid, enters⟩
    have named := LossCategory.ofKey?_eq_some_iff.mpr enters.category
    have whole : (⟨entry.category, pair.2⟩ : LossEntry Float) = entry := by rw [← enters.weight]
    unfold entry?
    simp [named, valid.finite, valid.positive, whole]

theorem entry?_eq_none_iff {pair : Text × Float} :
    entry? pair.1 pair.2 = none ↔ ¬ IsValid pair := by
  constructor
  · intro missing valid
    obtain ⟨category, _, spelled⟩ := valid.known
    have enters : Enters pair ⟨category, pair.2⟩ := ⟨spelled, rfl⟩
    have entered := entry?_eq_some_iff.mpr ⟨valid, enters⟩
    simp [missing] at entered
  · intro invalid
    cases entered : entry? pair.1 pair.2 with
    | none => rfl
    | some entry =>
        obtain ⟨valid, _⟩ := entry?_eq_some_iff.mp entered
        exact absurd valid invalid

/-- Each pair that counts is entered, in its place, and nothing else is. -/
theorem forall₂_enters (pairs : List (Text × Float)) :
    List.Forall₂ Enters (pairs.filter IsValid) (ofPairs pairs) := by
  induction pairs with
  | nil => exact .nil
  | cons pair rest ih =>
      rw [ofPairs] at ih ⊢
      cases entered : entry? pair.1 pair.2 with
      | none =>
          have invalid := entry?_eq_none_iff.mp entered
          simpa [List.filterMap_cons, entered, invalid] using ih
      | some entry =>
          obtain ⟨valid, enters⟩ := entry?_eq_some_iff.mp entered
          simpa [List.filterMap_cons, entered, valid] using ⟨enters, ih⟩

theorem ofPairs_filter (pairs : List (Text × Float)) :
    ofPairs (pairs.filter IsValid) = ofPairs pairs := by
  rw [ofPairs, ofPairs, List.filterMap_filter]
  apply List.filterMap_congr
  intro pair _
  by_cases valid : IsValid pair
  · simp [valid]
  · simp [valid, entry?_eq_none_iff.mpr valid]

theorem ofPairs_congr {pairs others : List (Text × Float)}
    (same : others.filter IsValid = pairs.filter IsValid) : ofPairs others = ofPairs pairs := by
  rw [← ofPairs_filter, same, ofPairs_filter]

/-! ### The places of the wedges -/

section Layout

variable {α : Type} [Add α] [Mul α] [Div α] [OfNat α 0] [OfNat α 360]

/-- The angle of an entry's wedge. -/
def sweep (total : α) (entry : LossEntry α) : α :=
  entry.weight / total * 360

/-- The angle at which the wedges of the entries end. -/
def angleAfter (total : α) (entries : List (LossEntry α)) : α :=
  entries.foldl (fun angle entry => angle + sweep total entry) 0

/-- The wedge of an entry, with the entries that come before. -/
def wedgeAt (total : α) (before : List (LossEntry α)) (entry : LossEntry α) : Wedge α :=
  ⟨entry.category, entry.weight, angleAfter total before, sweep total entry⟩

theorem wedgesFrom_angleAfter (total : α) (before entries : List (LossEntry α)) :
    wedgesFrom total (angleAfter total before) entries =
      (entries.zipIdx before.length).map fun place =>
        wedgeAt total ((before ++ entries).take place.2) place.1 := by
  induction entries generalizing before with
  | nil => rfl
  | cons entry rest ih =>
      have following : angleAfter total before + sweep total entry =
          angleAfter total (before ++ [entry]) := by
        simp [angleAfter]
      have remaining := ih (before ++ [entry])
      simp only [List.length_append, List.length_singleton, List.append_assoc,
        List.singleton_append] at remaining
      rw [wedgesFrom, List.zipIdx_cons, List.map_cons, List.take_left, ← remaining, ← following]
      rfl

/-- Each wedge begins where the ones before it end. -/
theorem wedges_eq (entries : List (LossEntry α)) :
    wedges entries = entries.zipIdx.map fun place =>
      wedgeAt (total entries) (entries.take place.2) place.1 :=
  wedgesFrom_angleAfter (total entries) [] entries

end Layout

/-! ### What the chart shows -/

/-- The height of a drawing with so many rows in its legend. -/
def drawingHeight (rows : Nat) : Nat :=
  max 210 (28 + 38 * rows + 15)

def frameElements (rows : Nat) : List Element :=
  [⟨"div", [("class", "chart-wrap")], []⟩,
    ⟨"svg", [("viewBox", s!"0 0 430 {drawingHeight rows}"), ("width", "100%"),
      ("style", "max-width:430px")], []⟩]

def wedgeElement (wedge : Wedge Float) : Element :=
  ⟨"path", [("d", outline wedge.start (wedge.start + wedge.sweep)), ("fill", wedge.category.color),
    ("stroke", "#fff"), ("stroke-width", "2")], []⟩

/-- The marker, the label and the weight in the legend, with the top of their row. -/
def rowElements (category : LossCategory) (weight : Float) (y : Nat) : List Element :=
  [⟨"circle", [("cx", "228"), ("cy", toString (y + 6)), ("r", "7"), ("fill", category.color)], []⟩,
    ⟨"text", [("x", "242"), ("y", toString (y + 10)), ("font-size", "12"), ("fill", legendInk),
      ("font-family", fontFamily)], category.label.toList⟩,
    ⟨"text", [("x", "242"), ("y", toString (y + 25)), ("font-size", "11"), ("font-weight", "600"),
      ("fill", ink), ("font-family", fontFamily)], (legendWeight weight).toList⟩]

def pieElements (entries : List (LossEntry Float)) : List Element :=
  entries.zipIdx.map fun place =>
    wedgeElement (wedgeAt (total entries) (entries.take place.2) place.1)

def legendElements (entries : List (LossEntry Float)) : List Element :=
  entries.zipIdx.flatMap fun place =>
    rowElements place.1.category place.1.weight (28 + 38 * place.2)

theorem shows_legendRow (y : Nat) (wedge : Wedge Float) :
    Shows (legendRow y wedge) (rowElements wedge.category wedge.weight y) := by
  have name : Shows (label 242 (y + 10) ⟨12, none, legendInk⟩ wedge.category.label) _ :=
    .plainElement wedge.category.plain_label
  have weight : Shows (label 242 (y + 25) ⟨11, some 600, ink⟩ (legendWeight wedge.weight)) _ :=
    .plainElement (plain_legendWeight wedge.weight)
  exact Shows.selfClosed.append (name.append weight)

theorem shows_legendFrom (total start : Float) (first : Nat) (entries : List (LossEntry Float)) :
    Shows (legendFrom (28 + 38 * first) (wedgesFrom total start entries))
      ((entries.zipIdx first).flatMap fun place =>
        rowElements place.1.category place.1.weight (28 + 38 * place.2)) := by
  induction entries generalizing first start with
  | nil => exact .nil
  | cons entry rest ih =>
      rw [wedgesFrom, List.zipIdx_cons, List.flatMap_cons]
      apply Shows.append
      · exact shows_legendRow _ _
      · exact ih _ (first + 1)

theorem shows_wedges (wedges : List (Wedge Float)) :
    Shows (wedges.map wedgePiece) (wedges.map wedgeElement) := by
  induction wedges with
  | nil => exact .nil
  | cons wedge rest ih => exact .append .selfClosed ih

/-- What a page with the chart is read as. -/
theorem elements_pieces {entries : List (LossEntry Float)} (several : entries ≠ []) :
    elements (tokens (render (pieces entries)).toList) =
      frameElements entries.length ++ (pieElements entries ++ legendElements entries) := by
  have safe : Document.AllSafe ⟨⟨0, 0, 0⟩, []⟩ (pieces entries) := safe_pieces entries
  have pie : (wedges entries).map wedgeElement = pieElements entries := by
    rw [wedges_eq, List.map_map]
    rfl
  have inside : Shows ((wedges entries).map wedgePiece ++ legendFrom legendTop (wedges entries))
      (pieElements entries ++ legendElements entries) :=
    pie ▸ (shows_wedges _).append (shows_legendFrom _ _ 0 entries)
  rw [safe.tokens_render (by simp)]
  apply Shows.elements_tokens
  obtain ⟨entry, rest, rfl⟩ := List.exists_cons_of_ne_nil several
  exact .element (.element inside)

/-- The legend shows a weight as the nearest whole number, a half going up. -/
theorem legendWeight_eq {weight : Float} {value : ℚ} (number : IsNumber weight value)
    (small : value < 2 ^ 46) : legendWeight weight = toString ⌊value + 1 / 2⌋₊ ++ "%" := by
  have few : ⌊value + 1 / 2⌋₊ < 2 ^ 46 + 1 := by
    rw [Nat.floor_lt' (by norm_num)]
    push_cast
    linarith
  rw [legendWeight, showCoordinate_of_whole number.round_floor (Nat.le_of_lt_succ few)]

/-- The legend shows the weights themselves, and not what they have of the total. -/
example : (legendElements [⟨.walls, 40⟩, ⟨.roof, 20⟩]).map Element.text =
    ["", "Murs / Façades", "40%", "", "Toiture / Combles", "20%"].map String.toList := by
  decide +kernel

/-- A marker or a line of text within a drawing. How far a line goes to the right is up to the
font, so only its beginning is told, and the room for its letters above and below it. -/
inductive LiesWithin (width height : Nat) : Element → Prop where
  | marker {attributes : List Attribute} {text : Text} (x y radius : Nat)
      (across : attributes.lookup "cx" = some (toString x))
      (down : attributes.lookup "cy" = some (toString y))
      (reach : attributes.lookup "r" = some (toString radius))
      (left : radius ≤ x) (right : x + radius ≤ width)
      (top : radius ≤ y) (bottom : y + radius ≤ height) :
      LiesWithin width height ⟨"circle", attributes, text⟩
  | line {attributes : List Attribute} {text : Text} (x y size : Nat)
      (across : attributes.lookup "x" = some (toString x))
      (down : attributes.lookup "y" = some (toString y))
      (reach : attributes.lookup "font-size" = some (toString size))
      (right : x ≤ width) (top : size ≤ y) (bottom : y + size ≤ height) :
      LiesWithin width height ⟨"text", attributes, text⟩

theorem liesWithin_rowElements (category : LossCategory) (weight : Float) {y height : Nat}
    (below : 28 ≤ y) (room : y + 36 ≤ height) {shown : Element}
    (member : shown ∈ rowElements category weight y) : LiesWithin 430 height shown := by
  simp only [rowElements, List.mem_cons, List.not_mem_nil, or_false] at member
  rcases member with rfl | rfl | rfl
  · apply LiesWithin.marker 228 (y + 6) 7 rfl rfl rfl <;> omega
  · apply LiesWithin.line 242 (y + 10) 12 rfl rfl rfl <;> omega
  · apply LiesWithin.line 242 (y + 25) 11 rfl rfl rfl <;> omega

theorem liesWithin_legendElements {entries : List (LossEntry Float)} {shown : Element}
    (member : shown ∈ legendElements entries) :
    LiesWithin 430 (drawingHeight entries.length) shown := by
  obtain ⟨place, among, inRow⟩ := List.mem_flatMap.mp member
  have inside : place.2 < entries.length := List.snd_lt_of_mem_zipIdx among
  have room : 28 + 38 * place.2 + 36 ≤ drawingHeight entries.length := by
    rw [drawingHeight]
    omega
  exact liesWithin_rowElements _ _ (by omega) room inRow

/-- The page is a drawing of the entries: each has its wedge and its row of the legend, both in
its place, and the rows fit into the drawing. -/
structure Depicts (page : List Token) (entries : List (LossEntry Float)) : Prop where
  drawing : elements page =
    frameElements entries.length ++ (pieElements entries ++ legendElements entries)
  inside : ∀ shown ∈ elements page, shown.name = "circle" ∨ shown.name = "text" →
    LiesWithin 430 (drawingHeight entries.length) shown

theorem depicts_pieces {entries : List (LossEntry Float)} (several : entries ≠ []) :
    Depicts (tokens (render (pieces entries)).toList) entries := by
  have drawing := elements_pieces several
  refine ⟨drawing, fun shown member named => ?_⟩
  rw [drawing, List.mem_append, List.mem_append] at member
  rcases member with inFrame | inPie | inLegend
  · simp only [frameElements, List.mem_cons, List.not_mem_nil, or_false] at inFrame
    rcases inFrame with rfl | rfl <;> simp at named
  · obtain ⟨place, _, rfl⟩ := List.mem_map.mp inPie
    simp [wedgeElement] at named
  · exact liesWithin_legendElements inLegend

theorem render_pieces_eq_empty_iff {entries : List (LossEntry Float)} :
    render (pieces entries) = "" ↔ entries = [] := by
  constructor
  · intro empty
    by_contra several
    have shown := elements_pieces several
    rw [empty] at shown
    cases shown
  · intro none
    rw [none]
    rfl

theorem ofPairs_eq_nil_iff {pairs : List (Text × Float)} :
    ofPairs pairs = [] ↔ ∀ pair ∈ pairs, ¬ IsValid pair := by
  simp only [ofPairs, List.filterMap_eq_nil_iff, entry?_eq_none_iff]

/-- The pairs that count are entered, each in its place, and decide the chart: other pairs
change nothing. Without any there is no chart, else the chart depicts them. What it shows of a
weight is the nearest whole number, as long as a hundred times as much is exact. -/
theorem valid_pairs_decide_chart (pairs : List (Text × Float)) :
    List.Forall₂ Enters (pairs.filter IsValid) (ofPairs pairs) ∧
      (∀ others, others.filter IsValid = pairs.filter IsValid →
        total (ofPairs others) = total (ofPairs pairs) ∧
          wedges (ofPairs others) = wedges (ofPairs pairs) ∧
          render (pieces (ofPairs others)) = render (pieces (ofPairs pairs))) ∧
      (render (pieces (ofPairs pairs)) = "" ↔ ∀ pair ∈ pairs, ¬ IsValid pair) ∧
      ((∃ pair ∈ pairs, IsValid pair) →
        Depicts (tokens (render (pieces (ofPairs pairs))).toList) (ofPairs pairs)) ∧
      ∀ pair ∈ pairs, IsValid pair → exact pair.2 < 2 ^ 46 →
        legendWeight pair.2 = toString ⌊exact pair.2 + 1 / 2⌋₊ ++ "%" := by
  refine ⟨forall₂_enters pairs, fun others same => ?_, ?_, fun ⟨pair, member, valid⟩ => ?_,
    fun pair _ valid small => ?_⟩
  · rw [ofPairs_congr same]
    exact ⟨rfl, rfl, rfl⟩
  · rw [render_pieces_eq_empty_iff, ofPairs_eq_nil_iff]
  · apply depicts_pieces
    intro nothing
    exact ofPairs_eq_nil_iff.mp nothing pair member valid
  · exact legendWeight_eq (isNumber_exact valid.finite valid.positive) small

theorem valid_pairs_decide_chart_twoOfFour :
    let two : List (Text × Float) := [("Murs".toList, 30), ("PLANCHERS".toList, 30)]
    let four := [("Murs".toList, 30), ("ventilation".toList, 50), ("toiture".toList, -5),
      ("PLANCHERS".toList, 30)]
    two.filter IsValid = four.filter IsValid ∧
      render (pieces (ofPairs two)) = render (pieces (ofPairs four)) ∧
      (∃ pair ∈ four, IsValid pair) ∧
      Depicts (tokens (render (pieces (ofPairs four))).toList) (ofPairs four) ∧
      exact 30 < 2 ^ 46 ∧ legendWeight 30 = toString ⌊exact 30 + 1 / 2⌋₊ ++ "%" := by
  intro two four
  have same : two.filter IsValid = four.filter IsValid := by decide
  have counts : ∃ pair ∈ four, IsValid pair := by decide
  have first : ("Murs".toList, (30 : Float)) ∈ four := List.mem_cons_self
  have walls : IsValid ("Murs".toList, 30) := by decide
  have value : exact 30 = (30 : ℕ) := (isNumber_ofNat (n := 30) (by norm_num)).exact_eq
  have small : exact 30 < 2 ^ 46 := by
    rw [value]
    norm_num
  obtain ⟨_, others, _, depicts, shown⟩ := valid_pairs_decide_chart four
  exact ⟨same, (others two same).2.2, counts, depicts counts, small,
    shown ("Murs".toList, 30) first walls small⟩

end EnergyReport.Chart.Losses
