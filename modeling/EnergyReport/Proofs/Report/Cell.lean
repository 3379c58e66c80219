import EnergyReport.Proofs.Report.Phrase
import EnergyReport.Proofs.Text.Search
import EnergyReport.Report.Injection
import EnergyReport.Report.Summary

namespace EnergyReport.Report

/-! The first cell in which something can be read.

A search looks at the text up to the end of what it reads, and at nothing behind it. So what is
read stays the same whatever follows: a digit or letter that goes on with it, or the next row. -/

/-- A way to find a cell: by what leads to its bar. -/
structure CellSearch where
  cell? : Text → Option Text
  Leads : Text → Prop
  cell?_eq_some_iff {text cell : Text} :
    cell? text = some cell ↔ ∃ lead, Leads lead ∧ text = lead ++ '|' :: cell
  barless {lead : Text} (leads : Leads lead) : '|' ∉ lead

/-- Whether a phrase has words, and none that is empty or has a blank or a bar. -/
def isLeading (phrase : List Text) : Bool :=
  !phrase.isEmpty && isPhrase phrase && phrase.all fun word => '|' ∉ word

theorem Spells.barless {phrase : List Text} {words : Text} (spelled : Spells phrase words)
    (legal : isLeading phrase) : '|' ∉ words := by
  intro member
  simp only [isLeading, Bool.and_eq_true, List.all_eq_true, decide_eq_true_eq] at legal
  have folded : Text.foldCase '|' = '|' := by decide
  cases spelled.mem member with
  | inl blank => contradiction
  | inr inWord =>
      obtain ⟨word, among, letter⟩ := inWord
      exact legal.2 word among (folded ▸ letter)

theorem isLeading_iff {phrase : List Text} (legal : isLeading phrase) :
    phrase ≠ [] ∧ isPhrase phrase := by
  simp only [isLeading, Bool.and_eq_true, Bool.not_eq_true', List.isEmpty_eq_false_iff] at legal
  exact legal.1

namespace CellSearch

section Behind

variable (phrase : List Text) (legal : isLeading phrase)

/-- The cell behind a bar after a phrase, with a gap of some kind between them. -/
def afterGap (bar? : Text → Option Text) (Gap : Text → Prop)
    (bar?_eq_some_iff : ∀ {text rest : Text},
      bar? text = some rest ↔ ∃ gap, Gap gap ∧ text = gap ++ '|' :: rest)
    (barless : ∀ gap, Gap gap → '|' ∉ gap) : CellSearch where
  cell? text := (afterPhrase? phrase text).bind bar?
  Leads lead := ∃ words gap, Spells phrase words ∧ Gap gap ∧ lead = words ++ gap
  cell?_eq_some_iff := by
    intro text cell
    obtain ⟨nonempty, isPhrase⟩ := isLeading_iff legal
    simp only [Option.bind_eq_some_iff, afterPhrase?_eq_some_iff nonempty isPhrase,
      bar?_eq_some_iff]
    constructor
    · intro found
      obtain ⟨_, ⟨words, spelled, rfl⟩, gap, isGap, rfl⟩ := found
      exact ⟨_, ⟨words, gap, spelled, isGap, rfl⟩, by simp⟩
    · intro found
      obtain ⟨_, ⟨words, gap, spelled, isGap, rfl⟩, rfl⟩ := found
      exact ⟨_, ⟨words, spelled, List.append_assoc _ _ _⟩, gap, isGap, rfl⟩
  barless := by
    intro lead leads
    obtain ⟨words, gap, spelled, isGap, rfl⟩ := leads
    simp [spelled.barless legal, barless gap isGap]

/-- The cell behind the next bar after a phrase. -/
def behind : CellSearch :=
  afterGap phrase legal afterBar? ('|' ∉ ·) afterBar?_eq_some_iff fun _ barless => barless

/-- The cell behind a bar directly after a phrase. -/
def directlyBehind : CellSearch :=
  afterGap phrase legal afterDirectBar? (∀ c ∈ ·, Text.isBlank c) afterDirectBar?_eq_some_iff
    fun _ blank member => absurd (blank _ member) (by decide)

end Behind

variable {α : Type}

def find? (search : CellSearch) (read : Text → Option α) (text : Text) : Option α :=
  Text.firstMatch (fun place => (search.cell? place).bind read) text

/-- The text up to the bar of the first cell in which something can be read, and that cell. -/
structure IsFirst (search : CellSearch) (read : Text → Option α) (text before cell : Text) :
    Prop where
  parts : text = before ++ '|' :: cell
  leads : ∃ above lead, before = above ++ lead ∧ search.Leads lead ∧
    ∀ front other rest, text = front ++ other ++ '|' :: rest → search.Leads other →
      front.length < above.length → read rest = none

variable {search : CellSearch} {read : Text → Option α} {text : Text} {value : α}

theorem find?_eq_some_iff :
    search.find? read text = some value ↔
      ∃ before cell, search.IsFirst read text before cell ∧ read cell = some value := by
  rw [find?, Text.firstMatch_eq_some_iff]
  constructor
  · intro found
    obtain ⟨start, within, there, first⟩ := found
    obtain ⟨cell, found, isRead⟩ := Option.bind_eq_some_iff.mp there
    obtain ⟨lead, leads, place⟩ := search.cell?_eq_some_iff.mp found
    have parts : text = text.take start ++ lead ++ '|' :: cell := by
      rw [List.append_assoc, ← place, List.take_append_drop]
    refine ⟨_, cell, ⟨parts, _, lead, rfl, leads, ?_⟩, isRead⟩
    intro front other rest same isLead earlier
    have missed := first front.length (by rw [List.length_take] at earlier; omega)
    have isCell : search.cell? (text.drop front.length) = some rest :=
      search.cell?_eq_some_iff.mpr ⟨other, isLead, by simp [same]⟩
    rwa [isCell] at missed
  · intro found
    obtain ⟨_, cell, ⟨parts, above, lead, rfl, leads, first⟩, isRead⟩ := found
    have atCell : search.cell? (text.drop above.length) = some cell :=
      search.cell?_eq_some_iff.mpr ⟨lead, leads, by simp [parts]⟩
    have within : above.length < text.length := by
      rw [parts, List.length_append, List.length_append, List.length_cons]
      omega
    refine ⟨above.length, within, by rw [atCell]; exact isRead, ?_⟩
    intro earlier before
    rw [Option.eq_none_iff_forall_ne_some]
    intro other there
    obtain ⟨rest, found, readThere⟩ := Option.bind_eq_some_iff.mp there
    obtain ⟨lead', leads', place⟩ := search.cell?_eq_some_iff.mp found
    have same : text = text.take earlier ++ lead' ++ '|' :: rest := by
      rw [List.append_assoc, ← place, List.take_append_drop]
    have length : (text.take earlier).length = earlier := List.length_take_of_le (by omega)
    have missed := first _ lead' rest same leads' (by rwa [length])
    rw [missed] at readThere
    contradiction

/-- What is read from a cell that begins with `taken`, whatever follows. -/
structure ReadsFrom (read : Text → Option α) (taken : Text) (value : α) : Prop where
  barless : '|' ∉ taken
  reads (rest : Text) : read (taken ++ rest) = some value

/-- Whether nothing is looked at behind what is read. -/
def IsLocal (read : Text → Option α) : Prop :=
  ∀ cell value, read cell = some value →
    ∃ taken rest, cell = taken ++ rest ∧ ReadsFrom read taken value

/-- No cell before the first one can be read, whatever follows what is read in that one. -/
theorem read_eq_none_of_earlier {above lead taken rest : Text} (isLocal : IsLocal read)
    (reads : ReadsFrom read taken value)
    (first : ∀ front other cell, above ++ lead ++ '|' :: (taken ++ rest) =
      front ++ other ++ '|' :: cell → search.Leads other → front.length < above.length →
        read cell = none)
    {front earlier cell following : Text}
    (same : above ++ lead ++ '|' :: (taken ++ following) = front ++ earlier ++ '|' :: cell)
    (isLead : search.Leads earlier) (shorter : front.length < above.length) :
    read cell = none := by
  by_contra readable
  obtain ⟨found, isFound⟩ := Option.ne_none_iff_exists'.mp readable
  rcases Text.append_cons_eq_append_cons same with
    ⟨sameBar, _⟩ | ⟨middle, behind, _⟩ | ⟨middle, before, parts⟩
  · have missed := first front earlier (taken ++ rest) (by rw [sameBar]) isLead shorter
    rw [reads.reads rest] at missed
    contradiction
  · -- The bar of the first cell would stand in what leads to the other.
    have inside : above <+: front ++ earlier := ⟨lead ++ '|' :: middle, by simp [behind]⟩
    obtain ⟨more, rfl⟩ := List.prefix_of_prefix_length_le (List.prefix_append front earlier)
      inside (Nat.le_of_lt shorter)
    rw [List.append_assoc, List.append_assoc, List.append_cancel_left_eq] at behind
    apply search.barless isLead
    simp [behind]
  · -- All that is read in the other cell stands before the bar of the first one.
    obtain ⟨taken', rest', split, reads'⟩ := isLocal _ _ isFound
    have within : taken' <+: middle := by
      rw [← Text.prefix_append_cons_iff reads'.barless middle (taken ++ following), ← parts, split]
      exact List.prefix_append taken' rest'
    obtain ⟨more, rfl⟩ := within
    have inText : above ++ lead ++ '|' :: (taken ++ rest) =
        front ++ earlier ++ '|' :: (taken' ++ (more ++ '|' :: (taken ++ rest))) := by
      rw [before]
      simp
    have missed := first front earlier _ inText isLead shorter
    rw [reads'.reads] at missed
    contradiction

/-- What is read does not depend on what follows it. -/
theorem IsFirst.of_append {before taken rest : Text} (isLocal : IsLocal read)
    (isFirst : search.IsFirst read text before (taken ++ rest)) (reads : ReadsFrom read taken value)
    (following : Text) :
    search.IsFirst read (before ++ '|' :: (taken ++ following)) before (taken ++ following) := by
  obtain ⟨parts, above, lead, rfl, leads, first⟩ := isFirst
  refine ⟨rfl, above, lead, rfl, leads, ?_⟩
  intro front other cell same isLead shorter
  rw [parts] at first
  exact read_eq_none_of_earlier isLocal reads first same isLead shorter

end CellSearch

end EnergyReport.Report
