import EnergyReport.Proofs.Markup.Inline
import EnergyReport.Proofs.Text.Basic
import Mathlib.Data.List.Forall2

namespace EnergyReport.Markup

/-! The words of a priority: a stem with an ending, in small letters and capitals.

Where such a word is not followed by a letter, it is the word that is found, although shorter ones
may begin at the same place. -/

def Badge.stem : Badge → Text
  | .urgent => "urgent".toList
  | .recommended => "recommand".toList
  | .optional => "optionnel".toList

/-- The endings of the forms of a word. The feminine of one of them has a plural only. -/
def Badge.endings : Badge → List Text
  | .urgent => [[], "s".toList]
  | .recommended => ["e".toList, "es".toList, "é".toList, "és".toList, "ées".toList]
  | .optional => [[], "s".toList, "le".toList, "les".toList]

def Badge.forms (badge : Badge) : List Text :=
  badge.endings.map (badge.stem ++ ·)

/-- The letters of the words. -/
def priorityLetters : Text :=
  "acdegilmnoprstué".toList

/-- The letters that the words begin with. -/
def initials : Text :=
  "uro".toList

def capital (letter : Char) : Char :=
  if letter = 'é' then 'É' else letter.toUpper

/-- Whether a word has the letters of a form, each of them small or a capital. -/
def Spells (form word : Text) : Prop :=
  List.Forall₂ (fun letter c => c = letter ∨ c = capital letter) form word

instance (form word : Text) : Decidable (Spells form word) :=
  inferInstanceAs (Decidable (List.Forall₂ _ form word))

/-- Whether a word is a form of the word of a badge. -/
def Badge.Names (badge : Badge) (word : Text) : Prop :=
  ∃ form ∈ badge.forms, Spells form word

instance (badge : Badge) (word : Text) : Decidable (badge.Names word) :=
  inferInstanceAs (Decidable (∃ form ∈ badge.forms, Spells form word))

theorem Badge.mem_all (badge : Badge) : badge ∈ Badge.all := by
  cases badge <;> decide

theorem Badge.mem_words_iff {badge : Badge} {form : Text} :
    form ∈ badge.words ↔ form ∈ badge.forms := by
  have same : ∀ badge ∈ Badge.all, (∀ form ∈ badge.words, form ∈ badge.forms) ∧
      ∀ form ∈ badge.forms, form ∈ badge.words := by
    decide
  exact ⟨(same badge badge.mem_all).1 form, (same badge badge.mem_all).2 form⟩

theorem letters_of_mem_words {badge : Badge} {form : Text} (among : form ∈ badge.words) :
    ∀ letter ∈ form, letter ∈ priorityLetters := by
  have checked : ∀ badge ∈ Badge.all, ∀ form ∈ badge.words, form.all (· ∈ priorityLetters) := by
    decide
  simpa using checked badge badge.mem_all form among

/-! ### Letters -/

theorem foldCase_letter {letter c : Char} (listed : letter ∈ priorityLetters)
    (either : c = letter ∨ c = capital letter) :
    Text.foldCase c = letter ∧ Text.isWordLetter c := by
  have checked : priorityLetters.all fun letter =>
      [letter, capital letter].all fun c => Text.foldCase c = letter ∧ Text.isWordLetter c := by
    decide +kernel
  have both := List.all_eq_true.mp (List.all_eq_true.mp checked letter listed)
  simpa using both c (by simpa using either)

/-- But for the long s, only a letter and its capital fold to the letter. -/
theorem eq_or_eq_capital_of_foldCase {c : Char} (ordinary : c ≠ '\u017F')
    (folded : Text.foldCase c ∈ priorityLetters) :
    c = Text.foldCase c ∨ c = capital (Text.foldCase c) := by
  have checked : ∀ code < 256, Text.foldCase (Char.ofNat code) ∈ priorityLetters →
      Char.ofNat code = Text.foldCase (Char.ofNat code) ∨
        Char.ofNat code = capital (Text.foldCase (Char.ofNat code)) := by
    decide +kernel
  by_cases small : c.toNat < 256
  · have here := checked c.toNat small
    rw [Char.ofNat_toNat] at here
    exact here folded
  · have others : c ≠ 'É' ∧ c ≠ 'Û' := by
      constructor <;> rintro rfl <;> exact small (by decide)
    exact .inl (Text.foldCase_eq_self (by omega) ⟨others.1, others.2, ordinary⟩).symm

section Words

variable {badge : Badge} {word : Text}

theorem map_foldCase_of_spells {form : Text} (listed : ∀ letter ∈ form, letter ∈ priorityLetters)
    (spells : Spells form word) :
    word.map Text.foldCase = form ∧ ∀ c ∈ word, Text.isWordLetter c := by
  induction spells with
  | nil => simp
  | cons either _ ih =>
      rw [List.forall_mem_cons] at listed
      obtain ⟨folded, isLetter⟩ := foldCase_letter listed.1 either
      obtain ⟨same, letters⟩ := ih listed.2
      exact ⟨by rw [List.map_cons, folded, same], List.forall_mem_cons.mpr ⟨isLetter, letters⟩⟩

theorem Badge.Names.folded (names : badge.Names word) :
    word.map Text.foldCase ∈ badge.words ∧ ∀ c ∈ word, Text.isWordLetter c := by
  obtain ⟨form, isForm, spells⟩ := names
  have among := Badge.mem_words_iff.mpr isForm
  obtain ⟨same, letters⟩ := map_foldCase_of_spells (letters_of_mem_words among) spells
  exact ⟨same ▸ among, letters⟩

theorem Badge.names_of_folded (ordinary : '\u017F' ∉ word)
    (among : word.map Text.foldCase ∈ badge.words) : badge.Names word := by
  have listed := letters_of_mem_words among
  refine ⟨_, Badge.mem_words_iff.mp among, ?_⟩
  rw [Spells, List.forall₂_map_left_iff, List.forall₂_same]
  intro c member
  refine eq_or_eq_capital_of_foldCase ?_ (listed _ (List.mem_map_of_mem member))
  rintro rfl
  exact ordinary member

theorem Badge.Names.ne_nil (names : badge.Names word) : word ≠ [] := by
  have nonempty := Inline.ne_nil_of_mem_words names.folded.1
  rintro rfl
  exact nonempty rfl

theorem Badge.Names.initial (names : badge.Names word) :
    ∃ c rest, word = c :: rest ∧ Text.foldCase c ∈ initials := by
  have checked : ∀ badge ∈ Badge.all, ∀ form ∈ badge.words, form.head?.all (· ∈ initials) := by
    decide
  obtain ⟨c, rest, rfl⟩ := List.exists_cons_of_ne_nil names.ne_nil
  exact ⟨c, rest, rfl, by simpa using checked badge badge.mem_all _ names.folded.1⟩

theorem Badge.Names.badge_eq {other : Badge} (names : badge.Names word)
    (namesOther : other.Names word) : badge = other := by
  have apart : ∀ badge ∈ Badge.all, ∀ other ∈ Badge.all, ∀ form ∈ badge.words,
      form ∈ other.words → badge = other := by
    decide
  exact apart badge badge.mem_all other other.mem_all _ names.folded.1 namesOther.folded.1

theorem eq_nil_of_letters {front middle below : Text}
    (letters : ∀ c ∈ front ++ middle, Text.isWordLetter c)
    (ends : (middle ++ below).head?.any Text.isWordLetter = false) : middle = [] := by
  cases middle with
  | nil => rfl
  | cons c more => simp [letters c (by simp)] at ends

/-- Two words that begin a text and are not followed by letters are the same. -/
theorem Badge.Names.eq_of_append_eq {other : Badge} {word' below below' : Text}
    (names : badge.Names word) (namesOther : other.Names word')
    (same : word ++ below = word' ++ below')
    (ends : below.head?.any Text.isWordLetter = false)
    (endsOther : below'.head?.any Text.isWordLetter = false) :
    word = word' ∧ below = below' := by
  -- where one of them goes on, it does so with a letter
  rcases List.append_eq_append_iff.mp same with ⟨middle, rfl, rfl⟩ | ⟨middle, rfl, rfl⟩
  · obtain rfl := eq_nil_of_letters namesOther.folded.2 ends
    simp
  · obtain rfl := eq_nil_of_letters names.folded.2 endsOther
    simp

end Words

namespace Inline

theorem findSome?_congr {α β : Type} {list : List α} {f g : α → Option β}
    (same : ∀ a ∈ list, f a = g a) : list.findSome? f = list.findSome? g := by
  induction list with
  | nil => rfl
  | cons a rest ih =>
      rw [List.forall_mem_cons] at same
      rw [List.findSome?_cons, List.findSome?_cons, same.1, ih same.2]

theorem stripWord?_of_unlettered {letter : Char} {more : Text} {after : List Atom}
    (listed : letter ∈ priorityLetters) (ends : continuesWord after.head? = false)
    (ordinary : .char '\u017F' ∉ after) : stripWord? (letter :: more) after = none := by
  cases after with
  | nil => rfl
  | cons atom rest =>
      cases atom with
      | char c =>
          have other : Text.foldCase c ≠ letter := by
            rintro rfl
            have notLong : c ≠ '\u017F' := by
              rintro rfl
              exact ordinary List.mem_cons_self
            have either := eq_or_eq_capital_of_foldCase notLong listed
            have isLetter := (foldCase_letter listed either).2
            simp [continuesWord, isLetter] at ends
          simp [stripWord?, other]
      | _ => rfl

/-- A form is found at the beginning of a word that ends there where the word begins with it. -/
theorem stripWord?_of_ended {form word : Text} {after : List Atom}
    (listed : ∀ letter ∈ form, letter ∈ priorityLetters)
    (ends : continuesWord after.head? = false) (ordinary : .char '\u017F' ∉ after) :
    stripWord? form (word.map Atom.char ++ after) =
      if form <+: word.map Text.foldCase then some ((word.drop form.length).map Atom.char ++ after)
      else none := by
  induction form generalizing word with
  | nil => simp [stripWord?]
  | cons letter more ih =>
      rw [List.forall_mem_cons] at listed
      cases word with
      | nil => simpa using stripWord?_of_unlettered listed.1 ends ordinary
      | cons c word =>
          by_cases same : Text.foldCase c = letter
          · simp [stripWord?, same, ih listed.2]
          · simp [stripWord?, same, Ne.symm same]

/-- A word that is not followed by a letter is found, with its badge. -/
theorem priority?_of_ended {badge : Badge} {word : Text} {after : List Atom}
    (names : badge.Names word) (ends : continuesWord after.head? = false)
    (ordinary : .char '\u017F' ∉ after) :
    priority? (word.map Atom.char ++ after) = some (badge, after) := by
  -- the first form that the word begins with is the word itself
  have first : ∀ badge ∈ Badge.all, ∀ form ∈ badge.words,
      (Badge.all.findSome? fun other => other.words.findSome? fun shorter =>
        if shorter <+: form then some (other, shorter.length) else none) =
      some (badge, form.length) := by
    decide +kernel
  have whole := first badge badge.mem_all _ names.folded.1
  let view (found : Badge × Nat) : Badge × List Atom :=
    (found.1, (word.drop found.2).map Atom.char ++ after)
  have found (other : Badge) :
      (other.words.findSome? fun form =>
        (stripWord? form (word.map Atom.char ++ after)).map fun rest => (other, rest)) =
      (other.words.findSome? fun form => if form <+: word.map Text.foldCase
        then some (other, form.length) else none).map view := by
    rw [List.map_findSome?]
    refine findSome?_congr fun form among => ?_
    rw [stripWord?_of_ended (letters_of_mem_words among) ends ordinary]
    simp only [Function.comp_apply]
    split <;> rfl
  calc priority? (word.map Atom.char ++ after)
      = (Badge.all.findSome? fun other => other.words.findSome? fun form =>
          if form <+: word.map Text.foldCase then some (other, form.length)
          else none).map view := by
        rw [List.map_findSome?, priority?]
        exact findSome?_congr fun other _ => found other
    _ = some (badge, after) := by simp [whole, view]

end Inline

end EnergyReport.Markup
