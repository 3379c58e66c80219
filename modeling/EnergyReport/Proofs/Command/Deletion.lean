import EnergyReport.Proofs.Command.Images

namespace EnergyReport.Command

/-! The images of a command line.

An image is asked for by an option that stands with its value, so it can be taken out of a
command line without touching the rest. -/

open Document (Image ImageError)

/-- The file of the image that an option with a value asks for. -/
def ValueOption.imagePath? (option : ValueOption) (value : Text) : Option Path :=
  match option with
  | .logo | .cover | .endPage => some value
  | .photo => (PhotoArgument.ofText? value).map (·.path)
  | _ => none

/-- The option that an argument names after two hyphens, and the value behind its equals sign. -/
def longOption? : Text → Option (ValueOption × Option Text)
  | '-' :: '-' :: body =>
      match Text.cut? ['='] body with
      | some (name, value) => (ValueOption.ofLongName? name).map fun option => (option, some value)
      | none => (ValueOption.ofLongName? body).map fun option => (option, none)
  | _ => none

/-- Words of a command line that stand together, with the file of the image that they ask for. -/
structure Given where
  words : List Text
  image : Option Path
  deriving Repr, DecidableEq

/-- A command line by what is given in it: each option with its value, and all other words by
themselves. Options of one letter ask for no images; so their values count as words. -/
def arrange : List Text → List Given
  | [] => []
  | argument :: rest =>
      if argument = ['-', '-'] then [⟨argument :: rest, none⟩]
      else
        match longOption? argument with
        | none => ⟨[argument], none⟩ :: arrange rest
        | some (option, some value) => ⟨[argument], option.imagePath? value⟩ :: arrange rest
        | some (option, none) =>
            match rest with
            | [] => [⟨[argument], none⟩]
            | value :: rest => ⟨[argument, value], option.imagePath? value⟩ :: arrange rest

def Given.isUnusable (files : Files) (given : Given) : Bool :=
  given.image.any fun path => Image.Unusable files path

/-- A command line without the images that cannot be used. -/
def withoutUnusable (files : Files) (line : List Text) : List Text :=
  ((arrange line).filter fun given => ¬ given.isUnusable files).flatMap (·.words)

theorem flatMap_words_arrange (line : List Text) : (arrange line).flatMap (·.words) = line := by
  fun_induction arrange line <;> simp_all

theorem keptWords_cons (files : Files) (given : Given) (givens : List Given) :
    ((given :: givens).filter fun given => ¬ given.isUnusable files).flatMap (·.words) =
      (if given.isUnusable files then [] else given.words) ++
        (givens.filter fun given => ¬ given.isUnusable files).flatMap (·.words) := by
  cases unusable : given.isUnusable files <;> simp [unusable]

theorem images_cons (given : Given) (givens : List Given) :
    (given :: givens).filterMap (·.image) =
      given.image.toList ++ givens.filterMap (·.image) := by
  cases isImage : given.image <;> simp [isImage]

variable {files : Files} {arguments changed final : RenderArguments} {input : Path}

namespace RenderArguments

variable (files) in
theorem setValue_plain {option : ValueOption} {value : Text}
    (plain : option.imagePath? value = .none)
    (set : arguments.setValue option value = some changed) :
    (arguments.withoutUnusable files).setValue option value =
        some (changed.withoutUnusable files) ∧
      changed.imagePaths = arguments.imagePaths := by
  cases option with
  | logo | cover | endPage => cases plain
  | photo => simp_all [ValueOption.imagePath?, setValue]
  | output | name | defaultCover | primaryColor | secondaryColor | config =>
      simp only [setValue, Option.map_eq_some_iff] at set ⊢
      obtain ⟨taken, isTaken, rfl⟩ := set
      exact ⟨⟨taken, isTaken, rfl⟩, rfl⟩

theorem oncePath_eq_some_iff {present taken : Option Path} {value : Path} :
    oncePath present value = some taken ↔ value ≠ [] ∧ present = .none ∧ some value = taken := by
  cases value <;> cases present <;> simp [oncePath, once]

variable (files) in
/-- An image that is taken in is one more; it is kept or goes by itself. -/
theorem setValue_image {option : ValueOption} {value : Text} {path : Path}
    (isImage : option.imagePath? value = some path)
    (set : arguments.setValue option value = some changed) :
    changed.imagePaths.Perm (path :: arguments.imagePaths) ∧
      (Image.Unusable files path →
        changed.withoutUnusable files = arguments.withoutUnusable files) ∧
      (¬ Image.Unusable files path →
        (arguments.withoutUnusable files).setValue option value =
          some (changed.withoutUnusable files)) := by
  cases option with
  | output | name | defaultCover | primaryColor | secondaryColor | config => cases isImage
  | logo =>
      cases isImage
      simp only [setValue, Option.map_eq_some_iff, oncePath_eq_some_iff] at set ⊢
      obtain ⟨_, ⟨nonempty, absent, rfl⟩, rfl⟩ := set
      refine ⟨by simp [imagePaths, absent], fun unusable => ?_, fun usable => ?_⟩
      · simp [withoutUnusable, absent, Option.filter, unusable]
      · simp [withoutUnusable, absent, Option.filter, usable, nonempty]
  | cover =>
      cases isImage
      simp only [setValue, Option.map_eq_some_iff, oncePath_eq_some_iff] at set ⊢
      obtain ⟨_, ⟨nonempty, absent, rfl⟩, rfl⟩ := set
      refine ⟨?_, fun unusable => ?_, fun usable => ?_⟩
      · simp [imagePaths, absent, List.append_assoc]
      · simp [withoutUnusable, absent, Option.filter, unusable]
      · simp [withoutUnusable, absent, Option.filter, usable, nonempty]
  | endPage =>
      cases isImage
      -- End pages are loaded before photos, so the new one may stand anywhere among the paths.
      simp only [setValue] at set ⊢
      split at set
      · cases set
      · next nonempty =>
        cases set
        refine ⟨?_, fun unusable => ?_, fun usable => ?_⟩
        · exact List.perm_iff_count.mpr fun _ => by simp [imagePaths, List.count_cons]; omega
        · simp [withoutUnusable, unusable]
        · simp [withoutUnusable, usable, nonempty]
  | photo =>
      simp only [ValueOption.imagePath?, setValue, Option.map_eq_some_iff] at isImage set ⊢
      obtain ⟨photo, read, rfl⟩ := isImage
      obtain ⟨_, readToo, rfl⟩ := set
      cases read.symm.trans readToo
      refine ⟨?_, fun unusable => ?_, fun usable => ?_⟩
      · exact List.perm_iff_count.mpr fun _ => by simp [imagePaths, List.count_cons]; omega
      · simp [withoutUnusable, unusable]
      · exact ⟨photo, read, by simp [withoutUnusable, usable]⟩

theorem request_eq_render_iff :
    arguments.request = .render input final ↔ arguments.input = some input ∧ arguments = final := by
  cases given : arguments.input <;> simp [request, given]

variable (files) in
theorem setInput_plain {value : Path} (set : arguments.setInput value = some changed) :
    (arguments.withoutUnusable files).setInput value = some (changed.withoutUnusable files) ∧
      changed.imagePaths = arguments.imagePaths := by
  simp only [setInput, Option.map_eq_some_iff] at set ⊢
  obtain ⟨taken, isTaken, rfl⟩ := set
  exact ⟨⟨taken, isTaken, rfl⟩, rfl⟩

variable (files) in
theorem setVerbose_plain (set : arguments.setVerbose = some changed) :
    (arguments.withoutUnusable files).setVerbose = some (changed.withoutUnusable files) ∧
      changed.imagePaths = arguments.imagePaths := by
  cases verbose : arguments.verbose <;> simp only [setVerbose, verbose] at set
  · cases set
    exact ⟨by simp [setVerbose, withoutUnusable, verbose], rfl⟩
  · cases set

end RenderArguments

/-- A step that asks for no image. Where it goes on, it goes on in the same way without the
images that cannot be used. -/
def Step.Plain (full : Step) (files : Files) (paths : List Path) (kept : Step) : Prop :=
  match full with
  | .fault | .help => True
  | .next changed => kept = .next (changed.withoutUnusable files) ∧ changed.imagePaths = paths
  | .awaiting changed option =>
      kept = .awaiting (changed.withoutUnusable files) option ∧ changed.imagePaths = paths ∧
        ∀ value, option.imagePath? value = none

theorem Step.plain_ofArguments {full kept : Option RenderArguments} {paths : List Path}
    (goesOn : ∀ changed, full = some changed →
      kept = some (changed.withoutUnusable files) ∧ changed.imagePaths = paths) :
    (ofArguments full).Plain files paths (ofArguments kept) := by
  cases full with
  | none => exact trivial
  | some changed =>
      obtain ⟨isKept, samePaths⟩ := goesOn changed rfl
      exact ⟨by rw [isKept]; rfl, samePaths⟩

theorem imagePath?_of_shortName {letter : Char} {option : ValueOption}
    (named : ValueOption.ofShortName? letter = some option) (value : Text) :
    option.imagePath? value = none := by
  have hasName := List.find?_some named
  cases option <;> simp [ValueOption.shortName?] at hasName <;> rfl

theorem readShort_plain (letters : Text) (arguments : RenderArguments) :
    (readShort arguments letters).Plain files arguments.imagePaths
      (readShort (arguments.withoutUnusable files) letters) := by
  induction letters generalizing arguments with
  | nil => exact ⟨rfl, rfl⟩
  | cons letter rest induction =>
      cases named : ValueOption.ofShortName? letter with
      | some option =>
          have plain := imagePath?_of_shortName named
          simp only [readShort, named]
          split
          · exact ⟨rfl, rfl, plain⟩
          · exact Step.plain_ofArguments fun _ => RenderArguments.setValue_plain files (plain _)
          · exact Step.plain_ofArguments fun _ => RenderArguments.setValue_plain files (plain _)
      | none =>
          simp only [readShort, named]
          by_cases isVerbose : letter = 'v'
          · simp only [isVerbose, if_true]
            cases set : arguments.setVerbose with
            | none => exact trivial
            | some changed =>
                obtain ⟨isKept, samePaths⟩ := RenderArguments.setVerbose_plain files set
                simp only [isKept, ← samePaths]
                exact induction changed
          · simp only [isVerbose, if_false]
            split <;> exact trivial

theorem readLong_plain {body : Text} (plain : longOption? ('-' :: '-' :: body) = none)
    (arguments : RenderArguments) :
    (readLong arguments body).Plain files arguments.imagePaths
      (readLong (arguments.withoutUnusable files) body) := by
  cases cut : Text.cut? ['='] body with
  | some parts =>
      simp only [longOption?, cut, Option.map_eq_none_iff] at plain
      simp only [readLong, cut, plain]
      exact trivial
  | none =>
      simp only [longOption?, cut, Option.map_eq_none_iff] at plain
      simp only [readLong, cut, plain]
      split
      · exact Step.plain_ofArguments fun _ => RenderArguments.setVerbose_plain files
      · split <;> exact trivial

variable (files) in
theorem readArgument_plain {argument : Text} (plain : longOption? argument = none)
    (arguments : RenderArguments) :
    (readArgument arguments argument).Plain files arguments.imagePaths
      (readArgument (arguments.withoutUnusable files) argument) := by
  unfold readArgument
  split
  · exact readLong_plain plain arguments
  · exact readShort_plain _ arguments
  · exact Step.plain_ofArguments fun _ => RenderArguments.setInput_plain files

theorem readArgument_of_longOption {argument : Text} {option : ValueOption} {value : Option Text}
    (long : longOption? argument = some (option, value)) (arguments : RenderArguments) :
    readArgument arguments argument =
      value.elim (.awaiting arguments option) fun value =>
        .ofArguments (arguments.setValue option value) := by
  unfold longOption? at long
  split at long
  · next body =>
      cases cut : Text.cut? ['='] body with
      | some parts =>
          simp only [cut, Option.map_eq_some_iff] at long
          obtain ⟨_, named, same⟩ := long
          cases same
          simp only [readArgument, readLong, cut, named, Option.elim]
      | none =>
          simp only [cut, Option.map_eq_some_iff] at long
          obtain ⟨_, named, same⟩ := long
          cases same
          simp only [readArgument, readLong, cut, named, Option.elim]
  · cases long

theorem readInputs_plain {line : List Text}
    (accepted : readInputs arguments line = .render input final) :
    readInputs (arguments.withoutUnusable files) line =
        .render input (final.withoutUnusable files) ∧
      final.imagePaths = arguments.imagePaths := by
  induction line generalizing arguments with
  | nil =>
      obtain ⟨given, rfl⟩ := RenderArguments.request_eq_render_iff.mp accepted
      exact ⟨RenderArguments.request_eq_render_iff.mpr ⟨given, rfl⟩, rfl⟩
  | cons argument rest induction =>
      rw [readInputs] at accepted ⊢
      cases set : arguments.setInput argument with
      | none => simp [set] at accepted
      | some changed =>
          obtain ⟨isKept, samePaths⟩ := RenderArguments.setInput_plain files set
          simp only [set] at accepted
          simp only [isKept, ← samePaths]
          exact induction accepted

theorem longOption?_of_isValue {value : Text} (isValue : looksLikeOption value = false) :
    longOption? value = none := by
  unfold longOption?
  split
  · cases isValue
  · rfl

theorem readRender_awaited (arguments : RenderArguments) (option : ValueOption) {value : Text}
    (isValue : looksLikeOption value = false) (rest : List Text) :
    readRender arguments (some option) (value :: rest) =
      (arguments.setValue option value).elim .usageError fun changed =>
        readRender changed none rest := by
  cases set : arguments.setValue option value <;> simp [readRender, isValue, set]

theorem isValue_of_accepted {option : ValueOption} {value : Text} {rest : List Text}
    (accepted : readRender arguments (some option) (value :: rest) = .render input final) :
    looksLikeOption value = false := by
  cases looks : looksLikeOption value with
  | true => simp [readRender, looks] at accepted
  | false => rfl

/-- Words that give an option its value, wherever they stand. -/
def Sets (words : List Text) (option : ValueOption) (value : Text) : Prop :=
  ∀ arguments rest, readRender arguments none (words ++ rest) =
    (arguments.setValue option value).elim .usageError fun changed => readRender changed none rest

section LongOptions

variable {argument value : Text} {option : ValueOption} (notEnd : argument ≠ ['-', '-'])

include notEnd in
theorem sets_of_attached (long : longOption? argument = some (option, some value)) :
    Sets [argument] option value := by
  intro arguments rest
  cases set : arguments.setValue option value <;>
    simp [readRender, notEnd, readArgument_of_longOption long, set, Step.ofArguments]

include notEnd in
theorem readRender_of_awaiting (long : longOption? argument = some (option, none))
    (arguments : RenderArguments) (rest : List Text) :
    readRender arguments none (argument :: rest) = readRender arguments (some option) rest := by
  simp [readRender, notEnd, readArgument_of_longOption long]

include notEnd in
theorem sets_of_separate (long : longOption? argument = some (option, none))
    (isValue : looksLikeOption value = false) : Sets [argument, value] option value := by
  intro arguments rest
  exact (readRender_of_awaiting notEnd long arguments (value :: rest)).trans
    (readRender_awaited arguments option isValue rest)

end LongOptions

/-- What the two readings of the rest of a command line come to, with all images and without
those that cannot be used. -/
def Corresponds (files : Files) (input : Path) (final arguments : RenderArguments)
    (awaited : Option ValueOption) (kept : List Text) (paths : List Path) : Prop :=
  readRender (arguments.withoutUnusable files) awaited kept =
      .render input (final.withoutUnusable files) ∧
    final.imagePaths.Perm (paths ++ arguments.imagePaths)

/-- An option with its value stays on the command line unless it asks for an image that cannot be
used. -/
theorem Sets.corresponds {words : List Text} {option : ValueOption} {value : Text}
    (sets : Sets words option value) {rest kept : List Text} {paths : List Path}
    (accepted : readRender arguments none (words ++ rest) = .render input final)
    (onRest : ∀ {changed}, readRender changed none rest = .render input final →
      Corresponds files input final changed none kept paths) :
    Corresponds files input final arguments none
      ((if Given.isUnusable files ⟨words, option.imagePath? value⟩ then [] else words) ++ kept)
      ((option.imagePath? value).toList ++ paths) := by
  rw [sets] at accepted
  cases set : arguments.setValue option value with
  | none => simp [set] at accepted
  | some changed =>
      rw [set] at accepted
      obtain ⟨isKept, permuted⟩ := onRest accepted
      cases isImage : option.imagePath? value with
      | none =>
          obtain ⟨setKept, samePaths⟩ := RenderArguments.setValue_plain files isImage set
          refine ⟨?_, samePaths ▸ permuted⟩
          simpa [Given.isUnusable, sets _ kept, setKept] using isKept
      | some path =>
          obtain ⟨oneMore, isDropped, staysIn⟩ :=
            RenderArguments.setValue_image files isImage set
          refine ⟨?_, ?_⟩
          · by_cases unusable : Image.Unusable files path
            · simpa [Given.isUnusable, unusable, isDropped unusable] using isKept
            · simpa [Given.isUnusable, unusable, sets _ kept, staysIn unusable] using isKept
          · exact permuted.trans ((oneMore.append_left paths).trans List.perm_middle)

theorem corresponds_of_plain {argument : Text} (notEnd : argument ≠ ['-', '-'])
    (long : longOption? argument = none) {rest kept : List Text} {paths : List Path}
    (accepted : readRender arguments none (argument :: rest) = .render input final)
    (onRest : ∀ {changed awaited}, (∀ option ∈ awaited, ∀ value, option.imagePath? value = none) →
      readRender changed awaited rest = .render input final →
      Corresponds files input final changed awaited kept paths) :
    Corresponds files input final arguments none (argument :: kept) paths := by
  have plain := readArgument_plain files long arguments
  simp only [readRender, notEnd, if_false] at accepted
  simp only [Corresponds, readRender, notEnd, if_false]
  cases step : readArgument arguments argument with
  | fault => simp [step] at accepted
  | help => simp [step] at accepted
  | next changed =>
      rw [step] at accepted plain
      obtain ⟨isKept, samePaths⟩ := plain
      rw [isKept, ← samePaths]
      exact onRest (by simp) accepted
  | awaiting changed option =>
      rw [step] at accepted plain
      obtain ⟨isKept, samePaths, noImage⟩ := plain
      rw [isKept, ← samePaths]
      exact onRest (by simpa using noImage) accepted

theorem corresponds_of_value {option : ValueOption} {value : Text}
    (noImage : option.imagePath? value = none) {rest kept : List Text} {paths : List Path}
    (accepted : readRender arguments (some option) (value :: rest) = .render input final)
    (onRest : ∀ {changed}, readRender changed none rest = .render input final →
      Corresponds files input final changed none kept paths) :
    Corresponds files input final arguments (some option) (value :: kept) paths := by
  have isValue := isValue_of_accepted accepted
  rw [readRender_awaited _ _ isValue] at accepted
  cases set : arguments.setValue option value with
  | none => simp [set] at accepted
  | some changed =>
      rw [set] at accepted
      obtain ⟨setKept, samePaths⟩ := RenderArguments.setValue_plain files noImage set
      obtain ⟨isKept, permuted⟩ := onRest accepted
      refine ⟨?_, samePaths ▸ permuted⟩
      simpa [readRender_awaited _ _ isValue, setKept] using isKept

variable (files) in
/-- The command line without the images that cannot be used asks for the same report without
them; and all images are on the command line. -/
theorem readRender_withoutUnusable {line : List Text} {awaited : Option ValueOption}
    (plain : ∀ option ∈ awaited, ∀ value, option.imagePath? value = none)
    (accepted : readRender arguments awaited line = .render input final) :
    Corresponds files input final arguments awaited (withoutUnusable files line)
      ((arrange line).filterMap (·.image)) := by
  unfold withoutUnusable
  -- An awaited value looks like no option, so it is a word by itself.
  fun_induction arrange line generalizing arguments awaited with
  | case1 =>
      cases awaited with
      | some option => simp [readRender] at accepted
      | none =>
          obtain ⟨given, rfl⟩ := RenderArguments.request_eq_render_iff.mp accepted
          exact ⟨RenderArguments.request_eq_render_iff.mpr ⟨given, rfl⟩, .refl _⟩
  | case2 rest =>
      cases awaited with
      | some option => cases isValue_of_accepted accepted
      | none =>
          simp only [readRender, if_true] at accepted
          obtain ⟨isKept, samePaths⟩ := readInputs_plain accepted
          refine ⟨?_, by simp [samePaths]⟩
          simpa [Given.isUnusable, readRender] using isKept
  | case3 argument rest notEnd long induction =>
      rw [keptWords_cons, images_cons]
      cases awaited with
      | none => exact corresponds_of_plain notEnd long accepted induction
      | some option =>
          exact corresponds_of_value (plain option rfl argument) accepted
            fun {changed} => @induction changed none (by simp)
  | case4 argument rest notEnd option value long induction =>
      rw [keptWords_cons, images_cons]
      cases awaited with
      | none => exact (sets_of_attached notEnd long).corresponds accepted (induction (by simp))
      | some _ =>
          cases (longOption?_of_isValue (isValue_of_accepted accepted)).symm.trans long
  | case5 argument notEnd option long =>
      cases awaited with
      | none =>
          rw [readRender_of_awaiting notEnd long] at accepted
          simp [readRender] at accepted
      | some _ =>
          cases (longOption?_of_isValue (isValue_of_accepted accepted)).symm.trans long
  | case6 argument notEnd option long value rest induction =>
      rw [keptWords_cons, images_cons]
      cases awaited with
      | none =>
          have isValue := isValue_of_accepted
            ((readRender_of_awaiting notEnd long arguments (value :: rest)).symm.trans accepted)
          exact (sets_of_separate notEnd long isValue).corresponds accepted (induction (by simp))
      | some _ =>
          cases (longOption?_of_isValue (isValue_of_accepted accepted)).symm.trans long

theorem readArguments_render (line : List Text) :
    readArguments ("render".toList :: line) = readRender .none none line := by
  unfold readArguments
  exact if_pos rfl

/-- Why something that is given is an image that cannot be used, if so. -/
def Given.fault? (files : Files) (given : Given) : Option ImageError :=
  given.image.bind (Image.fault? files)

theorem Given.isUnusable_eq (files : Files) (given : Given) :
    given.isUnusable files = (given.fault? files).isSome := by
  cases isImage : given.image with
  | none => simp [isUnusable, fault?, isImage]
  | some path => simp [isUnusable, fault?, isImage, ← Image.isSome_fault?_iff]

theorem Given.load_of_fault? {given : Given} {error : ImageError}
    (faulty : given.fault? files = some error) :
    ∃ path, given.image = some path ∧ Image.load files path = .error error := by
  obtain ⟨path, isImage, fault⟩ := Option.bind_eq_some_iff.mp faulty
  refine ⟨path, isImage, ?_⟩
  cases loaded : Image.load files path <;> simp_all [Image.fault?]

theorem forall₂_faults (files : Files) (givens : List Given) :
    List.Forall₂
      (fun given error => ∃ path, given.image = some path ∧ Image.load files path = .error error)
      (givens.filter (·.isUnusable files)) (givens.filterMap (·.fault? files)) := by
  induction givens with
  | nil => exact .nil
  | cons given rest induction =>
      have unusable := given.isUnusable_eq files
      cases faulty : given.fault? files with
      | none => simpa [unusable, faulty] using induction
      | some error =>
          simpa [unusable, faulty] using ⟨Given.load_of_fault? faulty, induction⟩

/-- The images that cannot be used may be deleted from a command line. The report is the same
then, and so is the way in which the command ends; what is no longer told, if the settings can be
loaded at all, is one warning for each deleted image. A default cover that cannot be used is as
good as none. -/
theorem run_withoutUnusable (world : World) {line : List Text} {input : Path}
    {arguments : RenderArguments}
    (accepted : readArguments ("render".toList :: line) = .render input arguments) :
    let files := world.files
    let full := run world ("render".toList :: line)
    let kept := run world ("render".toList :: withoutUnusable files line)
    let settings := Config.load files world.workingDirectory world.environment
      arguments.config (some (overrides world arguments))
    let faults := arguments.imagePaths.filterMap (Image.fault? files)
    ((arrange line).flatMap (·.words) = line ∧
        readArguments ("render".toList :: withoutUnusable files line) =
          .render input (arguments.withoutUnusable files)) ∧
      (kept.code = full.code ∧ kept.stdout = full.stdout ∧ kept.written = full.written) ∧
      (∀ error, settings = .error error → kept.messages = full.messages) ∧
      (∀ loaded, settings = .ok loaded → ∃ before after,
        full.messages = before ++ faults.map warning ++ after ∧
          kept.messages = before ++ after) ∧
      (∃ errors, faults.Perm errors ∧
        List.Forall₂
          (fun given error =>
            ∃ path, given.image = some path ∧ Image.load files path = .error error)
          ((arrange line).filter (·.isUnusable files)) errors) ∧
      ∀ (pipeline : Document.Pipeline) (document : ByteArray) (options : Document.Options)
          (path : Path),
        options.defaultCover = some path → Image.Unusable files path →
          pipeline.run files document options =
            pipeline.run files document { options with defaultCover := none } := by
  intro files full kept settings faults
  have isRender := (readArguments_render line).symm.trans accepted
  obtain ⟨keptAccepted, permuted⟩ := readRender_withoutUnusable files (by simp) isRender
  have keptAccepted : readArguments ("render".toList :: withoutUnusable files line) =
      .render input (arguments.withoutUnusable files) :=
    (readArguments_render _).trans keptAccepted
  have fullRun : full = render world input arguments := by
    simp only [full, run, accepted, Request.run]
  have keptRun : kept = render world input (arguments.withoutUnusable files) := by
    simp only [kept, run, keptAccepted, Request.run]
  obtain ⟨sameCode, sameStdout, sameWritten, onError, onSettings⟩ :=
    render_withoutUnusable world input arguments
  rw [fullRun, keptRun]
  refine ⟨⟨flatMap_words_arrange line, keptAccepted⟩, ⟨sameCode, sameStdout, sameWritten⟩, onError,
    fun loaded isLoaded => ?_, ⟨(arrange line).filterMap (·.fault? files), ?_,
      forall₂_faults files (arrange line)⟩,
    fun pipeline document options path isDefault unusable =>
      Document.Pipeline.run_unusableCover isDefault unusable pipeline document⟩
  · obtain ⟨before, after, keptMessages, fullMessages⟩ := onSettings loaded isLoaded
    exact ⟨before, after, fullMessages, keptMessages⟩
  · have noImages : RenderArguments.none.imagePaths = [] := rfl
    rw [noImages, List.append_nil] at permuted
    exact (permuted.filterMap (Image.fault? files)).trans (.of_eq List.filterMap_filterMap)

/-- Surroundings with a report and one image. -/
def galleryWorld : World :=
  ⟨(FileTree.directory [("w".toList, .directory
      [("in.txt".toList, .file "Bonjour\n".toUTF8), ("good.png".toList, .file "png".toUTF8),
        ("notes.txt".toList, .file "notes".toUTF8)])]).files "/w".toList,
    "/w".toList, fun _ => none, ⟨2026, .october, 17⟩⟩

theorem run_withoutUnusable_gallery :
    let line := ["--photo", "missing.png=Vue", "--photo=good.png=Sud", "--logo", "notes.txt",
      "in.txt", "--end-page", "good.png"].map String.toList
    let kept := ["--photo=good.png=Sud", "in.txt", "--end-page", "good.png"].map String.toList
    let full := run galleryWorld ("render".toList :: line)
    let thinned := run galleryWorld ("render".toList :: kept)
    thinned.code = full.code ∧ thinned.stdout = full.stdout ∧ thinned.written = full.written ∧
      ∃ before after, thinned.messages = before ++ after ∧
        full.messages = before ++
          ["Skipping image: notes.txt is not an image (text/plain)",
            "Skipping image: Failed to read missing.png: No such file or directory (os error 2)"] ++
          after := by
  intro line kept full thinned
  let arguments : RenderArguments := { RenderArguments.none with
    input := some "in.txt".toList, logo := some "notes.txt".toList
    endPages := ["good.png".toList]
    photos := [⟨"missing.png".toList, some "Vue".toList⟩, ⟨"good.png".toList, some "Sud".toList⟩] }
  have accepted : readArguments ("render".toList :: line) = .render "in.txt".toList arguments := by
    decide
  have loaded : Config.load galleryWorld.files galleryWorld.workingDirectory
      galleryWorld.environment arguments.config (some (overrides galleryWorld arguments)) =
        .ok (Config.Settings.standard "/w".toList) := by
    decide
  have isKept : withoutUnusable galleryWorld.files line = kept := by decide +kernel
  have faults : (arguments.imagePaths.filterMap (Image.fault? galleryWorld.files)).map warning =
      ["Skipping image: notes.txt is not an image (text/plain)",
        "Skipping image: Failed to read missing.png: No such file or directory (os error 2)"] := by
    decide +kernel
  obtain ⟨_, ⟨sameCode, sameStdout, sameWritten⟩, _, onSettings, _⟩ :=
    run_withoutUnusable galleryWorld accepted
  rw [isKept] at sameCode sameStdout sameWritten onSettings
  obtain ⟨before, after, fullMessages, keptMessages⟩ := onSettings _ loaded
  exact ⟨sameCode, sameStdout, sameWritten, before, after, keptMessages,
    fullMessages.trans (by rw [faults])⟩

end EnergyReport.Command
