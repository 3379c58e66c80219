import EnergyReport.Config.Settings
import EnergyReport.Proofs.Files.Path

namespace EnergyReport.Config

/-! Which settings are in force, and which fault is told where there are none.

There are four layers: the command line, the settings file, references to the environment in
that file, and the built-in values. The first fault counts: that of the file, even where the
command line replaces the field at fault, and then that of the result. -/

variable {files : Files} {environment : Text → Option Text}

/-! ### The file -/

/-- The usual file of the nearest directory that has one, from a directory upward. -/
inductive Nearest (files : Files) : Path → Option Path → Prop where
  | here {directory : Path} (present : files.exists? (Path.join directory fileName)) :
      Nearest files directory (some (Path.join directory fileName))
  | above {directory parent : Path} {found : Option Path}
      (absent : files.exists? (Path.join directory fileName) = false)
      (up : Path.parent? directory = some parent) (further : Nearest files parent found) :
      Nearest files directory found
  | nowhere {directory : Path} (absent : files.exists? (Path.join directory fileName) = false)
      (top : Path.parent? directory = none) : Nearest files directory none

/-- The settings file that is used: the one that is named, or the nearest. -/
inductive Uses (files : Files) (workingDirectory : Path) : Option Path → Option Path → Prop where
  | named {path : Path} (present : files.exists? path) :
      Uses files workingDirectory (some path) (some path)
  | nearest {found : Option Path} (nearest : Nearest files workingDirectory found) :
      Uses files workingDirectory none found

/-! ### What a file tells -/

/-- A document gives these texts for the fields, with references in them; a field that it leaves
out has none. -/
def Tells (content : String) (text? : Field → Option Text) : Prop :=
  ∃ members, Toml.read content.toList = some members ∧
    groupFields? ["primary_color".toList, "secondary_color".toList]
      (Toml.member? "theme".toList members) = some [text? .primaryColor, text? .secondaryColor] ∧
    groupFields? ["default_cover".toList] (Toml.member? "assets".toList members) =
      some [text? .defaultCover]

def Field.standard : Field → Text
  | .primaryColor => standardPrimary
  | .secondaryColor => standardSecondary
  | .defaultCover => standardCover

/-- The value of a field: what is written for it, with its references replaced, or the built-in
value. -/
inductive Takes (environment : Text → Option Text) (field : Field) :
    Option Text → Text → Prop where
  | written {text value : Text} (expanded : expand environment text = .ok value) :
      Takes environment field (some text) value
  | standard : Takes environment field none field.standard

def Settings.value (settings : Settings) : Field → Text
  | .primaryColor => settings.primaryColor
  | .secondaryColor => settings.secondaryColor
  | .defaultCover => settings.defaultCover

/-- The fields in the order in which their references are replaced. -/
def Field.all : List Field := [.primaryColor, .secondaryColor, .defaultCover]

/-- The fields in the order in which their colors are checked. -/
def Field.colors : List Field := [.primaryColor, .secondaryColor]

def Settings.Valid (settings : Settings) : Prop :=
  ∀ field ∈ Field.colors, ∃ color, Rgb.parse (settings.value field) = .ok color

/-- The first complaint about the colors of settings. -/
inductive Rejects (settings : Settings) : LoadError → Prop where
  | invalidColor (earlier : List Field) {later : List Field} {field : Field}
      {error : InvalidColor} (order : Field.colors = earlier ++ field :: later)
      (before : ∀ other ∈ earlier, ∃ color, Rgb.parse (settings.value other) = .ok color)
      (bad : Rgb.parse (settings.value field) = .error error) :
      Rejects settings (.invalidColor field error)

/-- The settings of a file before they are checked. Its cover is seen from its directory. -/
inductive Gives (files : Files) (environment : Text → Option Text) (path : Path) :
    Settings → Prop where
  | gives {content : String} {text? : Field → Option Text} (value : Field → Text)
      (read : files.readText path = .ok content) (tells : Tells content text?)
      (takes : ∀ field, Takes environment field (text? field) (value field)) :
      Gives files environment path
        ⟨value .primaryColor, value .secondaryColor,
          Path.join ((Path.parent? path).getD ['.']) (value .defaultCover), some path⟩

/-- The first fault of a file. -/
inductive Faulty (files : Files) (environment : Text → Option Text) (path : Path) :
    LoadError → Prop where
  | unreadable {reason : FileError} (unread : files.readText path = .error reason) :
      Faulty files environment path (.unreadable reason)
  | malformed {content : String} (read : files.readText path = .ok content)
      (foreign : ∀ text?, ¬ Tells content text?) : Faulty files environment path .malformed
  | unset {content : String} {text? : Field → Option Text} (earlier : List Field)
      {later : List Field} {field : Field} {text name : Text}
      (read : files.readText path = .ok content) (tells : Tells content text?)
      (order : Field.all = earlier ++ field :: later)
      (before : ∀ other ∈ earlier, ∃ value, Takes environment other (text? other) value)
      (written : text? field = some text) (unset : expand environment text = .error name) :
      Faulty files environment path (.unset field name)
  | rejected {settings : Settings} {error : LoadError}
      (gives : Gives files environment path settings) (rejects : Rejects settings error) :
      Faulty files environment path error

/-! ### The layers together -/

/-- The settings below those of the command line, or the fault that there is. -/
inductive Base (files : Files) (workingDirectory : Path) (environment : Text → Option Text)
    (named : Option Path) : Except LoadError Settings → Prop where
  | notFound {path : Path} (isNamed : named = some path) (absent : files.exists? path = false) :
      Base files workingDirectory environment named (.error (.notFound path))
  | faulty {path : Path} {error : LoadError} (used : Uses files workingDirectory named (some path))
      (faulty : Faulty files environment path error) :
      Base files workingDirectory environment named (.error error)
  | file {path : Path} {settings : Settings} (used : Uses files workingDirectory named (some path))
      (gives : Gives files environment path settings) (valid : settings.Valid) :
      Base files workingDirectory environment named (.ok settings)
  | standard (used : Uses files workingDirectory named none) :
      Base files workingDirectory environment named
        (.ok ⟨standardPrimary, standardSecondary, Path.join workingDirectory standardCover, none⟩)

/-- The settings with those of the command line in the place of theirs. -/
def inForce (overrides : Option Overrides) (settings : Settings) : Settings where
  primaryColor := (overrides.bind (·.primaryColor)).getD settings.primaryColor
  secondaryColor := (overrides.bind (·.secondaryColor)).getD settings.secondaryColor
  defaultCover := (overrides.bind (·.defaultCover)).getD settings.defaultCover
  source := settings.source

inductive Loads (files : Files) (workingDirectory : Path) (environment : Text → Option Text)
    (named : Option Path) (overrides : Option Overrides) : Except LoadError Settings → Prop where
  | faulty {error : LoadError}
      (base : Base files workingDirectory environment named (.error error)) :
      Loads files workingDirectory environment named overrides (.error error)
  | rejected {settings : Settings} {error : LoadError}
      (base : Base files workingDirectory environment named (.ok settings))
      (rejects : Rejects (inForce overrides settings) error) :
      Loads files workingDirectory environment named overrides (.error error)
  | loaded {settings : Settings}
      (base : Base files workingDirectory environment named (.ok settings))
      (valid : (inForce overrides settings).Valid) :
      Loads files workingDirectory environment named overrides (.ok (inForce overrides settings))

/-! ### The nearest file -/

theorem find?_ancestorsFrom {fuel : Nat} {directory : Path} (enough : directory.length ≤ fuel) :
    Nearest files directory
      (((Path.ancestorsFrom fuel directory).map fun above => Path.join above fileName).find?
        files.exists?) := by
  induction fuel generalizing directory with
  | zero =>
      have root : directory = [] := List.eq_nil_of_length_eq_zero (by omega)
      subst root
      cases present : files.exists? (Path.join [] fileName) with
      | true => simpa [Path.ancestorsFrom, present] using Nearest.here present
      | false => simpa [Path.ancestorsFrom, present] using Nearest.nowhere present rfl
  | succ fuel ih =>
      cases present : files.exists? (Path.join directory fileName) with
      | true =>
          have here := Nearest.here present
          cases up : Path.parent? directory <;> simpa [Path.ancestorsFrom, up, present] using here
      | false =>
          cases up : Path.parent? directory with
          | none => simpa [Path.ancestorsFrom, up, present] using Nearest.nowhere present up
          | some parent =>
              have shorter := Path.length_lt_of_parent up
              have inReach : parent.length ≤ fuel := by omega
              have further := ih inReach
              simpa [Path.ancestorsFrom, up, present] using Nearest.above present up further

theorem nearest_discover (files : Files) (workingDirectory : Path) :
    Nearest files workingDirectory (discover files workingDirectory) :=
  find?_ancestorsFrom (Nat.le_refl _)

theorem Nearest.eq {directory : Path} {first second : Option Path}
    (one : Nearest files directory first) (other : Nearest files directory second) :
    first = second := by
  induction one with
  | here present =>
      cases other with
      | here => rfl
      | above absent => simp [present] at absent
      | nowhere absent => simp [present] at absent
  | above absent up further ih =>
      cases other with
      | here present => simp [present] at absent
      | above _ up' further' =>
          rw [up] at up'
          cases up'
          exact ih further'
      | nowhere _ top => simp [up] at top
  | nowhere absent top =>
      cases other with
      | here present => simp [present] at absent
      | above _ up => simp [top] at up
      | nowhere => rfl

/-! ### The colors -/

theorem validate_eq_ok_iff {settings : Settings} :
    settings.validate = .ok () ↔ settings.Valid := by
  simp only [Settings.Valid, Field.colors, List.forall_mem_cons, Settings.value]
  cases primary : Rgb.parse settings.primaryColor <;>
    cases secondary : Rgb.parse settings.secondaryColor <;>
      simp [Settings.validate, primary, secondary, bind, Except.bind, pure, Except.pure]

theorem validate_of_rejects {settings : Settings} {error : LoadError}
    (rejects : Rejects settings error) : settings.validate = .error error := by
  obtain ⟨earlier, order, before, bad⟩ := rejects
  simp only [Field.colors, List.cons_eq_append_iff, List.nil_eq, List.append_eq_nil_iff,
    List.cons.injEq, reduceCtorEq, and_false, exists_const, or_false] at order
  rcases order with ⟨rfl, rfl, _⟩ | ⟨_, rfl, ⟨rfl, rfl, _⟩⟩
  · simp only [Settings.value] at bad
    simp [Settings.validate, bad, bind, Except.bind]
  · obtain ⟨color, good⟩ := before .primaryColor (by simp)
    simp only [Settings.value] at bad good
    simp [Settings.validate, bad, good]

theorem rejects_of_validate {settings : Settings} {error : LoadError}
    (complaint : settings.validate = .error error) : Rejects settings error := by
  cases primary : Rgb.parse settings.primaryColor with
  | error bad =>
      simp only [Settings.validate, primary, bind, Except.bind, Except.error.injEq] at complaint
      subst complaint
      exact .invalidColor [] rfl (by simp) primary
  | ok color =>
      cases secondary : Rgb.parse settings.secondaryColor with
      | error bad =>
          simp only [Settings.validate, primary, secondary, Except.error.injEq] at complaint
          subst complaint
          exact .invalidColor [.primaryColor] rfl (by simp [Settings.value, primary]) secondary
      | ok other =>
          simp [Settings.validate, primary, secondary, pure, Except.pure] at complaint

/-! ### What is loaded from a file -/

section File

variable {path : Path} {content : String} {text? : Field → Option Text}

/-- The built-in values have no references. -/
theorem expand_standard (field : Field) :
    expand environment field.standard = .ok field.standard := by
  cases field <;> rfl

theorem expandField_eq_ok_iff {field : Field} {written : Option Text} {value : Text} :
    expandField environment field (written.getD field.standard) = .ok value ↔
      Takes environment field written value := by
  cases written with
  | none =>
      simp only [expandField, Option.getD_none, expand_standard, Except.ok.injEq]
      exact ⟨fun same => same ▸ .standard, fun takes => by cases takes; rfl⟩
  | some text =>
      simp only [expandField, Option.getD_some]
      cases expanded : expand environment text with
      | ok other =>
          simp only [Except.ok.injEq]
          refine ⟨fun same => same ▸ .written expanded, fun takes => ?_⟩
          cases takes with
          | written found => simpa [expanded] using found
      | error name =>
          simp only [reduceCtorEq, false_iff]
          intro takes
          cases takes with
          | written found => simp [expanded] at found

theorem expandField_eq_error_iff {field : Field} {written : Option Text} {error : LoadError} :
    expandField environment field (written.getD field.standard) = .error error ↔
      ∃ text name, written = some text ∧ expand environment text = .error name ∧
        error = .unset field name := by
  cases written with
  | none => simp [expandField, expand_standard]
  | some text => cases expanded : expand environment text <;> simp [expandField, expanded, eq_comm]

theorem load_of_tells (read : files.readText path = .ok content) (tells : Tells content text?) :
    FileSettings.load files path = .ok ⟨(text? .primaryColor).getD standardPrimary,
      (text? .secondaryColor).getD standardSecondary, text? .defaultCover⟩ := by
  obtain ⟨members, document, theme, assets⟩ := tells
  simp only [FileSettings.load, read, document, Option.bind_some, FileSettings.ofMembers?, theme,
    assets]
  rfl

theorem load_of_foreign (read : files.readText path = .ok content)
    (foreign : ∀ text?, ¬ Tells content text?) :
    FileSettings.load files path = .error .malformed := by
  cases document : Toml.read content.toList with
  | none => simp [FileSettings.load, read, document]
  | some members =>
      cases made : FileSettings.ofMembers? members with
      | none => simp [FileSettings.load, read, document, made]
      | some written =>
          simp only [FileSettings.ofMembers?, Option.bind_eq_bind, Option.bind_eq_some_iff] at made
          obtain ⟨theme, isTheme, assets, isAssets, made⟩ := made
          split at made
          · rename_i primary secondary cover
            exact absurd ⟨members, document, isTheme, isAssets⟩ (foreign fun
              | .primaryColor => primary
              | .secondaryColor => secondary
              | .defaultCover => cover)
          · contradiction

/-- The value of a field, or the reason that there is none. -/
def attempt (environment : Text → Option Text) (text? : Field → Option Text) (field : Field) :
    Except LoadError Text :=
  expandField environment field ((text? field).getD field.standard)

theorem loadFile_of_tells (read : files.readText path = .ok content) (tells : Tells content text?) :
    loadFile files environment path = do
      let primary ← attempt environment text? .primaryColor
      let secondary ← attempt environment text? .secondaryColor
      let cover ← attempt environment text? .defaultCover
      let settings : Settings := ⟨primary, secondary,
        Path.join ((Path.parent? path).getD ['.']) cover, some path⟩
      settings.validate
      return settings := by
  simp only [loadFile, load_of_tells read tells]
  cases cover : text? .defaultCover <;>
    · simp only [attempt, cover]
      rfl

theorem loadFile_of_gives {settings : Settings} (gives : Gives files environment path settings) :
    loadFile files environment path = do settings.validate; return settings := by
  obtain ⟨value, read, tells, takes⟩ := gives
  have values (field : Field) := expandField_eq_ok_iff.mpr (takes field)
  simp only [loadFile_of_tells read tells, attempt, values]
  rfl

theorem loadFile_of_faulty {error : LoadError} (faulty : Faulty files environment path error) :
    loadFile files environment path = .error error := by
  cases faulty with
  | unreadable unread => simp [loadFile, FileSettings.load, unread, bind, Except.bind]
  | malformed read foreign => simp [loadFile, load_of_foreign read foreign, bind, Except.bind]
  | @unset content text? earlier _ field text name read tells order before written unset =>
      have values : ∀ other ∈ earlier, ∃ value, attempt environment text? other = .ok value := by
        intro other member
        obtain ⟨value, takes⟩ := before other member
        exact ⟨value, expandField_eq_ok_iff.mpr takes⟩
      have failed : attempt environment text? field = .error (.unset field name) :=
        expandField_eq_error_iff.mpr ⟨text, name, written, unset, rfl⟩
      rw [loadFile_of_tells read tells]
      simp only [Field.all, List.cons_eq_append_iff, List.nil_eq, List.append_eq_nil_iff,
        List.cons.injEq, reduceCtorEq, and_false, exists_const, or_false] at order
      rcases order with ⟨rfl, rfl, _⟩ | ⟨_, rfl, ⟨rfl, rfl, _⟩ | ⟨_, rfl, rfl, rfl, _⟩⟩
      · rw [failed]
        rfl
      · obtain ⟨primary, isPrimary⟩ := values .primaryColor (by simp)
        rw [isPrimary, failed]
        rfl
      · obtain ⟨primary, isPrimary⟩ := values .primaryColor (by simp)
        obtain ⟨secondary, isSecondary⟩ := values .secondaryColor (by simp)
        rw [isPrimary, isSecondary, failed]
        rfl
  | rejected gives rejects =>
      rw [loadFile_of_gives gives, validate_of_rejects rejects]
      rfl

theorem Faulty.of_attempt (earlier : List Field) {later : List Field} {field : Field}
    {error : LoadError}
    (read : files.readText path = .ok content) (tells : Tells content text?)
    (order : Field.all = earlier ++ field :: later)
    (before : ∀ other ∈ earlier, ∃ value, attempt environment text? other = .ok value)
    (failed : attempt environment text? field = .error error) :
    Faulty files environment path error := by
  obtain ⟨text, name, written, unset, rfl⟩ := expandField_eq_error_iff.mp failed
  refine .unset earlier read tells order (fun other member => ?_) written unset
  obtain ⟨value, isValue⟩ := before other member
  exact ⟨value, expandField_eq_ok_iff.mp isValue⟩

/-- A file is loaded, or it has a fault. -/
theorem loadFile_cases (files : Files) (environment : Text → Option Text) (path : Path) :
    (∃ error, Faulty files environment path error) ∨
      ∃ settings, Gives files environment path settings ∧ settings.Valid := by
  cases read : files.readText path with
  | error reason => exact .inl ⟨_, .unreadable read⟩
  | ok content =>
      by_cases foreign : ∀ text?, ¬ Tells content text?
      · exact .inl ⟨_, .malformed read foreign⟩
      simp only [not_forall, not_not] at foreign
      obtain ⟨text?, tells⟩ := foreign
      cases primary : attempt environment text? .primaryColor with
      | error reason => exact .inl ⟨_, .of_attempt [] read tells rfl (by simp) primary⟩
      | ok primaryColor =>
          cases secondary : attempt environment text? .secondaryColor with
          | error reason =>
              exact .inl ⟨_, .of_attempt [.primaryColor] read tells rfl (by simp [primary])
                secondary⟩
          | ok secondaryColor =>
              cases cover : attempt environment text? .defaultCover with
              | error reason =>
                  exact .inl ⟨_, .of_attempt [.primaryColor, .secondaryColor] read tells rfl
                    (by simp [primary, secondary]) cover⟩
              | ok defaultCover =>
                  have gives : Gives files environment path _ :=
                    .gives
                      (fun
                        | .primaryColor => primaryColor
                        | .secondaryColor => secondaryColor
                        | .defaultCover => defaultCover)
                      read tells fun
                        | .primaryColor => expandField_eq_ok_iff.mp primary
                        | .secondaryColor => expandField_eq_ok_iff.mp secondary
                        | .defaultCover => expandField_eq_ok_iff.mp cover
                  cases checked : Settings.validate _ with
                  | error error => exact .inl ⟨_, .rejected gives (rejects_of_validate checked)⟩
                  | ok => exact .inr ⟨_, gives, validate_eq_ok_iff.mp checked⟩

end File

/-! ### The layers -/

variable {workingDirectory : Path} {named : Option Path} {overrides : Option Overrides}

theorem Uses.loadBase_eq {path : Path} (used : Uses files workingDirectory named (some path)) :
    loadBase files workingDirectory environment named = loadFile files environment path := by
  generalize isUsed : some path = found at used
  cases used with
  | named present =>
      cases isUsed
      simp [loadBase, present]
  | nearest nearest =>
      subst isUsed
      have found := (nearest_discover files workingDirectory).eq nearest
      simp [loadBase, found]

theorem loadBase_of_base {result : Except LoadError Settings}
    (base : Base files workingDirectory environment named result) :
    loadBase files workingDirectory environment named = result := by
  cases base with
  | notFound isNamed absent => simp [loadBase, isNamed, absent]
  | faulty used faulty => rw [used.loadBase_eq, loadFile_of_faulty faulty]
  | file used gives valid =>
      rw [used.loadBase_eq, loadFile_of_gives gives, validate_eq_ok_iff.mpr valid]
      rfl
  | standard used =>
      generalize isUsed : none = found at used
      cases used with
      | named => contradiction
      | nearest nearest =>
          subst isUsed
          have found := (nearest_discover files workingDirectory).eq nearest
          simp only [loadBase, found]
          rfl

theorem exists_base (files : Files) (workingDirectory : Path) (environment : Text → Option Text)
    (named : Option Path) : ∃ result, Base files workingDirectory environment named result := by
  have ofFile {path : Path} (used : Uses files workingDirectory named (some path)) :
      ∃ result, Base files workingDirectory environment named result := by
    rcases loadFile_cases files environment path with ⟨error, faulty⟩ | ⟨settings, gives, valid⟩
    · exact ⟨_, .faulty used faulty⟩
    · exact ⟨_, .file used gives valid⟩
  cases named with
  | some path =>
      cases present : files.exists? path with
      | false => exact ⟨_, .notFound rfl present⟩
      | true => exact ofFile (.named present)
  | none =>
      have nearest := nearest_discover files workingDirectory
      cases found : discover files workingDirectory with
      | none => exact ⟨_, .standard (.nearest (found ▸ nearest))⟩
      | some path => exact ofFile (.nearest (found ▸ nearest))

theorem Base.valid {settings : Settings}
    (base : Base files workingDirectory environment named (.ok settings)) : settings.Valid := by
  cases base with
  | file _ _ valid => exact valid
  | standard => exact validate_eq_ok_iff.mp rfl

theorem load_of_base {settings : Settings}
    (base : Base files workingDirectory environment named (.ok settings)) :
    load files workingDirectory environment named overrides =
      do (inForce overrides settings).validate; return inForce overrides settings := by
  cases overrides with
  | none =>
      have valid := validate_eq_ok_iff.mpr base.valid
      simp [load, loadBase_of_base base, bind, Except.bind, inForce, valid, pure, Except.pure]
  | some given =>
      simp only [load, loadBase_of_base base]
      rfl

theorem load_of_loads {result : Except LoadError Settings}
    (loads : Loads files workingDirectory environment named overrides result) :
    load files workingDirectory environment named overrides = result := by
  cases loads with
  | faulty base => simp [load, loadBase_of_base base, bind, Except.bind]
  | rejected base rejects =>
      rw [load_of_base base, validate_of_rejects rejects]
      rfl
  | loaded base valid =>
      rw [load_of_base base, validate_eq_ok_iff.mpr valid]
      rfl

theorem exists_loads (files : Files) (workingDirectory : Path) (environment : Text → Option Text)
    (named : Option Path) (overrides : Option Overrides) :
    ∃ result, Loads files workingDirectory environment named overrides result := by
  obtain ⟨result, base⟩ := exists_base files workingDirectory environment named
  cases result with
  | error error => exact ⟨_, .faulty base⟩
  | ok settings =>
      cases checked : (inForce overrides settings).validate with
      | error error => exact ⟨_, .rejected base (rejects_of_validate checked)⟩
      | ok => exact ⟨_, .loaded base (validate_eq_ok_iff.mp checked)⟩

theorem load_eq_iff {result : Except LoadError Settings} :
    load files workingDirectory environment named overrides = result ↔
      Loads files workingDirectory environment named overrides result := by
  refine ⟨?_, load_of_loads⟩
  rintro rfl
  obtain ⟨result, loads⟩ := exists_loads files workingDirectory environment named overrides
  rwa [load_of_loads loads]

end EnergyReport.Config
