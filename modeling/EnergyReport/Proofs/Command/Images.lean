import EnergyReport.Proofs.Command.Delivery

namespace EnergyReport

/-! Images that cannot be used.

A rendering goes on without them. It says so, once for each, and makes the document that it
would make if nobody had asked for them. -/

namespace Document

/-- A file that gives no image: it is not there, or cannot be read, or has the name of something
else. -/
inductive Image.Unusable (files : Files) (path : Path) : Prop where
  | missing (absent : files.exists? path = false)
  | unreadable {reason : FileError} (unread : files.read path = .error reason)
  | notAnImage (foreign : (MediaType.ofPath path).isImage = false)

/-- Why a file gives no image, if so. -/
def Image.fault? (files : Files) (path : Path) : Option ImageError :=
  match load files path with
  | .ok _ => none
  | .error error => some error

variable {files : Files} {path : Path}

theorem Image.isSome_fault?_iff : (fault? files path).isSome ↔ Unusable files path := by
  constructor
  · intro faulty
    cases isImage : (MediaType.ofPath path).isImage with
    | false => exact .notAnImage isImage
    | true =>
        cases read : files.read path with
        | ok content => simp [fault?, load, isImage, read] at faulty
        | error reason => exact .unreadable read
  · intro unusable
    cases isImage : (MediaType.ofPath path).isImage with
    | false => simp [fault?, load, isImage]
    | true =>
        cases read : files.read path with
        | error reason => simp [fault?, load, isImage, read]
        | ok content =>
            -- What can be read is there.
            cases unusable with
            | missing absent =>
                cases entry : files.entry path <;> simp_all [Files.exists?, Files.read]
            | unreadable unread => simp [read] at unread
            | notAnImage foreign => simp [isImage] at foreign

instance (files : Files) (path : Path) : Decidable (Image.Unusable files path) :=
  decidable_of_iff _ Image.isSome_fault?_iff

theorem Image.load?_of_unusable (unusable : Unusable files path) : load? files path = none := by
  have faulty := isSome_fault?_iff.mpr unusable
  cases loaded : load files path with
  | ok image => simp [fault?, loaded] at faulty
  | error error => simp only [load?, loaded]

theorem assemble_unusableCover {options : Options} (isDefault : options.defaultCover = some path)
    (unusable : Image.Unusable files path) (text : Text) :
    assemble files text options = assemble files text { options with defaultCover := none } := by
  have noImage := Image.load?_of_unusable unusable
  have sameCover : options.coverImage? files =
      { options with defaultCover := none }.coverImage? files := by
    cases chosen : options.cover <;> simp [Options.coverImage?, chosen, isDefault, noImage]
  simp only [assemble, sameCover]
  rfl

theorem Pipeline.run_unusableCover {options : Options}
    (isDefault : options.defaultCover = some path) (unusable : Image.Unusable files path)
    (pipeline : Pipeline) (document : ByteArray) :
    pipeline.run files document options =
      pipeline.run files document { options with defaultCover := none } := by
  simp only [run, assemble_unusableCover isDefault unusable]

end Document

namespace Command

open Document (Image ImageError)

variable {files : Files} {path : Path}

/-- What a person is told about an image that is left out. -/
def warning (error : ImageError) : String :=
  "Skipping image: " ++ error.message

theorem loadImage_eq (files : Files) (path : Path) :
    loadImage files path =
      (Image.load? files path, ((Image.fault? files path).map warning).toList) := by
  cases loaded : Image.load files path <;>
    simp [loadImage, Image.load?, Image.fault?, loaded, warning]

theorem loadImage_of_usable (usable : ¬ Image.Unusable files path) :
    loadImage files path = (Image.load? files path, []) := by
  have noFault : Image.fault? files path = none := by
    simpa [← Image.isSome_fault?_iff] using usable
  simp [loadImage_eq, noFault]

theorem loadImage_of_unusable (unusable : Image.Unusable files path) :
    (loadImage files path).1 = none := by
  rw [loadImage_eq, Image.load?_of_unusable unusable]

namespace RenderArguments

/-- The arguments without the images that cannot be used. -/
def withoutUnusable (files : Files) (arguments : RenderArguments) : RenderArguments :=
  { arguments with
    logo := arguments.logo.filter fun path => ¬ Image.Unusable files path
    cover := arguments.cover.filter fun path => ¬ Image.Unusable files path
    endPages := arguments.endPages.filter fun path => ¬ Image.Unusable files path
    photos := arguments.photos.filter fun photo => ¬ Image.Unusable files photo.path }

/-- The files of all images that are asked for, in the order in which they are loaded. -/
def imagePaths (arguments : RenderArguments) : List Path :=
  arguments.logo.toList ++ arguments.cover.toList ++ arguments.endPages ++
    arguments.photos.map (·.path)

end RenderArguments

theorem loadOptional_filter (files : Files) (path : Option Path) :
    loadOptional files (path.filter fun path => ¬ Image.Unusable files path) =
      ((loadOptional files path).1, []) := by
  cases path with
  | none => rfl
  | some path =>
      by_cases unusable : Image.Unusable files path
      · simp [Option.filter, unusable, loadOptional, loadImage_of_unusable]
      · simp [Option.filter, unusable, loadOptional, loadImage_of_usable]

theorem loadImages_filter (files : Files) (paths : List Path) :
    loadImages files (paths.filter fun path => ¬ Image.Unusable files path) =
      ((loadImages files paths).1, []) := by
  induction paths with
  | nil => rfl
  | cons path rest induction =>
      by_cases unusable : Image.Unusable files path
      · simp_all [loadImages, loadImage_of_unusable]
      · simp_all [loadImages, loadImage_of_usable]

theorem loadPhotos_filter (files : Files) (photos : List PhotoArgument) :
    loadPhotos files (photos.filter fun photo => ¬ Image.Unusable files photo.path) =
      ((loadPhotos files photos).1, []) := by
  induction photos with
  | nil => rfl
  | cons photo rest induction =>
      by_cases unusable : Image.Unusable files photo.path
      · simp_all [loadPhotos, loadImage_of_unusable]
      · simp_all [loadPhotos, loadImage_of_usable]

theorem loadOptional_messages (files : Files) (path : Option Path) :
    (loadOptional files path).2 = (path.toList.filterMap (Image.fault? files)).map warning := by
  cases path with
  | none => rfl
  | some path => cases fault : Image.fault? files path <;> simp [loadOptional, loadImage_eq, fault]

theorem loadImages_messages (files : Files) (paths : List Path) :
    (loadImages files paths).2 = (paths.filterMap (Image.fault? files)).map warning := by
  induction paths with
  | nil => rfl
  | cons path rest induction =>
      cases fault : Image.fault? files path <;> simp [loadImages, loadImage_eq, fault, induction]

theorem loadPhotos_messages (files : Files) (photos : List PhotoArgument) :
    (loadPhotos files photos).2 =
      ((photos.map (·.path)).filterMap (Image.fault? files)).map warning := by
  induction photos with
  | nil => rfl
  | cons photo rest induction =>
      cases fault : Image.fault? files photo.path <;>
        simp [loadPhotos, loadImage_eq, fault, induction]

variable (world : World) (input : Path) (arguments : RenderArguments)
  (settings : Config.Settings) (theme : Theme)

/-- Without the images that cannot be used, the document is given the same options, and there is
nothing to tell. -/
theorem documentOptions_withoutUnusable :
    documentOptions world input (arguments.withoutUnusable world.files) settings theme =
      ((documentOptions world input arguments settings theme).1, []) := by
  simp only [documentOptions, RenderArguments.withoutUnusable, loadOptional_filter,
    loadImages_filter, loadPhotos_filter, List.append_nil]

theorem documentOptions_messages :
    (documentOptions world input arguments settings theme).2 =
      (arguments.imagePaths.filterMap (Image.fault? world.files)).map warning := by
  simp only [documentOptions, loadOptional_messages, loadImages_messages, loadPhotos_messages,
    RenderArguments.imagePaths, List.filterMap_append, List.map_append]

/-- What has been told before has no part in how a rendering ends. -/
theorem exists_ending (output : Option Path) (made : Except Failure ByteArray) :
    ∃ code stdout after written, ∀ messages,
      conclude world output made messages = ⟨code, stdout, messages ++ after, written⟩ := by
  cases made with
  | error failure => exact ⟨1, .empty, ["Error: " ++ failure.message], none, fun _ => rfl⟩
  | ok document =>
      cases output with
      | none => exact ⟨0, document, [], none, fun _ => by simp [conclude, deliver]⟩
      | some path =>
          cases refused : world.files.writeError? path with
          | some reason =>
              exact ⟨1, .empty, ["Error: " ++ reason.message], none, fun _ => by
                simp only [conclude, deliver, refused, Outcome.failed, Failure.message]⟩
          | none =>
              exact ⟨0, .empty, ["Report written to " ++ String.ofList path],
                some (path, document), fun _ => by simp only [conclude, deliver, refused]⟩

theorem render_withoutUnusable :
    let full := render world input arguments
    let kept := render world input (arguments.withoutUnusable world.files)
    let settings := Config.load world.files world.workingDirectory world.environment
      arguments.config (some (overrides world arguments))
    kept.code = full.code ∧ kept.stdout = full.stdout ∧ kept.written = full.written ∧
      (∀ error, settings = .error error → kept.messages = full.messages) ∧
      ∀ loaded, settings = .ok loaded →
        ∃ before after, kept.messages = before ++ after ∧
          full.messages = before ++
            (arguments.imagePaths.filterMap (Image.fault? world.files)).map warning ++ after := by
  intro full kept settings
  -- The settings do not depend on the images.
  have sameSettings : settings = Config.load world.files world.workingDirectory world.environment
      (arguments.withoutUnusable world.files).config
      (some (overrides world (arguments.withoutUnusable world.files))) := rfl
  cases loaded : settings with
  | error error =>
      have fullFailed : full = .failed [] (.config error) := render_of_faulty loaded
      have keptFailed : kept = .failed [] (.config error) :=
        render_of_faulty (sameSettings.symm.trans loaded)
      simp [fullFailed, keptFailed]
  | ok settings =>
      obtain ⟨theme, parsed, _⟩ := Theme.parse_of_valid (Config.valid_of_load loaded)
      have fullEnd : full = _ := render_eq_conclude loaded parsed
      have keptEnd : kept = _ := render_eq_conclude (sameSettings.symm.trans loaded) parsed
      simp only [documentOptions_withoutUnusable, List.append_nil] at keptEnd
      obtain ⟨code, stdout, after, written, ending⟩ := exists_ending world arguments.output
        (renderInput world input (documentOptions world input arguments settings theme).1)
      rw [ending, documentOptions_messages] at fullEnd
      have keptEnd : kept = ⟨code, stdout, sourceMessages settings ++ after, written⟩ :=
        keptEnd.trans (ending _)
      rw [fullEnd, keptEnd]
      exact ⟨rfl, rfl, rfl, by simp, fun _ _ => ⟨_, after, rfl, rfl⟩⟩

end Command

end EnergyReport
