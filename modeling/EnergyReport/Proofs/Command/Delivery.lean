import EnergyReport.Proofs.Command.Theme
import EnergyReport.Proofs.Files.Tree

namespace EnergyReport.Command

/-! A rendering does all of its work or none of it.

Either the document is whole and at the one place where it is wanted, or there is nothing but
messages, the last of which tells why. -/

variable {world : World} {input : Path} {arguments : RenderArguments}

/-- The document that a rendering makes when all that it needs is there. -/
inductive Renders (world : World) (input : Path) (arguments : RenderArguments) :
    ByteArray → Prop where
  | renders {settings : Config.Settings} {theme : Theme} {content : ByteArray} {text : String}
      (loaded : Config.load world.files world.workingDirectory world.environment
        arguments.config (some (overrides world arguments)) = .ok settings)
      (parsed : Theme.parse settings.primaryColor settings.secondaryColor = .ok theme)
      (read : world.files.read input = .ok content)
      (decoded : Text.decodeUtf8 content = .ok text) :
      Renders world input arguments
        (Document.assemble world.files (Report.injectCharts text.toList)
          (documentOptions world input arguments settings theme).1).toUTF8

/-- The first step at which a rendering cannot go on, and why. -/
inductive Fails (world : World) (input : Path) (arguments : RenderArguments) : Failure → Prop where
  | settings {error : Config.LoadError}
      (faulty : Config.load world.files world.workingDirectory world.environment
        arguments.config (some (overrides world arguments)) = .error error) :
      Fails world input arguments (.config error)
  | input {settings : Config.Settings} {reason : FileError}
      (loaded : Config.load world.files world.workingDirectory world.environment
        arguments.config (some (overrides world arguments)) = .ok settings)
      (unread : world.files.read input = .error reason) :
      Fails world input arguments (.file reason)
  | encoding {settings : Config.Settings} {content : ByteArray} {fault : Text.Utf8Fault}
      (loaded : Config.load world.files world.workingDirectory world.environment
        arguments.config (some (overrides world arguments)) = .ok settings)
      (read : world.files.read input = .ok content)
      (foreign : Text.decodeUtf8 content = .error fault) :
      Fails world input arguments (.pipeline (.extraction fault.message))
  | output {path : Path} {document : ByteArray} {reason : FileError}
      (renders : Renders world input arguments document)
      (wanted : arguments.output = some path)
      (refused : world.files.writeError? path = some reason) :
      Fails world input arguments (.file reason)

namespace Outcome

/-- The document is on the standard output, or in the file where one is named. -/
def Delivers (outcome : Outcome) (output : Option Path) (document : ByteArray) : Prop :=
  outcome.code = 0 ∧
    match output with
    | none => outcome.stdout = document ∧ outcome.written = none
    | some path => outcome.stdout = .empty ∧ outcome.written = some (path, document)

/-- There is nothing but messages, and the last one tells the failure. -/
structure Refuses (outcome : Outcome) (failure : Failure) : Prop where
  code : outcome.code = 1
  stdout : outcome.stdout = .empty
  written : outcome.written = none
  told : outcome.messages.getLast? = some ("Error: " ++ failure.message)

/-- The files after all. -/
def treeAfter (outcome : Outcome) (tree : FileTree) (workingDirectory : Path) : FileTree :=
  match outcome.written with
  | some (path, content) => tree.writeFile workingDirectory path content
  | none => tree

theorem refuses_failed (messages : List String) (failure : Failure) :
    (failed messages failure).Refuses failure :=
  ⟨rfl, rfl, rfl, by simp [failed]⟩

end Outcome

/-- How a rendering ends when it has its document, or the reason why there is none. -/
def conclude (world : World) (output : Option Path) (made : Except Failure ByteArray)
    (messages : List String) : Outcome :=
  match made with
  | .error failure => .failed messages failure
  | .ok document => deliver world output messages document

theorem render_of_faulty {error : Config.LoadError}
    (faulty : Config.load world.files world.workingDirectory world.environment
      arguments.config (some (overrides world arguments)) = .error error) :
    render world input arguments = .failed [] (.config error) := by
  simp only [render, faulty]

theorem render_eq_conclude {settings : Config.Settings} {theme : Theme}
    (loaded : Config.load world.files world.workingDirectory world.environment
      arguments.config (some (overrides world arguments)) = .ok settings)
    (parsed : Theme.parse settings.primaryColor settings.secondaryColor = .ok theme) :
    render world input arguments =
      let made := documentOptions world input arguments settings theme
      conclude world arguments.output (renderInput world input made.1)
        (sourceMessages settings ++ made.2) := by
  simp only [render, loaded, parsed]
  rfl

theorem renderInput_of_read {content : ByteArray} (read : world.files.read input = .ok content)
    (options : Document.Options) :
    renderInput world input options =
      match Text.decodeUtf8 content with
      | .ok text =>
          .ok (Document.assemble world.files (Report.injectCharts text.toList) options).toUTF8
      | .error fault => .error (.pipeline (.extraction fault.message)) := by
  cases decoded : Text.decodeUtf8 content <;>
    simp [renderInput, read, Document.Pipeline.plain, Document.Pipeline.run,
      Document.Pipeline.extractPlainText, decoded, bind, Except.bind, pure, Except.pure]

theorem decodeUtf8_toUTF8 (text : String) : Text.decodeUtf8 text.toUTF8 = .ok text := by
  have whole : String.fromUTF8? text.toUTF8 = some text := dif_pos text.isValidUTF8
  simp only [Text.decodeUtf8, whole]

theorem deliver_cases (world : World) (output : Option Path) (messages : List String)
    (document : ByteArray) :
    ((∀ path, output = some path → world.files.writeError? path = none) ∧
        (deliver world output messages document).Delivers output document) ∨
      ∃ path reason, output = some path ∧ world.files.writeError? path = some reason ∧
        deliver world output messages document = .failed messages (.file reason) := by
  cases output with
  | none => exact .inl ⟨by simp, rfl, rfl, rfl⟩
  | some path =>
      cases refused : world.files.writeError? path with
      | none =>
          refine .inl ⟨fun _ same => by cases same; exact refused, ?_⟩
          simp only [deliver, refused]
          exact ⟨rfl, rfl, rfl⟩
      | some reason => exact .inr ⟨path, reason, rfl, refused, by simp only [deliver, refused]⟩

theorem Renders.refused_of_fails {document : ByteArray} {failure : Failure}
    (renders : Renders world input arguments document)
    (fails : Fails world input arguments failure) :
    ∃ path, arguments.output = some path ∧ world.files.writeError? path ≠ none := by
  obtain ⟨loaded, _, read, decoded⟩ := renders
  cases fails with
  | settings faulty => simp [loaded] at faulty
  | input _ unread => simp [read] at unread
  | encoding _ other foreign =>
      rw [read] at other
      cases other
      simp [decoded] at foreign
  | output _ wanted refused => exact ⟨_, wanted, by simp [refused]⟩

theorem render_cases (world : World) (input : Path) (arguments : RenderArguments) :
    (∃ document, Renders world input arguments document ∧
        (render world input arguments).Delivers arguments.output document ∧
        ∀ failure, ¬ Fails world input arguments failure) ∨
      ∃ failure, Fails world input arguments failure ∧
        (render world input arguments).Refuses failure := by
  cases loaded : Config.load world.files world.workingDirectory world.environment
      arguments.config (some (overrides world arguments)) with
  | error error =>
      rw [render_of_faulty loaded]
      exact .inr ⟨_, .settings loaded, Outcome.refuses_failed _ _⟩
  | ok settings =>
      obtain ⟨theme, parsed, _⟩ := Theme.parse_of_valid (Config.valid_of_load loaded)
      rw [render_eq_conclude loaded parsed]
      generalize made : documentOptions world input arguments settings theme = options
      cases read : world.files.read input with
      | error reason =>
          refine .inr ⟨_, .input loaded read, ?_⟩
          simp only [renderInput, read, conclude]
          exact Outcome.refuses_failed _ _
      | ok content =>
          simp only [renderInput_of_read read]
          cases decoded : Text.decodeUtf8 content with
          | error fault =>
              exact .inr ⟨_, .encoding loaded read decoded, Outcome.refuses_failed _ _⟩
          | ok text =>
              have renders := Renders.renders loaded parsed read decoded
              rw [made] at renders
              rcases deliver_cases world arguments.output (sourceMessages settings ++ options.2)
                  (Document.assemble world.files (Report.injectCharts text.toList)
                    options.1).toUTF8 with
                ⟨permitted, delivers⟩ | ⟨path, reason, wanted, refused, failed⟩
              · refine .inl ⟨_, renders, delivers, fun failure fails => ?_⟩
                obtain ⟨path, wanted, refused⟩ := renders.refused_of_fails fails
                exact refused (permitted path wanted)
              · refine .inr ⟨_, .output renders wanted refused, ?_⟩
                simp only [conclude, failed]
                exact Outcome.refuses_failed _ _

theorem permitted_of_written {path : Path} {document : ByteArray}
    (written : (render world input arguments).written = some (path, document)) :
    world.files.writeError? path = none := by
  rcases render_cases world input arguments with
    ⟨other, renders, ⟨_, delivers⟩, nothing⟩ | ⟨_, _, refuses⟩
  · cases wanted : arguments.output with
    | none =>
        rw [wanted] at delivers
        simp [delivers.2] at written
    | some output =>
        rw [wanted] at delivers
        simp only [delivers.2, Option.some.injEq, Prod.mk.injEq] at written
        obtain ⟨rfl, rfl⟩ := written
        cases refused : world.files.writeError? output with
        | none => rfl
        | some reason => exact absurd (.output renders wanted refused) (nothing _)
  · simp [refuses.written] at written

/-- A rendering that is asked for delivers its document, exactly where nothing fails, or refuses
for the first failure. In the tree of files nothing changes but the file that is asked for, and
only where the document is delivered. -/
theorem run_allOrNothing (world : World) {line : List Text} {input : Path}
    {arguments : RenderArguments} (accepted : readArguments line = .render input arguments) :
    let outcome := run world line
    ((∃ document, Renders world input arguments document ∧
          outcome.Delivers arguments.output document ∧
          ∀ failure, ¬ Fails world input arguments failure) ∨
        ∃ failure, Fails world input arguments failure ∧ outcome.Refuses failure) ∧
      ∀ tree : FileTree, world.files = tree.files world.workingDirectory →
        (outcome.written = none → outcome.treeAfter tree world.workingDirectory = tree) ∧
        ∀ path document, outcome.written = some (path, document) →
          let after := outcome.treeAfter tree world.workingDirectory
          (after.files world.workingDirectory).read path = .ok document ∧
            ∀ names, after.entryAt names =
              if names = FileTree.place world.workingDirectory path then some (.file document)
              else tree.entryAt names := by
  have isRender : run world line = render world input arguments := by
    rw [run, accepted, Request.run]
  rw [isRender]
  refine ⟨render_cases world input arguments, ?_⟩
  intro tree isTree
  refine ⟨fun nothing => by rw [Outcome.treeAfter, nothing], ?_⟩
  intro path document written
  have permitted := permitted_of_written written
  rw [isTree] at permitted
  obtain ⟨front, name, writable⟩ := FileTree.exists_writable permitted
  simp only [Outcome.treeAfter, written]
  exact ⟨writable.read_writeFile document, writable.entryAt_writeFile document⟩

/-- A tree with a report in it. -/
def reportTree : FileTree :=
  .directory [("w".toList, .directory [("in.txt".toList, .file "Bonjour\n".toUTF8)])]

/-- Surroundings with a report in the working directory, and without settings. -/
def reportWorld : World :=
  ⟨reportTree.files "/w".toList, "/w".toList, fun _ => none, ⟨2026, .october, 17⟩⟩

theorem run_allOrNothing_newFile :
    let line := ["render".toList, "in.txt".toList, "-o".toList, "out.html".toList]
    let arguments := { RenderArguments.none with
      input := some "in.txt".toList, output := some "out.html".toList }
    readArguments line = .render "in.txt".toList arguments ∧
      ∃ document, Renders reportWorld "in.txt".toList arguments document ∧
        (run reportWorld line).Delivers (some "out.html".toList) document ∧
        ∀ names,
          ((run reportWorld line).treeAfter reportTree "/w".toList).entryAt names =
            if names = ["w".toList, "out.html".toList] then some (.file document)
            else reportTree.entryAt names := by
  intro line arguments
  have accepted : readArguments line = .render "in.txt".toList arguments := by decide
  have loaded : Config.load reportWorld.files reportWorld.workingDirectory
      reportWorld.environment arguments.config (some (overrides reportWorld arguments)) =
        .ok (Config.Settings.standard "/w".toList) := by
    decide
  have read : reportWorld.files.read "in.txt".toList = .ok "Bonjour\n".toUTF8 := rfl
  have permitted : reportWorld.files.writeError? "out.html".toList = none := by decide
  obtain ⟨theme, parsed, _⟩ := Theme.parse_of_valid (Config.valid_of_load loaded)
  have renders := Renders.renders loaded parsed read (decodeUtf8_toUTF8 _)
  obtain ⟨ends, leaves⟩ := run_allOrNothing reportWorld accepted
  refine ⟨accepted, ?_⟩
  rcases ends with ⟨document, made, delivers, _⟩ | ⟨failure, fails, _⟩
  · exact ⟨document, made, delivers, ((leaves reportTree rfl).2 _ _ delivers.2.2).2⟩
  · obtain ⟨path, wanted, refused⟩ := renders.refused_of_fails fails
    cases wanted
    exact absurd permitted refused

end EnergyReport.Command
