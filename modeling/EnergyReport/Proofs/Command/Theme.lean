import EnergyReport.Command.Run
import EnergyReport.Proofs.Color.Rgb
import EnergyReport.Proofs.Config.Loading

namespace EnergyReport

/-! Settings that are loaded have a theme.

The colors are checked at a different moment in each layer, and for the last time before the
settings are given out; so rendering never finds a color in them that is none. -/

theorem Config.valid_of_load {files : Files} {workingDirectory : Path}
    {environment : Text → Option Text} {named : Option Path} {overrides : Option Overrides}
    {settings : Settings}
    (loaded : load files workingDirectory environment named overrides = .ok settings) :
    settings.Valid := by
  obtain ⟨result, loads⟩ := exists_loads files workingDirectory environment named overrides
  rw [load_of_loads loads] at loaded
  subst loaded
  cases loads with
  | loaded _ valid => exact valid

theorem Theme.parse_of_valid {settings : Config.Settings} (valid : settings.Valid) :
    ∃ theme, parse settings.primaryColor settings.secondaryColor = .ok theme ∧
      theme.primary.toHex = settings.primaryColor.map Char.toLower ∧
      theme.secondary.toHex = settings.secondaryColor.map Char.toLower := by
  obtain ⟨primary, readPrimary⟩ := valid .primaryColor (by simp [Config.Field.colors])
  obtain ⟨secondary, readSecondary⟩ := valid .secondaryColor (by simp [Config.Field.colors])
  simp only [Config.Settings.value] at readPrimary readSecondary
  refine ⟨ofColors primary secondary, ?_, Rgb.toHex_of_parse readPrimary,
    Rgb.toHex_of_parse readSecondary⟩
  rw [parse, readPrimary, readSecondary]
  rfl

namespace Command

/-- The name of the settings file, for the person who waits. -/
def sourceMessages (settings : Config.Settings) : List String :=
  match settings.source with
  | some path => ["Config: " ++ String.ofList path]
  | none => []

/-- What rendering does when it has its settings and its theme. -/
def renderThemed (world : World) (input : Path) (arguments : RenderArguments)
    (settings : Config.Settings) (theme : Theme) : Outcome :=
  let (options, imageMessages) := documentOptions world input arguments settings theme
  let messages := sourceMessages settings ++ imageMessages
  match renderInput world input options with
  | .error failure => .failed messages failure
  | .ok document => deliver world arguments.output messages document

/-- Settings that are loaded have a theme, with their colors in small letters, and rendering
goes on with it. -/
theorem theme_of_load :
    (∀ files workingDirectory environment named overrides settings,
      Config.load files workingDirectory environment named overrides = .ok settings →
        ∃ theme, Theme.parse settings.primaryColor settings.secondaryColor = .ok theme ∧
          theme.primary.toHex = settings.primaryColor.map Char.toLower ∧
          theme.secondary.toHex = settings.secondaryColor.map Char.toLower) ∧
      ∀ (world : World) (input : Path) (arguments : RenderArguments),
        (∃ error, Config.load world.files world.workingDirectory world.environment
            arguments.config (some (overrides world arguments)) = .error error ∧
          render world input arguments = .failed [] (.config error)) ∨
        ∃ settings theme, Config.load world.files world.workingDirectory world.environment
            arguments.config (some (overrides world arguments)) = .ok settings ∧
          Theme.parse settings.primaryColor settings.secondaryColor = .ok theme ∧
          render world input arguments = renderThemed world input arguments settings theme := by
  refine ⟨fun _ _ _ _ _ _ loaded => Theme.parse_of_valid (Config.valid_of_load loaded),
    fun world input arguments => ?_⟩
  cases loaded : Config.load world.files world.workingDirectory world.environment
      arguments.config (some (overrides world arguments)) with
  | error error => exact .inl ⟨error, rfl, by simp only [render, loaded]⟩
  | ok settings =>
      obtain ⟨theme, parsed, -⟩ := Theme.parse_of_valid (Config.valid_of_load loaded)
      refine .inr ⟨settings, theme, rfl, parsed, ?_⟩
      simp only [render, loaded, parsed]
      rfl

theorem theme_of_load_capitals :
    ∃ settings, Config.load ⟨fun _ => .error .notFound⟩ ['/'] (fun _ => none) none
        (some ⟨some "#FF8000".toList, none, none⟩) = .ok settings ∧
      ∃ theme, Theme.parse settings.primaryColor settings.secondaryColor = .ok theme ∧
        theme.primary.toHex = "#ff8000".toList ∧ theme.secondary.toHex = "#3b7dd8".toList := by
  have loaded : Config.load ⟨fun _ => .error .notFound⟩ ['/'] (fun _ => none) none
      (some ⟨some "#FF8000".toList, none, none⟩) =
        .ok ((Config.Settings.standard ['/']).override ⟨some "#FF8000".toList, none, none⟩) := by
    decide
  obtain ⟨theme, parsed, primary, secondary⟩ := theme_of_load.1 _ _ _ _ _ _ loaded
  refine ⟨_, loaded, theme, parsed, primary.trans (by decide), secondary.trans (by decide)⟩

end Command

end EnergyReport
