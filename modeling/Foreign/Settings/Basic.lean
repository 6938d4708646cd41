import Foreign.Library.Linker
import Foreign.Log.Setup

/-!
What a program may settle about the library: its logging and its linking. Variables of the environment
override parts of the settings.
-/

namespace Foreign

/-- Settings of logging. The level is kept as it was written, whether or not it is a level's name. -/
structure LogSettings where
  level : String
  format : Log.Format
  directory : Option String
  spans : Bool
  filter : Option String
  deriving DecidableEq, Repr

structure Settings where
  log : LogSettings
  linker : Linker
  deriving DecidableEq, Repr

namespace LogSettings

def standard : LogSettings :=
  ⟨Log.Level.info.name, .compact, none, false, none⟩

/-- The setup that the settings describe. A level without meaning is the standard one. -/
def setup (settings : LogSettings) : Log.Setup where
  level := (Log.Level.ofName? settings.level).getD Log.Setup.standard.level
  format := settings.format
  output := (settings.directory.map Log.Setup.filesIn).getD Log.Setup.standard.output
  spans := settings.spans
  filter := settings.filter

/-- The settings under an environment. Names that mean nothing are passed over. -/
def override (settings : LogSettings) (environment : Environment) : LogSettings :=
  { settings with
    level := ((environment.lookup "ABICALL_LOG_LEVEL" >>= Log.Level.ofName?).map (·.name)).getD
      settings.level
    format := (environment.lookup "ABICALL_LOG_FORMAT" >>= Log.Format.ofName?).getD settings.format
    directory := environment.lookup "ABICALL_LOG_DIR" <|> settings.directory
    spans := settings.spans || (environment.lookup "ABICALL_LOG_SPANS").isSome }

/-- Overriding before or after the setup is drawn up gives the same setup. -/
theorem setup_override (settings : LogSettings) (environment : Environment) :
    (settings.override environment).setup = settings.setup.override environment := by
  have hlevel : ∀ level : Log.Level, Log.Level.ofName? level.name = some level := by
    intro level
    cases level <;> decide +kernel
  simp only [LogSettings.setup, LogSettings.override, Log.Setup.override]
  congr 1
  · cases (environment.lookup "ABICALL_LOG_LEVEL" >>= Log.Level.ofName?) <;> simp [hlevel]
  · cases environment.lookup "ABICALL_LOG_DIR" <;> simp

end LogSettings

/-- The linker under an environment, which may choose the policy and add search paths. -/
def Linker.override (linker : Linker) (environment : Environment) : Linker :=
  let policies := LinkPolicy.all.map fun policy => (policy.name, policy)
  let added := (environment.lookup "ABICALL_LIBRARY_PATH").map (·.splitOn ":")
  { policy := (environment.lookup "ABICALL_LINK_POLICY" >>= Log.named? policies).getD linker.policy
    searchPaths := linker.searchPaths ++ added.getD [] }

namespace Settings

def standard : Settings := ⟨.standard, .standard⟩

def override (settings : Settings) (environment : Environment) : Settings :=
  ⟨settings.log.override environment, settings.linker.override environment⟩

end Settings
end Foreign
