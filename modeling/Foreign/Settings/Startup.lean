import Foreign.Log.Logger
import Foreign.Settings.Discovery

/-!
Ways for a process to start logging: with settings that it finds or is given, with a setup of its own, or
as the environment alone says.
-/

namespace Foreign

inductive Startup where
  /-- With the settings in effect where the process runs, under its environment. -/
  | discovered
  /-- With the settings in a text. -/
  | text (toml : String)
  | environment
  | setup (setup : Log.Setup)

namespace Startup

/-- The logger started in the given way, and the settings if the process found them by itself. A logger
that runs already stays as it is. -/
def start (startup : Startup) (logger : Log.Logger) (tree : FileTree) (directory : Place)
    (environment : Environment) : Outcome (Log.Logger × Option Settings) := do
  match startup with
  | discovered =>
    let settings := (Settings.discover tree directory).override environment
    return (← logger.start settings.log.setup environment tree directory, some settings)
  | text toml =>
    let settings ← Settings.ofText toml
    return (← logger.start settings.log.setup environment tree directory, none)
  | .environment => return (← logger.start (.ofEnvironment environment) environment tree directory, none)
  | setup chosen => return (← logger.start chosen environment tree directory, none)

end Startup
end Foreign
