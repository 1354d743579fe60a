import Bazaar.Configuration
import Bazaar.Data.Json
import Bazaar.Scenario.Replay

/-! # Playing a scenario file

The configuration is read before the scenario. A missing configuration file stands for the
standard configuration, a missing scenario file is a failure.
-/

namespace Bazaar

/-- What is found under the name of a file. -/
inductive FileText
  | missing
  | unreadable
  | text (s : String)
  deriving DecidableEq

inductive ConfigurationError
  | noFile
  | malformed
  deriving DecidableEq

def ConfigurationError.message : ConfigurationError → String
  | .noFile => "failed to read config file"
  | .malformed => "failed to parse config YAML"

/-- The configuration in a file, with the level of logging that the environment asks for. -/
def Configuration.load (file : FileText) (level : Option String) :
    Except ConfigurationError Configuration :=
  match file with
  | .missing | .unreadable => .error .noFile
  | .text s =>
    match parse? s with
    | none => .error .malformed
    | some c => .ok (c.withLevel level)

inductive LaunchError
  | configuration (why : ConfigurationError)
  | noScenario
  | badScenario
  | flawed (flaw : Scenario.Flaw)
  deriving DecidableEq

def LaunchError.message : LaunchError → String
  | .configuration why => "config error: " ++ why.message
  | .noScenario => "failed to read scenario file"
  | .badScenario => "failed to parse scenario YAML"
  | .flawed flaw => flaw.message

namespace Launch

def defaultScenario : String := "scenarios/selling-batch.yaml"

def defaultConfiguration : String := "merchant-config.yaml"

def configurationVariable : String := "MERCHANT_CONFIG"

def levelVariable : String := "MERCHANT_LOG"

/-- The configuration of a launch, which needs no file. -/
def configure (file : FileText) (level : Option String) :
    Except ConfigurationError Configuration :=
  match file with
  | .missing => .ok (({} : Configuration).withLevel level)
  | file => Configuration.load file level

def scenario (file : FileText) : Except LaunchError Scenario :=
  match file with
  | .missing | .unreadable => .error .noScenario
  | .text s =>
    match Scenario.parse? s with
    | none => .error .badScenario
    | some s => .ok s

/-- Play a scenario file under a configuration file. -/
def run (configurationFile : FileText) (level : Option String) (scenarioFile : FileText) :
    Except LaunchError Report :=
  match configure configurationFile level with
  | .error why => .error (.configuration why)
  | .ok c => (scenario scenarioFile).bind fun s => (s.replay c.settings).mapError .flawed

end Launch

end Bazaar
