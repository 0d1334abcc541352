import ProxyOperator.Manifest.Definition
import ProxyOperator.Settings.Arguments
/-!
The command line. It prints the definitions of the kinds, or reads the settings and prints those that
are in effect.
-/
namespace ProxyOperator

namespace CommandLine

def usage : String :=
  "usage: proxy-operator [--crd | controller [--FLAG VALUE]...]\n\nflags:\n" ++
    String.join (Settings.Flag.all.map fun flag =>
      "  --" ++ flag.name ++ " (" ++ flag.variableName ++ ")\n")

def manifest : String := "\n---\n".intercalate (definitions.map Json.render)

def describe (settings : Settings) : Json :=
  .object (Settings.Flag.all.map fun flag => (flag.name, value flag))
where
  value : Settings.Flag → Json
    | .operatorNamespace => .string settings.operatorNamespace
    | .defaultEmail => Json.ofOption .string settings.defaultEmail
    | .requeueSeconds => .natural settings.requeueSeconds.toNat
    | .resyncSeconds => .natural settings.resyncSeconds.toNat
    | .refreshMarginSeconds => .natural settings.refreshMarginSeconds.toNat
    | .statusWriteAttempts => .natural settings.statusWriteAttempts.toNat

def output (arguments : List String) (environment : String → Option String) :
    Except UsageError String :=
  match arguments with
  | ["--crd"] => .ok manifest
  | [] => .ok (describe .standard).render
  | "controller" :: flags =>
      (fun settings => (describe settings).render) <$> Settings.ofArguments flags environment
  | ["--help"] => .error .helpRequested
  | ["-h"] => .error .helpRequested
  | _ => .error .unknownArgument

/-- The variables that stand in for flags. -/
def readEnvironment : IO (String → Option String) := do
  let held ← Settings.Flag.all.mapM fun flag => do
    return (flag.variableName, ← IO.getEnv flag.variableName)
  return fun name => (held.lookup name).join

def run (arguments : List String) : IO UInt32 := do
  match output arguments (← readEnvironment) with
  | .ok text =>
      IO.println text
      return 0
  | .error .helpRequested =>
      IO.println usage
      return 0
  | .error error =>
      IO.eprintln error.message
      return 2

end CommandLine

end ProxyOperator

def main (arguments : List String) : IO UInt32 := ProxyOperator.CommandLine.run arguments
