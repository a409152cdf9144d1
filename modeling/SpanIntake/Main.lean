/-
**The command line.**

Arguments, variables and files go to the program; what it prints and reports goes out.  There is no
network here, so no address can be bound.
-/

import SpanIntake.CommandLine.Program

set_option relaxedAutoImplicit false
set_option autoImplicit false

namespace SpanIntake.CommandLine

/-- The variables that the program reads. -/
def variableNames : List String :=
  ["HOME", "XDG_CONFIG_HOME", "JTRACE_CONFIG", "JTRACE_COLLECTOR_HTTP_ADDR",
   "JTRACE_COLLECTOR_GRPC_ADDR", "JTRACE_HTTP_ENABLED", "JTRACE_GRPC_ENABLED",
   "JTRACE_MAX_REQUEST_BYTES", "JTRACE_CONSUMER_TIMEOUT", "JTRACE_EXPORTER",
   "JTRACE_FORWARD_OTLP_ENDPOINT", "JTRACE_FORWARD_OTLP_PROTOCOL",
   "JTRACE_FORWARD_OTLP_COMPRESSION", "JTRACE_FORWARD_OTLP_HEADERS",
   "JTRACE_FORWARD_OTLP_TIMEOUT"]

/-- The values of the variables. -/
def readEnvironment : IO Environment := do
  let values ← variableNames.filterMapM fun key => do return (← IO.getEnv key).map fun v => (key, v)
  return fun key => values.lookup key

/-- Why a file is not opened. -/
def closedReason : String := "Permission denied (os error 13)"

/-- What stands at a path that may not be opened.  What is there has an absolute path. -/
def readClosed (path : String) : IO FileContent := do
  try
    discard (IO.FS.realPath path)
    return .unopened closedReason
  catch _ => return .unseen closedReason

/-- What stands at a path. -/
def readContent (path : String) : IO FileContent := do
  try
    return .bytes (← IO.FS.readBinFile path).data.toList
  catch
    | .inappropriateType _ code _ => return if code = 21 then .directory else .blocked
    | .permissionDenied .. => readClosed path
    | _ => return .absent

/-- The paths that arguments and variables lead to. -/
def pathsOf (env : Environment) (args : List String) : List String :=
  match Arguments.parse args with
  | .ok ⟨.decode path, _⟩ => [path]
  | .ok ⟨.run _, _⟩ => [configPath env]
  | .error _ => []

/-- A binder without a network. -/
def noNetwork : Binder := fun _ _ => .error "Operation not supported (os error 95)"

/-- What the program finds. -/
def surroundings (args : List String) : IO Surroundings := do
  let env ← readEnvironment
  let files ← (pathsOf env args).mapM fun path => do return (path, ← readContent path)
  return ⟨env, fun path => (files.lookup path).getD .absent, noNetwork⟩

/-- Prints and reports what comes of arguments; the code that the program gives back. -/
def runProgram (args : List String) : IO UInt32 := do
  match effect (← surroundings args) args with
  | .ended ending =>
    IO.print ending.stdout
    IO.eprint ending.stderr
    return UInt32.ofNat ending.exit
  | .serving s =>
    IO.eprint s.banner
    return 0

end SpanIntake.CommandLine

/-- Runs the program. -/
def main (args : List String) : IO UInt32 := SpanIntake.CommandLine.runProgram args
