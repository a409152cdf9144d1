/-
**Arguments of the program.**

The program has two commands, one that runs the collectors and one that shows a file.  Options begin
with two dashes; a value follows its option or stands behind an equals sign.  No option is given
twice, and behind two dashes alone no option follows.

Main definitions

* `CommandLine.Arguments` — what was asked for;
* `CommandLine.Usage` — why nothing was asked for;
* `CommandLine.Arguments.parse` — the reading of arguments.
-/

set_option relaxedAutoImplicit false
set_option autoImplicit false

namespace SpanIntake.CommandLine

/-- The options of running the collectors. -/
structure RunOptions where
  /-- Where the HTTP collector listens. -/
  httpAddress : Option String
  /-- Where the gRPC collector listens. -/
  grpcAddress : Option String
  /-- Whether the HTTP collector is off. -/
  noHttp : Bool
  /-- Whether the gRPC collector is off. -/
  noGrpc : Bool
  /-- What happens to batches. -/
  exporter : Option String
  /-- Where batches are forwarded. -/
  forwardEndpoint : Option String
  /-- Whether each span is reported. -/
  verbose : Bool
  deriving DecidableEq

/-- What the program is asked to do. -/
inductive Command where
  /-- To run the collectors. -/
  | run (options : RunOptions)
  /-- To show a file. -/
  | decode (path : String)
  deriving DecidableEq

/-- What was asked for. -/
structure Arguments where
  /-- What is to be done. -/
  command : Command
  /-- Whether JSON is printed. -/
  json : Bool
  deriving DecidableEq

/-- Why nothing was asked for. -/
inductive Usage where
  /-- The arguments ask how the program is used. -/
  | help
  /-- The arguments make no sense. -/
  | wrong
  deriving DecidableEq, Repr

/-! ### Options -/

/-- What was given to a command. -/
structure Given where
  /-- The options without a value. -/
  flags : List String := []
  /-- The options with their values. -/
  values : List (String × String) := []
  /-- What is no option. -/
  words : List String := []

/-- The options of a command. -/
structure Options where
  /-- Those without a value. -/
  flags : List String
  /-- Those with one. -/
  values : List String

/-- Whether an argument looks like an option. -/
def looksLikeOption (s : String) : Bool := s ≠ "-" && "-".toList.isPrefixOf s.toList

/-- Whether an argument asks how the program is used. -/
def asksForHelp (s : String) : Bool := s = "--help" || s = "-h"

/-- The name of an option and the value behind its equals sign. -/
def splitOption (s : String) : String × Option String :=
  let cs := s.toList
  let name := String.ofList (cs.takeWhile (· ≠ '='))
  match cs.dropWhile (· ≠ '=') with
  | [] => (name, none)
  | _ :: value => (name, some (String.ofList value))

/-- One more option without a value. -/
def Given.flag (g : Given) (name : String) : Except Usage Given :=
  if g.flags.contains name then .error .wrong else .ok { g with flags := g.flags ++ [name] }

/-- One more option with a value. -/
def Given.value (g : Given) (name value : String) : Except Usage Given :=
  if g.values.any fun v => v.1 = name then .error .wrong
  else .ok { g with values := g.values ++ [(name, value)] }

/-- What is given to a command with these options, besides what was given before. -/
def readOptions (o : Options) : Given → List String → Except Usage Given
  | g, [] => .ok g
  | g, a :: rest =>
    if a = "--" then .ok { g with words := g.words ++ rest }
    else if asksForHelp a then .error .help
    else if looksLikeOption a then
      let (name, value) := splitOption a
      if o.flags.contains name then
        match value, g.flag name with
        | none, .ok g => readOptions o g rest
        | _, _ => .error .wrong
      else if o.values.contains name then
        match value, rest with
        | some v, rest =>
          match g.value name v with
          | .ok g => readOptions o g rest
          | .error e => .error e
        | none, v :: rest =>
          if looksLikeOption v then .error .wrong
          else
            match g.value name v with
            | .ok g => readOptions o g rest
            | .error e => .error e
        | none, [] => .error .wrong
      else .error .wrong
    else readOptions o { g with words := g.words ++ [a] } rest

/-- The value of an option. -/
def Given.value? (g : Given) (name : String) : Option String :=
  (g.values.find? fun v => v.1 = name).map Prod.snd

/-! ### Commands -/

/-- The option that all commands share. -/
def jsonFlag : String := "--json"

/-- The options of running the collectors. -/
def runOptions : Options where
  flags := [jsonFlag, "--no-http", "--no-grpc", "--verbose"]
  values := ["--http-addr", "--grpc-addr", "--exporter", "--forward-endpoint"]

/-- The options of showing a file. -/
def decodeOptions : Options := ⟨[jsonFlag], []⟩

/-- The reading of the arguments of running the collectors. -/
def readRun (json : Bool) (args : List String) : Except Usage Arguments := do
  let g ← readOptions runOptions {} args
  if !g.words.isEmpty then throw .wrong
  return {
    command := .run {
      httpAddress := g.value? "--http-addr"
      grpcAddress := g.value? "--grpc-addr"
      noHttp := g.flags.contains "--no-http"
      noGrpc := g.flags.contains "--no-grpc"
      exporter := g.value? "--exporter"
      forwardEndpoint := g.value? "--forward-endpoint"
      verbose := g.flags.contains "--verbose" }
    json := json || g.flags.contains jsonFlag }

/-- The reading of the arguments of showing a file. -/
def readDecode (json : Bool) (args : List String) : Except Usage Arguments := do
  let g ← readOptions decodeOptions {} args
  match g.words with
  | [path] =>
    if path.isEmpty then throw .wrong
    return ⟨.decode path, json || g.flags.contains jsonFlag⟩
  | _ => throw .wrong

/-- The reading of what follows the word for help. -/
def readHelp : List String → Usage
  | [] | ["run"] | ["decode"] | ["help"] => .help
  | _ => .wrong

/-- The reading of arguments, where JSON was asked for already or not. -/
def parseFrom : Bool → List String → Except Usage Arguments
  | _, [] => .error .wrong
  | json, a :: rest =>
    if a = jsonFlag then if json then .error .wrong else parseFrom true rest
    else if asksForHelp a then .error .help
    else if a = "run" then readRun json rest
    else if a = "decode" then readDecode json rest
    else if a = "help" then .error (readHelp rest)
    else .error .wrong

/-- The reading of arguments. -/
def Arguments.parse (args : List String) : Except Usage Arguments := parseFrom false args

end SpanIntake.CommandLine
