import Conformance.Config.Reader

/-!
# The command line

Settings come from options, from the environment, from the file and from the defaults, the first of
these that gives one deciding. `CommandLine.read` reads options and environment. An option with a
value takes it from the same argument or from the next one; two hyphens end the options; what is no
option is a target.
-/

namespace Conformance

/-- A setting that an option or a variable of the environment can give. -/
inductive Key where
  | config
  | buildName
  | endpoint
  | channel
  | matchMode
  | groupPolicy
  | output
  | suitesDir
  deriving Repr, DecidableEq

namespace Key

/-- All keys, in the order in which the environment is looked at. -/
def all : List Key :=
  [.config, .buildName, .endpoint, .channel, .matchMode, .groupPolicy, .output, .suitesDir]

/-- The long name of the key's option. -/
def long : Key → String
  | .config => "config"
  | .buildName => "build-name"
  | .endpoint => "endpoint"
  | .channel => "transport"
  | .matchMode => "match-mode"
  | .groupPolicy => "multi-group"
  | .output => "output"
  | .suitesDir => "suites-dir"

/-- The letter of the key's option. -/
def short? : Key → Option Char
  | .config => some 'c'
  | .output => some 'o'
  | _ => none

/-- The name in capitals with low lines. -/
def capitals (k : Key) : String := k.long.map fun c => if c = '-' then '_' else c.toUpper

/-- The key's variable in the environment. -/
def variableName (k : Key) : String := "HALMOCK_" ++ k.capitals

/-- The option in a message. -/
def display (k : Key) : String := "--" ++ k.long ++ " <" ++ k.capitals ++ ">"

/-- Is the value a path, which cannot be empty? -/
def isPath : Key → Bool
  | .config | .output | .suitesDir => true
  | _ => false

end Key

/-- A switch. -/
inductive Switch where
  | list
  | verbose
  | help
  | version
  deriving Repr, DecidableEq

namespace Switch

/-- All switches. -/
def all : List Switch := [.list, .verbose, .help, .version]

/-- The long name of a switch. -/
def long : Switch → String
  | .list => "list"
  | .verbose => "verbose"
  | .help => "help"
  | .version => "version"

/-- The letter of a switch. -/
def short? : Switch → Option Char
  | .list => none
  | .verbose => some 'v'
  | .help => some 'h'
  | .version => some 'V'

/-- The switch in a message. -/
def display (s : Switch) : String := "--" ++ s.long

end Switch

/-- Why a command line cannot be used. -/
inductive UsageError where
  | unexpectedArgument (argument : String)
  | missingValue (option : String)
  | repeated (option : String)
  | unexpectedValue (value option : String)
  | invalidValue (value option reason : String)
  deriving Repr, DecidableEq

/-- The sentence for an error. -/
def UsageError.message : UsageError → String
  | .unexpectedArgument argument => "unexpected argument '" ++ argument ++ "' found"
  | .missingValue option => "a value is required for '" ++ option ++ "' but none was supplied"
  | .repeated option => "the argument '" ++ option ++ "' cannot be used multiple times"
  | .unexpectedValue value option =>
    "unexpected value '" ++ value ++ "' for '" ++ option ++ "' found; no more were expected"
  | .invalidValue value option reason =>
    "invalid value '" ++ value ++ "' for '" ++ option ++ "': " ++ reason

/-- The settings that options or the environment give. -/
structure Overrides where
  config : Option String := none
  buildName : Option String := none
  endpoint : Option String := none
  channel : Option Channel := none
  matchMode : Option MatchMode := none
  groupPolicy : Option GroupPolicy := none
  output : Option String := none
  suitesDir : Option String := none
  deriving Repr, DecidableEq

namespace Overrides

/-- Is a setting given? -/
def has (o : Overrides) : Key → Bool
  | .config => o.config.isSome
  | .buildName => o.buildName.isSome
  | .endpoint => o.endpoint.isSome
  | .channel => o.channel.isSome
  | .matchMode => o.matchMode.isSome
  | .groupPolicy => o.groupPolicy.isSome
  | .output => o.output.isSome
  | .suitesDir => o.suitesDir.isSome

/-- The value that a text names. -/
def named {α : Type} (k : Key) (values : List (String × α)) (text : String) : Except UsageError α :=
  (choose values text).mapError fun e => .invalidValue text k.display e.message

/-- Gives a setting the value that a text writes. -/
def set (o : Overrides) (k : Key) (text : String) : Except UsageError Overrides :=
  if k.isPath && text = "" then .error (.missingValue k.display)
  else
    match k with
    | .config => .ok { o with config := some text }
    | .buildName => .ok { o with buildName := some text }
    | .endpoint => .ok { o with endpoint := some text }
    | .channel => (named k Channel.values text).map ({ o with channel := some · })
    | .matchMode => (named k MatchMode.values text).map ({ o with matchMode := some · })
    | .groupPolicy => (named k GroupPolicy.values text).map ({ o with groupPolicy := some · })
    | .output => .ok { o with output := some text }
    | .suitesDir => .ok { o with suitesDir := some text }

end Overrides

/-- The configuration with the settings that are given. -/
def Config.override (c : Config) (o : Overrides) : Config :=
  { c with
    buildName := o.buildName.getD c.buildName
    endpoint := o.endpoint.getD c.endpoint
    channel := o.channel.getD c.channel
    matchMode := o.matchMode.getD c.matchMode
    groupPolicy := o.groupPolicy.getD c.groupPolicy
    outputDir := o.output.getD c.outputDir
    suitesDir := o.suitesDir <|> c.suitesDir }

/-- What a command line says. -/
structure CommandLine where
  overrides : Overrides := {}
  list : Bool := false
  verbose : Bool := false
  targets : List String := []
  deriving Repr, DecidableEq

/-- What a command line asks for. -/
inductive Request where
  | help
  | version
  | run (c : CommandLine)
  deriving Repr, DecidableEq

namespace CommandLine

/-- What was read of a command line. -/
structure Progress where
  line : CommandLine := {}
  /-- An option that was begun, with the value that the next argument gave it. -/
  pending : Option (Key × Option String) := none
  /-- Did two hyphens end the options? -/
  onlyTargets : Bool := false
  deriving Repr, DecidableEq

/-- A step of reading: it goes on, or the command line asks for something that needs no more
reading. -/
abbrev Step := Except UsageError (Progress ⊕ Request)

namespace Progress

/-- Gives a key the value of its option, which may stand there once. -/
def give (p : Progress) (k : Key) (text : String) : Except UsageError Progress :=
  if p.line.overrides.has k then .error (.repeated k.display)
  else (p.line.overrides.set k text).map fun o => { p with line := { p.line with overrides := o } }

/-- Brings the option that was begun to its end. -/
def settle (p : Progress) : Except UsageError Progress :=
  match p.pending with
  | none => .ok p
  | some (k, none) => .error (.missingValue k.display)
  | some (k, some text) => { p with pending := none }.give k text

/-- Turns a switch on, which may stand there once. -/
def turnOn (p : Progress) (s : Switch) : Step := do
  let p ← p.settle
  match s with
  | .help => return .inr .help
  | .version => return .inr .version
  | .list =>
    if p.line.list then throw (.repeated s.display)
    else return .inl { p with line := { p.line with list := true } }
  | .verbose =>
    if p.line.verbose then throw (.repeated s.display)
    else return .inl { p with line := { p.line with verbose := true } }

/-- Begins an option, with a value or without. -/
def begin (p : Progress) (k : Key) (value : Option String) : Except UsageError Progress := do
  let p ← p.settle
  match value with
  | some text => p.give k text
  | none => return { p with pending := some (k, none) }

/-- Reads an argument that is no option. -/
def plain (p : Progress) (argument : String) : Except UsageError Progress :=
  match p.onlyTargets, p.pending with
  | false, some (k, none) => .ok { p with pending := some (k, some argument) }
  | _, _ => p.settle.map fun p =>
    { p with line := { p.line with targets := p.line.targets ++ [argument] } }

/-- Reads an argument with two hyphens and a name. -/
def long (p : Progress) (s : List Char) : Step :=
  let name := String.ofList (s.takeWhile (· ≠ '='))
  let value := match s.dropWhile (· ≠ '=') with
    | _ :: text => some (String.ofList text)
    | [] => none
  match Key.all.find? (·.long == name), Switch.all.find? (·.long == name) with
  | some k, _ => (p.begin k value).map .inl
  | none, some sw =>
    match value with
    | some text => .error (.unexpectedValue text sw.display)
    | none => p.turnOn sw
  | none, none => .error (.unexpectedArgument ("--" ++ name))

/-- Reads the letters of an argument with one hyphen. -/
def letters (p : Progress) : List Char → Step
  | [] => .ok (.inl p)
  | c :: rest =>
    match Key.all.find? (·.short? == some c), Switch.all.find? (·.short? == some c) with
    | some k, _ =>
      let value := match rest with
        | [] => none
        | '=' :: text => some (String.ofList text)
        | text => some (String.ofList text)
      (p.begin k value).map .inl
    | none, some sw => do
      match ← p.turnOn sw with
      | .inl p => p.letters rest
      | .inr r => return .inr r
    | none, none => .error (.unexpectedArgument (String.ofList ['-', c]))

/-- Reads an argument. -/
def argument (p : Progress) (text : String) : Step :=
  match p.onlyTargets, text.toList with
  | false, ['-', '-'] => .ok (.inl { p with onlyTargets := true })
  | false, '-' :: '-' :: name => p.long name
  | false, '-' :: c :: rest => p.letters (c :: rest)
  | _, _ => (p.plain text).map .inl

end Progress

/-- Reads arguments. -/
def readArguments : List String → Progress → Step
  | [], p => p.settle.map .inl
  | a :: rest, p => do
    match ← p.argument a with
    | .inl p => readArguments rest p
    | .inr r => return .inr r

/-- Adds the settings that only the environment gives. -/
def readEnvironment (environment : String → Option String) :
    List Key → Overrides → Except UsageError Overrides
  | [], o => .ok o
  | k :: rest, o => do
    match environment k.variableName with
    | some text => readEnvironment environment rest (← if o.has k then .ok o else o.set k text)
    | none => readEnvironment environment rest o

/-- What the arguments and the environment ask for. -/
def read (arguments : List String) (environment : String → Option String) :
    Except UsageError Request := do
  match ← readArguments arguments {} with
  | .inr r => return r
  | .inl p =>
    let o ← readEnvironment environment Key.all p.line.overrides
    return .run { p.line with overrides := o }

/-- The path of the file of settings. -/
def configPath (c : CommandLine) : String := c.overrides.config.getD "halmock.toml"

/-- The configuration: that of the file, with the settings that are given. It is checked before and
after. -/
def effectiveConfig (c : CommandLine) (t : FileTree) : Except Failure Config := do
  let fromFile ← Config.load t c.configPath
  let config := fromFile.override c.overrides
  config.check.mapError .config
  return config

end CommandLine

end Conformance
