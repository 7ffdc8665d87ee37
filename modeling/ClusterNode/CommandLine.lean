/-!
# The command line

Options come in any order, each at most once. A value follows its option, or is
attached to it: `--listen=A`, `-l=A` or `-lA`. A value that starts with a dash has
to be attached. What an option says is checked when the next one is read, or at the
end, so that of two mistakes in a row an unknown option comes first.
-/

namespace ClusterNode

/-- An option that takes a value. -/
inductive ValueOption where
  | config
  | nodename
  | listen
  | configDir
  | varDir
  | logLevel
  deriving DecidableEq, Repr

/-- What the command line says. -/
structure Arguments where
  /-- The settings file. -/
  config : String
  nodename : Option String
  listen : Option String
  configDir : Option String
  varDir : Option String
  logLevel : String
  jsonLogs : Bool
  deriving DecidableEq, Repr

/-- Why a command line starts no node. -/
inductive ArgumentError where
  | displayHelp
  | displayVersion
  | unknownArgument
  | invalidValue
  | argumentConflict
  | tooManyValues
  deriving DecidableEq, Repr

namespace ArgumentError

/-- The name of an error. -/
def name : ArgumentError → String
  | .displayHelp => "DisplayHelp"
  | .displayVersion => "DisplayVersion"
  | .unknownArgument => "UnknownArgument"
  | .invalidValue => "InvalidValue"
  | .argumentConflict => "ArgumentConflict"
  | .tooManyValues => "TooManyValues"

end ArgumentError

namespace CommandLine

/-- An option of any kind. -/
inductive Flag where
  | value (option : ValueOption)
  | jsonLogs
  | help
  | version

/-- The options by their long names. -/
def longFlag? (name : String) : Option Flag :=
  [("config", Flag.value .config), ("nodename", .value .nodename), ("listen", .value .listen),
    ("config-dir", .value .configDir), ("var-dir", .value .varDir),
    ("log-level", .value .logLevel), ("json-logs", .jsonLogs), ("help", .help),
    ("version", .version)].lookup name

/-- The options by their letters. -/
def shortFlag? (c : Char) : Option Flag :=
  [('c', Flag.value .config), ('l', .value .listen), ('h', .help), ('V', .version)].lookup c

/-- What was read so far. -/
structure State where
  values : List (ValueOption × String)
  jsonLogs : Bool
  /-- The option read last, and its value if it came as an argument of its own. -/
  pending : Option (ValueOption × Option String)

/-- Take the value of an option. -/
def accept (s : State) (o : ValueOption) (v : String) : Except ArgumentError State :=
  if (s.values.lookup o).isSome then .error .argumentConflict
  else if v = "" ∧ (o = .configDir ∨ o = .varDir) then .error .invalidValue
  else .ok { s with values := (o, v) :: s.values }

/-- Take the option read last. -/
def settle (s : State) : Except ArgumentError State :=
  match s.pending with
  | none => .ok s
  | some (_, none) => .error .invalidValue
  | some (o, some v) => accept { s with pending := none } o v

/-- Read an option with the value attached to it. -/
def readFlag (s : State) (f : Flag) (attached : Option String) : Except ArgumentError State := do
  match f, attached with
  | .value o, some v => accept (← settle s) o v
  | .value o, none => .ok { ← settle s with pending := some (o, none) }
  | _, some _ => .error .tooManyValues
  | .jsonLogs, none =>
    let s ← settle s
    if s.jsonLogs then .error .argumentConflict else .ok { s with jsonLogs := true }
  | .help, none => do
    let _ ← settle s
    .error .displayHelp
  | .version, none => do
    let _ ← settle s
    .error .displayVersion

/-- Read an option spelled with two dashes. -/
def readLong (s : State) (body : List Char) : Except ArgumentError State :=
  let name := String.ofList (body.takeWhile (· != '='))
  let attached := match body.dropWhile (· != '=') with
    | [] => none
    | _ :: v => some (String.ofList v)
  match longFlag? name with
  | some f => readFlag s f attached
  | none => .error .unknownArgument

/-- The value attached to a letter. -/
def attachedValue : List Char → Option String
  | [] => none
  | '=' :: v => some (String.ofList v)
  | v => some (String.ofList v)

/-- Read options spelled with one dash. -/
def readShort (s : State) : List Char → Except ArgumentError State
  | [] => .ok s
  | c :: rest =>
    match shortFlag? c with
    | none => .error .unknownArgument
    | some (.value o) => readFlag s (.value o) (attachedValue rest)
    | some f => do readShort (← readFlag s f none) rest

/-- Read an argument that is no option: it can only be the value that an option
waits for. -/
def readValue (s : State) (arg : String) : Except ArgumentError State :=
  match s.pending with
  | some (o, none) => .ok { s with pending := some (o, some arg) }
  | _ => .error .unknownArgument

/-- Read arguments in order. -/
def readAll (s : State) : List String → Except ArgumentError State
  | [] => .ok s
  | arg :: rest =>
    match arg.toList with
    | ['-', '-'] => if rest.isEmpty then .ok s else .error .unknownArgument
    | '-' :: '-' :: body => do readAll (← readLong s body) rest
    | '-' :: c :: body => do readAll (← readShort s (c :: body)) rest
    | _ => do readAll (← readValue s arg) rest

/-- What a command line says, without the name of the program. -/
def parse (args : List String) : Except ArgumentError Arguments := do
  let s ← settle (← readAll ⟨[], false, none⟩ args)
  .ok {
    config := (s.values.lookup .config).getD "/etc/warden/wardend.toml"
    nodename := s.values.lookup .nodename
    listen := s.values.lookup .listen
    configDir := s.values.lookup .configDir
    varDir := s.values.lookup .varDir
    logLevel := (s.values.lookup .logLevel).getD "info"
    jsonLogs := s.jsonLogs }

end CommandLine

end ClusterNode
