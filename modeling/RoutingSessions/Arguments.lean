/-
  RoutingSessions.Arguments — the command line.

  Arguments are taken in order, and the first that decides ends the reading: a help
  option, or one that is not acceptable.  An option's value follows it, or is
  attached to it: after an equals sign, or directly behind a short option.
-/

namespace RoutingSessions

/-! ## What the program is asked to do -/

/-- A command of the program. -/
inductive Invocation where
  /-- Plays back a trace. -/
  | run (config : Option String) (events : String) (settleSeconds : Nat)
  /-- Writes example settings. -/
  | generate (output : String)
  /-- Looks at a settings file. -/
  | validate (config : String)
deriving DecidableEq

/-- A command line that is acceptable. -/
structure Arguments where
  /-- The level of notes to print; that of the settings if there is none. -/
  logLevel : Option String
  invocation : Invocation
deriving DecidableEq

/-- What help is about. -/
inductive Topic where
  | program
  | run
  | generate
  | validate
  | help
deriving DecidableEq

/-- Why there is nothing to run. -/
inductive Stop where
  | help (topic : Topic)
  | version
  | misuse
deriving DecidableEq

namespace Arguments

/-! ## Options -/

/-- The kinds of values that options take. -/
inductive Kind where
  | text
  /-- A path, which is not empty. -/
  | path
  /-- A whole number below 2⁶⁴. -/
  | number
deriving DecidableEq

/-- An option that takes a value. -/
structure NamedOption where
  name : String
  letter : Option Char
  kind : Kind

/-- The options of a command. -/
structure Grammar where
  topic : Topic
  options : List NamedOption

/-- The option for the level of notes, which stands anywhere. -/
def logLevelOption : NamedOption := ⟨"log-level", none, .text⟩

/-- The options before the command. -/
def programGrammar : Grammar := ⟨.program, [logLevelOption]⟩

/-- The options for playing back a trace. -/
def runGrammar : Grammar where
  topic := .run
  options := [logLevelOption, ⟨"config", some 'c', .path⟩, ⟨"events", some 'e', .path⟩,
    ⟨"settle-timeout", none, .number⟩]

/-- The options for writing example settings. -/
def generateGrammar : Grammar := ⟨.generate, [logLevelOption, ⟨"output", some 'o', .path⟩]⟩

/-- The options for looking at a settings file. -/
def validateGrammar : Grammar := ⟨.validate, [logLevelOption, ⟨"config", some 'c', .path⟩]⟩

/-! ## Values -/

/-- The number that decimal digits write, after an optional plus sign. -/
def number? (s : String) : Option Nat :=
  let digits := match s.toList with
    | '+' :: cs => cs
    | cs => cs
  if digits.isEmpty || digits.any (fun c => !c.isDigit) then none
  else
    let n := digits.foldl (fun n c => 10 * n + (c.toNat - 48)) 0
    if n < Nat.pow 2 64 then some n else none

/-- The text is a value of the kind. -/
def Kind.accepts (s : String) : Kind → Bool
  | .text => true
  | .path => !s.isEmpty
  | .number => (number? s).isSome

/-- The values given, by the names of their options. -/
abbrev Values := List (String × String)

/-- The value of an option. -/
def Values.get? (name : String) (values : Values) : Option String :=
  (values.find? fun v => v.1 = name).map (·.2)

/-! ## Single arguments -/

/-- An argument by itself. -/
inductive Token where
  /-- Not an option. -/
  | word
  /-- The mark after which there are no options. -/
  | escape
  | help
  | version
  /-- An option, with the value attached to it. -/
  | option (o : NamedOption) (attached : Option String)
  | unknown
deriving Inhabited

/-- What stands before the first equals sign, and what stands behind it. -/
def splitAtEquals : List Char → List Char × Option (List Char)
  | [] => ([], none)
  | '=' :: cs => ([], some cs)
  | c :: cs => (c :: (splitAtEquals cs).1, (splitAtEquals cs).2)

/-- An option by its name. -/
def longToken (g : Grammar) (s : List Char) : Token :=
  let name := String.ofList (splitAtEquals s).1
  let attached := (splitAtEquals s).2.map String.ofList
  if name = "help" && attached.isNone then .help
  else if name = "version" && g.topic = .program && attached.isNone then .version
  else
    match g.options.find? fun o => o.name = name with
    | some o => .option o attached
    | none => .unknown

/-- An option by its letter. -/
def shortToken (g : Grammar) (letter : Char) (behind : List Char) : Token :=
  if letter = 'h' then .help
  else if letter = 'V' && g.topic = .program then .version
  else
    match g.options.find? fun o => o.letter = some letter with
    | some o =>
      .option o (match behind with
        | [] => none
        | '=' :: cs => some (String.ofList cs)
        | cs => some (String.ofList cs))
    | none => .unknown

/-- What an argument is. -/
def token (g : Grammar) (argument : String) : Token :=
  match argument.toList with
  | ['-', '-'] => .escape
  | '-' :: '-' :: cs => longToken g cs
  | ['-'] => .word
  | '-' :: c :: cs => shortToken g c cs
  | _ => .word

/-- The argument is not taken for a value. -/
def looksLikeOption (argument : String) : Bool :=
  match argument.toList with
  | '-' :: _ :: _ => true
  | _ => false

/-! ## Lists of arguments -/

/-- How the options of a command end. -/
inductive Scan where
  /-- There are no more arguments. -/
  | finish (values : Values)
  /-- There is an argument that is not an option. -/
  | word (values : Values) (word : String) (rest : List String)
  | stop (s : Stop)

/-- Takes in a value. -/
def store (o : NamedOption) (value : String) (values : Values) : Option Values :=
  if (values.get? o.name).isNone && o.kind.accepts value then some (values ++ [(o.name, value)])
  else none

/-- Reads options. -/
def scan (g : Grammar) (values : Values) : List String → Scan
  | [] => .finish values
  | argument :: rest =>
    match token g argument with
    | .word => .word values argument rest
    | .escape => if rest.isEmpty then .finish values else .stop .misuse
    | .help => .stop (.help g.topic)
    | .version => .stop .version
    | .unknown => .stop .misuse
    | .option o (some value) =>
      match store o value values with
      | some values => scan g values rest
      | none => .stop .misuse
    | .option o none =>
      match rest with
      | [] => .stop .misuse
      | value :: rest =>
        if looksLikeOption value then .stop .misuse
        else
          match store o value values with
          | some values => scan g values rest
          | none => .stop .misuse

/-- The values of a command that takes options only. -/
def readOptions (g : Grammar) (arguments : List String) : Except Stop Values :=
  match scan g [] arguments with
  | .finish values => .ok values
  | .word _ _ _ => .error .misuse
  | .stop s => .error s

/-- The value of an option that has to be there. -/
def required (name : String) (values : Values) : Except Stop String :=
  match values.get? name with
  | some v => .ok v
  | none => .error .misuse

/-! ## Commands -/

/-- Reads the options for playing back a trace. -/
def readRun (logLevel : Option String) (arguments : List String) : Except Stop Arguments := do
  let values ← readOptions runGrammar arguments
  let events ← required "events" values
  let seconds := ((values.get? "settle-timeout").bind number?).getD 30
  return ⟨(values.get? "log-level").or logLevel, .run (values.get? "config") events seconds⟩

/-- Reads the options for writing example settings. -/
def readGenerate (logLevel : Option String) (arguments : List String) : Except Stop Arguments := do
  let values ← readOptions generateGrammar arguments
  return ⟨(values.get? "log-level").or logLevel,
    .generate ((values.get? "output").getD "prouter.toml")⟩

/-- Reads the options for looking at a settings file. -/
def readValidate (logLevel : Option String) (arguments : List String) : Except Stop Arguments := do
  let values ← readOptions validateGrammar arguments
  return ⟨(values.get? "log-level").or logLevel, .validate (← required "config" values)⟩

/-- What help is asked about. -/
def helpTopic : List String → Stop
  | [] => .help .program
  | ["run"] => .help .run
  | ["gen-config"] => .help .generate
  | ["validate"] => .help .validate
  | ["help"] => .help .help
  | _ => .misuse

/-- Reads the command line. -/
def read (arguments : List String) : Except Stop Arguments :=
  match scan programGrammar [] arguments with
  | .finish _ => .error .misuse
  | .stop s => .error s
  | .word values command rest =>
    let logLevel := values.get? "log-level"
    match command with
    | "run" => readRun logLevel rest
    | "gen-config" => readGenerate logLevel rest
    | "validate" => readValidate logLevel rest
    | "help" => .error (helpTopic rest)
    | _ => .error .misuse

end Arguments

end RoutingSessions
