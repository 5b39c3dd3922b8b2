import LineArithmetic.Text.Numeral
import LineArithmetic.Text.Quoted

/-!
# Command line arguments

The arguments of the command are a path and options.  A long option may be
shortened to any start of its name that fits no other option, and its value
may follow it after an equals sign or as the next argument.  Two dashes alone
end the options.

`classify` says of each argument whether it is an option, and finds the
ambiguous ones before anything else is looked at; `consume` then takes the
arguments in order.
-/

namespace LineArithmetic.Command

open Text

/-- What an option does. -/
inductive Effect where
  | help
  | version
  | verbosity
  | settings
  | searchPath
  | traceback
  | noColor
  | forceColor
  | skipChecks
  | tree
  | failOnError
  deriving DecidableEq, Repr

/-- An option: all its names and what it does. -/
structure OptionSpec where
  names : List String
  effect : Effect
  deriving DecidableEq, Repr

/-- The options of the command, in the order in which messages list them. -/
def specs : List OptionSpec :=
  [⟨["-h", "--help"], .help⟩, ⟨["--version"], .version⟩, ⟨["-v", "--verbosity"], .verbosity⟩,
    ⟨["--settings"], .settings⟩, ⟨["--pythonpath"], .searchPath⟩, ⟨["--traceback"], .traceback⟩,
    ⟨["--no-color"], .noColor⟩, ⟨["--force-color"], .forceColor⟩,
    ⟨["--skip-checks"], .skipChecks⟩, ⟨["--tree"], .tree⟩, ⟨["--fail-on-error"], .failOnError⟩]

/-- All names of options, each with its option. -/
def optionNames : List (String × OptionSpec) :=
  specs.flatMap fun spec => spec.names.map fun name => (name, spec)

/-- Whether an option takes a value. -/
def Effect.takesValue : Effect → Bool
  | .verbosity | .settings | .searchPath => true
  | _ => false

/-- What is wrong with the arguments. -/
inductive UsageFault where
  | unrecognized (arguments : List String)
  | ambiguous (argument : String) (names : List String)
  | ignoredValue (spec : OptionSpec) (value : String)
  | missingValue (spec : OptionSpec)
  | invalidInteger (spec : OptionSpec) (value : String)
  | invalidChoice (spec : OptionSpec) (value : Int)
  deriving DecidableEq, Repr

/-- The levels of verbosity. -/
def verbosityLevels : List Int := [0, 1, 2, 3]

/-- A fault of one option in words. -/
def ofOption (spec : OptionSpec) (text : String) : String :=
  "argument " ++ "/".intercalate spec.names ++ ": " ++ text

/-- The fault in words. -/
def UsageFault.message : UsageFault → String
  | .unrecognized arguments => "unrecognized arguments: " ++ " ".intercalate arguments
  | .ambiguous argument names =>
    "ambiguous option: " ++ argument ++ " could match " ++ ", ".intercalate names
  | .ignoredValue spec value => ofOption spec ("ignored explicit argument " ++ quoted value)
  | .missingValue spec => ofOption spec "expected one argument"
  | .invalidInteger spec value => ofOption spec ("invalid int value: " ++ quoted value)
  | .invalidChoice spec value =>
    ofOption spec ("invalid choice: " ++ toString value ++ " (choose from " ++
      ", ".intercalate (verbosityLevels.map toString) ++ ")")

/-! ## Telling options from other arguments -/

/-- The argument that ends the options. -/
def endMark : String := "--"

/-- An option as it is written: the name that was meant and the value in the
same argument, behind an equals sign or directly behind the letter of the
option. -/
structure Written where
  name : String
  spec : OptionSpec
  value : Option String
  deriving DecidableEq, Repr

/-- What an argument is. -/
inductive Argument where
  | plain
  /-- Two dashes alone. -/
  | endOfOptions
  | option (written : Written)
  | unknownOption
  deriving DecidableEq, Repr

/-- What stands in front of the first equals sign and what stands behind it. -/
def splitEquals (argument : String) : Option (String × String) :=
  if argument.toList.contains '=' then
    some (String.ofList (argument.toList.takeWhile (· != '=')),
      String.ofList ((argument.toList.dropWhile (· != '=')).drop 1))
  else none

/-- The option of a full name. -/
def named? (name : String) : Option OptionSpec :=
  (optionNames.find? fun entry => entry.1 = name).map (·.2)

/-- The options that a shortened name can mean.  After one dash a single letter
names the option, and what follows it is the value. -/
def meanings (argument : String) : List Written :=
  if argument.startsWith "--" then
    let (name, value) := match splitEquals argument with
      | some (name, value) => (name, some value)
      | none => (argument, none)
    optionNames.filterMap fun entry =>
      if entry.1.startsWith name then some ⟨entry.1, entry.2, value⟩ else none
  else
    optionNames.filterMap fun entry =>
      if entry.1.toList = argument.toList.take 2 then
        some ⟨entry.1, entry.2, some (String.ofList (argument.toList.drop 2))⟩
      else if entry.1.startsWith argument then some ⟨entry.1, entry.2, none⟩
      else none

/-- Whether a text is made of decimal digits of any script. -/
def isDigits (cs : List Char) : Bool :=
  !cs.isEmpty && cs.all fun c => (decimalDigit? c).isSome

/-- Whether an argument is a negative number, which no option looks like: digits
behind the dash, the last of them perhaps behind a point.  A line feed at the
end is no part of it. -/
def isNegativeNumber (argument : String) : Bool :=
  match argument.toList with
  | '-' :: cs =>
    let cs := if cs.getLast? = some '\n' then cs.dropLast else cs
    isDigits cs || match cs.dropWhile fun c => (decimalDigit? c).isSome with
      | '.' :: fraction => isDigits fraction
      | _ => false
  | _ => false

/-- What one argument is, in front of two dashes alone. -/
def classifyOne (argument : String) : Except UsageFault Argument :=
  if ¬ argument.startsWith "-" then .ok .plain
  else if argument = endMark then .ok .endOfOptions
  else match named? argument with
    | some spec => .ok (.option ⟨argument, spec, none⟩)
    | none =>
      if argument = "-" then .ok .plain
      else match (splitEquals argument).bind fun parts =>
          (named? parts.1).map fun spec => (⟨parts.1, spec, some parts.2⟩ : Written) with
        | some written => .ok (.option written)
        | none =>
          match meanings argument with
          | [written] => .ok (.option written)
          | _ :: _ :: _ =>
            .error (.ambiguous argument ((meanings argument).map Written.name))
          | [] =>
            if isNegativeNumber argument || argument.toList.contains ' ' then .ok .plain
            else .ok .unknownOption

/-- What each argument is; behind two dashes alone there are no options. -/
def classify : List String → Except UsageFault (List (String × Argument))
  | [] => .ok []
  | argument :: rest =>
    match classifyOne argument with
    | .error fault => .error fault
    | .ok .endOfOptions =>
      .ok ((argument, .endOfOptions) :: rest.map fun other => (other, .plain))
    | .ok kind => (classify rest).map ((argument, kind) :: ·)

/-! ## Taking the arguments -/

/-- What the arguments ask for. -/
structure Arguments where
  /-- Where the document is; standard input if no path is given. -/
  path : Option String
  tree : Bool
  failOnError : Bool
  traceback : Bool
  noColor : Bool
  forceColor : Bool
  help : Bool
  version : Bool
  unrecognized : List String
  deriving DecidableEq, Repr

/-- No arguments. -/
def Arguments.none : Arguments :=
  ⟨Option.none, false, false, false, false, false, false, false, []⟩

/-- The arguments with one more that does not fit. -/
def Arguments.refuse (a : Arguments) (argument : String) : Arguments :=
  { a with unrecognized := a.unrecognized ++ [argument] }

/-- An option that takes no value. -/
def Arguments.set (a : Arguments) : Effect → Arguments
  | .help => { a with help := true }
  | .version => { a with version := true }
  | .traceback => { a with traceback := true }
  | .noColor => { a with noColor := true }
  | .forceColor => { a with forceColor := true }
  | .tree => { a with tree := true }
  | .failOnError => { a with failOnError := true }
  | _ => a

/-- Checks the value of an option.  Only the verbosity is restricted, and two
dashes are no value but are let pass. -/
def checkValue (spec : OptionSpec) (value : String) : Except UsageFault Unit :=
  if spec.effect = .verbosity ∧ value ≠ endMark then
    match readInteger value with
    | .error _ => .error (.invalidInteger spec value)
    | .ok n => if verbosityLevels.contains n then .ok () else .error (.invalidChoice spec n)
  else .ok ()

/-- Checks what is joined to the letter of an option without value: letters of
further options, until one takes the rest, or an argument that follows, as its
value. -/
def checkLetters (followed : Bool) (spec : OptionSpec) : List Char → Except UsageFault Unit
  | [] => .error (.ignoredValue spec "")
  | letter :: rest =>
    match named? (String.ofList ['-', letter]) with
    | none => .error (.ignoredValue spec (String.ofList (letter :: rest)))
    | some next =>
      if next.effect.takesValue then
        if rest.isEmpty && !followed then .error (.missingValue next) else .ok ()
      else if rest.isEmpty then .ok ()
      else checkLetters followed next rest

/-- Checks what is joined to an option without value.  Only letters can be
joined to one another. -/
def checkJoined (followed : Bool) (written : Written) (value : String) :
    Except UsageFault Unit :=
  if written.name.startsWith "--" then .error (.ignoredValue written.spec value)
  else checkLetters followed written.spec value.toList

/-- Whether the next argument can be the value of an option. -/
def followedByValue : List (String × Argument) → Bool
  | (_, .plain) :: _ => true
  | _ => false

/-- Whether an option ends the reading of arguments. -/
def Effect.isFinal : Effect → Bool
  | .help | .version => true
  | _ => false

/-- Takes the arguments in order. -/
def consume (a : Arguments) : List (String × Argument) → Except UsageFault Arguments
  | [] => .ok a
  | (argument, .unknownOption) :: rest => consume (a.refuse argument) rest
  | (argument, .plain) :: rest =>
    if a.path.isSome then consume (a.refuse argument) rest
    else
      let found := { a with path := some argument }
      match rest with
      | (_, .endOfOptions) :: rest => consume found rest
      | rest => consume found rest
  | (argument, .endOfOptions) :: rest =>
    if a.path.isSome then consume (a.refuse argument) rest else consume a rest
  | (_, .option written) :: rest =>
    let spec := written.spec
    match spec.effect.takesValue, written.value with
    | true, some value =>
      match checkValue spec value with
      | .error fault => .error fault
      | .ok () => consume a rest
    | true, none =>
      match rest with
      | (value, .plain) :: rest =>
        match checkValue spec value with
        | .error fault => .error fault
        | .ok () => consume a rest
      | _ => .error (.missingValue spec)
    | false, none =>
      if spec.effect.isFinal then .ok (a.set spec.effect)
      else consume (a.set spec.effect) rest
    | false, some value =>
      (checkJoined (followedByValue rest) written value).map fun _ => a.set spec.effect

/-- Reads the arguments of the command. -/
def readArguments (arguments : List String) : Except UsageFault Arguments :=
  match classify arguments with
  | .error fault => .error fault
  | .ok classified =>
    match consume .none classified with
    | .error fault => .error fault
    | .ok a =>
      if a.help || a.version || a.unrecognized.isEmpty then .ok a
      else .error (.unrecognized a.unrecognized)

end LineArithmetic.Command
