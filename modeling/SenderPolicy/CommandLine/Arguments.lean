import SenderPolicy.Text.Basic

/-!
# Arguments of the command line

Arguments are read from left to right. A setting takes a value, attached after an equals
sign or as the next argument; a switch takes none. A value that is the next argument is
looked at only when another setting or switch is met, or at the end, so of two mistakes
the one that is met first in this order is reported.
-/

namespace SenderPolicy.CommandLine

/-- Arguments with a value. -/
inductive Setting where
  | ip
  | sender
  | helo
  | timeout
  | defaultExplanation
  | override
  | fallback
  | format
deriving DecidableEq, Repr

/-- Arguments without a value. -/
inductive Switch where
  | bestGuess
  | trustedForwarder
  | strictTxt
  | staged
  | help
deriving DecidableEq, Repr

namespace Setting

/-- All settings. -/
def all : List Setting :=
  [.ip, .sender, .helo, .timeout, .defaultExplanation, .override, .fallback, .format]

/-- The name of a setting after its two hyphens. -/
def name : Setting → Text
  | .ip => "ip".toList
  | .sender => "sender".toList
  | .helo => "helo".toList
  | .timeout => "timeout".toList
  | .defaultExplanation => "default-explanation".toList
  | .override => "override".toList
  | .fallback => "fallback".toList
  | .format => "format".toList

/-- The setting may be given several times. -/
def isRepeatable : Setting → Bool
  | .override | .fallback => true
  | _ => false

end Setting

namespace Switch

/-- All switches. -/
def all : List Switch :=
  [.bestGuess, .trustedForwarder, .strictTxt, .staged, .help]

/-- The name of a switch after its two hyphens. -/
def name : Switch → Text
  | .bestGuess => "best-guess".toList
  | .trustedForwarder => "trusted-forwarder".toList
  | .strictTxt => "strict-txt".toList
  | .staged => "staged".toList
  | .help => "help".toList

end Switch

/-- Why arguments are not accepted. -/
inductive UsageError where
  /-- Help was asked for. -/
  | displayHelp
  | missingRequiredArgument
  /-- A setting has no value. -/
  | missingValue
  | unknownArgument
  /-- A setting or switch is given more than once. -/
  | repeatedArgument
  /-- A switch has a value. -/
  | unwantedValue
  /-- The value is no number that can be used. -/
  | invalidNumber
deriving DecidableEq, Repr

/-- What is wrong with arguments; for help, what can be given. -/
def UsageError.message : UsageError → Text
  | .displayHelp =>
      "settings:".toList ++ Setting.all.flatMap (fun setting => " --".toList ++ setting.name)
        ++ "; switches:".toList ++ Switch.all.flatMap (fun switch => " --".toList ++ switch.name)
  | .missingRequiredArgument => "--ip and --helo are required".toList
  | .missingValue => "a value is missing".toList
  | .unknownArgument => "an argument is not known".toList
  | .repeatedArgument => "an argument is given more than once".toList
  | .unwantedValue => "a switch takes no value".toList
  | .invalidNumber => "--timeout takes a number".toList

/-- Accepted arguments. -/
structure Arguments where
  ip : Text
  sender : Text
  helo : Text
  bestGuess : Bool
  trustedForwarder : Bool
  strictTxt : Bool
  timeoutMilliseconds : Option Nat
  defaultExplanation : Option Text
  overrides : List Text
  fallbacks : List Text
  staged : Bool
  format : Text
deriving DecidableEq

/-- The first number that takes more than 64 bits. -/
def numberBound : Nat := 0x10000000000000000

/-- A number of 64 bits in decimal digits, with or without a plus sign. -/
def readNumber? (text : Text) : Option Nat :=
  let digits :=
    match text with
    | '+' :: rest => rest
    | _ => text
  (Text.toNat? digits).filter (· < numberBound)

/-- What has been read of the arguments. -/
structure Reading where
  values : List (Setting × Text) := []
  switches : List Switch := []
  /-- The last setting without an attached value, and its value if it has come. -/
  pending : Option (Setting × Option Text) := none
  /-- Two hyphens alone have ended the settings and switches. -/
  ended : Bool := false
deriving DecidableEq

namespace Reading

/-- Accept the value of a setting. -/
def accept (setting : Setting) (value : Text) (reading : Reading) : Except UsageError Reading :=
  if !setting.isRepeatable && reading.values.any (·.1 = setting) then
    .error .repeatedArgument
  else if setting = .timeout && (readNumber? value).isNone then
    .error .invalidNumber
  else
    .ok { reading with values := reading.values ++ [(setting, value)] }

/-- Accept the value of the pending setting. -/
def resolve (reading : Reading) : Except UsageError Reading :=
  match reading.pending with
  | none => .ok reading
  | some (_, none) => .error .missingValue
  | some (setting, some value) => { reading with pending := none }.accept setting value

/-- Accept a switch. -/
def switchOn (switch : Switch) (reading : Reading) : Except UsageError Reading := do
  let reading ← reading.resolve
  if switch = .help then
    .error .displayHelp
  else if reading.switches.contains switch then
    .error .repeatedArgument
  else
    .ok { reading with switches := reading.switches ++ [switch] }

/-- Read a name after two hyphens, with its attached value. -/
def readLong (name : Text) (value : Option Text) (reading : Reading) :
    Except UsageError Reading :=
  match Setting.all.find? (·.name = name), Switch.all.find? (·.name = name), value with
  | some setting, _, some value => do (← reading.resolve).accept setting value
  | some setting, _, none => do
      return { ← reading.resolve with pending := some (setting, none) }
  | none, some _, some _ => .error .unwantedValue
  | none, some switch, none => reading.switchOn switch
  | none, none, _ => .error .unknownArgument

/-- Read text that is no setting and no switch: a value that is waited for. -/
def readPlain (text : Text) (reading : Reading) : Except UsageError Reading :=
  match reading.pending with
  | some (setting, none) => .ok { reading with pending := some (setting, some text) }
  | _ => .error .unknownArgument

/-- Read one argument. -/
def readArgument (reading : Reading) (argument : Text) : Except UsageError Reading :=
  if reading.ended then
    .error .unknownArgument
  else
    match argument with
    | ['-', '-'] => .ok { reading with ended := true }
    | '-' :: '-' :: long =>
        match Text.splitAtFirst '=' long with
        | some (name, value) => reading.readLong name (some value)
        | none => reading.readLong long none
    | '-' :: 'h' :: _ => reading.switchOn .help
    | '-' :: _ :: _ => .error .unknownArgument
    | plain => reading.readPlain plain

/-- The last value of a setting. -/
def value? (setting : Setting) (reading : Reading) : Option Text :=
  (reading.values.find? (·.1 = setting)).map (·.2)

/-- All values of a setting, in order. -/
def valuesOf (setting : Setting) (reading : Reading) : List Text :=
  (reading.values.filter (·.1 = setting)).map (·.2)

/-- The arguments that have been read, if all required ones are among them. -/
def arguments (reading : Reading) : Except UsageError Arguments :=
  match reading.value? .ip, reading.value? .helo with
  | some ip, some helo =>
      .ok
        { ip
          sender := (reading.value? .sender).getD []
          helo
          bestGuess := reading.switches.contains .bestGuess
          trustedForwarder := reading.switches.contains .trustedForwarder
          strictTxt := reading.switches.contains .strictTxt
          timeoutMilliseconds := (reading.value? .timeout).bind readNumber?
          defaultExplanation := reading.value? .defaultExplanation
          overrides := reading.valuesOf .override
          fallbacks := reading.valuesOf .fallback
          staged := reading.switches.contains .staged
          format := (reading.value? .format).getD "human".toList }
  | _, _ => .error .missingRequiredArgument

end Reading

/-- Read arguments. -/
def Arguments.read (arguments : List Text) : Except UsageError Arguments := do
  let reading ← arguments.foldlM Reading.readArgument {}
  (← reading.resolve).arguments

end SenderPolicy.CommandLine
