import FrameViewer.Notice
import FrameViewer.Settings
import FrameViewer.Text.Terminal

/-! The command line: one program to show, and four options with a value each. A value is read
when the next argument settles it, so that the first fault from the left is told. -/

namespace FrameViewer.CommandLine

inductive Target where
  | rom
  | throttle
  | backend
  | scale
  | logLevel
  deriving DecidableEq, Repr

/-- How messages name a target. -/
def Target.usage : Target → String
  | rom => "[ROM]"
  | throttle => "--throttle-us <THROTTLE_US>"
  | backend => "--backend <BACKEND>"
  | scale => "--scale <SCALE>"
  | logLevel => "--log-level <LOG_LEVEL>"

structure Draft where
  rom : Option String := none
  throttle : Option Nat := none
  preference : Option Preference := none
  scale : Option Nat := none
  level : Option Level := none

/-- The values of a command line, with defaults for those not given. -/
structure Options where
  rom : Option String := none
  throttle : Nat := 50
  preference : Preference := .auto
  scale : Nat := 10
  level : Level := .warn

inductive Stop where
  | help
  | version
  /-- No such option, or one argument too many. -/
  | unknown (arg : String)
  | missing (target : Target)
  | invalid (target : Target) (value : String) (reason : String)
  | repeated (target : Target)
  /-- A value attached to an option that takes none. -/
  | unneeded (option : String) (value : String)
  deriving DecidableEq, Repr

def helpText : String :=
  String.join
    ["Show a stepped engine's monochrome framebuffer\n",
     "\n",
     "Usage: chipview [OPTIONS] [ROM]\n",
     "\n",
     "Arguments:\n",
     "  [ROM]  ROM to load at startup; a built-in demo plays when omitted\n",
     "\n",
     "Options:\n",
     "      --throttle-us <THROTTLE_US>  ",
     "Pause between engine steps, in microseconds (0 runs flat out) [default: 50]\n",
     "      --backend <BACKEND>          ",
     "Which graphics tiers to try: auto, modern or legacy [default: auto]\n",
     "      --scale <SCALE>              ",
     "Window size as a multiple of the framebuffer [default: 10]\n",
     "      --log-level <LOG_LEVEL>      [default: warn]\n",
     "  -h, --help                       Print help\n",
     "  -V, --version                    Print version\n"]

def versionText : String := "chipview 0.1.0\n"

/-- The spans of an error: its message, the last span of which runs on to the option that tells
more. -/
def errorSpans (message : List String) (last : String) : List String :=
  "error:" :: message ++ [last ++ "\n\nFor more information, try '", "--help", "'.\n"]

namespace Stop

/-- The kind of a stop in reports. -/
def name : Stop → String
  | help => "DisplayHelp"
  | version => "DisplayVersion"
  | unknown _ => "UnknownArgument"
  | missing _ => "InvalidValue"
  | invalid .. => "ValueValidation"
  | repeated _ => "ArgumentConflict"
  | unneeded .. => "TooManyValues"

/-- The text in spans. A terminal takes up each of them afresh, as what stands out in an error is
set off from the rest. -/
def spans : Stop → List String
  | help => [helpText]
  | version => [versionText]
  | unknown arg => errorSpans [" unexpected argument '", arg] "' found"
  | missing target =>
    errorSpans [" a value is required for '", target.usage] "' but none was supplied"
  | invalid target value reason =>
    errorSpans [" invalid value '", value, "' for '", target.usage] ("': " ++ reason)
  | repeated target =>
    errorSpans [" the argument '", target.usage] "' cannot be used multiple times"
  | unneeded option value =>
    errorSpans [" unexpected value '", value, "' for '", option]
      "' found; no more were expected"

def text (stop : Stop) : String :=
  String.join (stop.spans.map Text.visible)

/-- The whole text of help and version, the first line of any other. -/
def message : Stop → String
  | help => helpText
  | version => versionText
  | stop =>
    let line := (stop.text.splitOn "\n").headD ""
    if line.endsWith "\r" then (line.dropEnd 1).toString else line

end Stop

inductive NumberError where
  | empty
  | digit
  | tooLarge
  | tooSmall
  deriving DecidableEq, Repr

def NumberError.message : NumberError → String
  | empty => "cannot parse integer from empty string"
  | digit => "invalid digit found in string"
  | tooLarge => "number too large to fit in target type"
  | tooSmall => "number too small to fit in target type"

/-- Reads digits up to `limit`; the first fault from the left is told. -/
def readDigits (limit : Nat) (overflow : NumberError) :
    Nat → List Char → Except NumberError Nat
  | value, [] => .ok value
  | value, c :: rest =>
    if c.isDigit then
      let value := value * 10 + (c.toNat - 48)
      if limit < value then .error overflow else readDigits limit overflow value rest
    else .error .digit

/-- Reads a whole number between `-least` and `greatest`. A sign stands before a digit; without
negative numbers a minus is no digit. -/
def readNumber (least greatest : Nat) (text : String) : Except NumberError Int :=
  match text.toList with
  | [] => .error .empty
  | ['+'] | ['-'] => .error .digit
  | '+' :: rest => (readDigits greatest .tooLarge 0 rest).map Int.ofNat
  | '-' :: rest =>
    if least = 0 then .error .digit
    else (readDigits least .tooSmall 0 rest).map fun value => -Int.ofNat value
  | cs => (readDigits greatest .tooLarge 0 cs).map Int.ofNat

def readThrottle (text : String) : Except String Nat :=
  match readNumber 0 (UInt64.size - 1) text with
  | .ok value => .ok value.toNat
  | .error e => .error e.message

def readScale (text : String) : Except String Nat :=
  match readNumber (UInt64.size / 2) (UInt64.size / 2 - 1) text with
  | .ok value =>
    if 1 ≤ value ∧ value ≤ 64 then .ok value.toNat
    else .error (toString value ++ " is not in 1..=64")
  | .error e => .error e.message

def readPreference (text : String) : Except String Preference :=
  (Preference.parse text).mapError Preference.unknownMessage

def levels : List (String × Int × Level) :=
  [("error", 1, .error), ("warn", 2, .warn), ("info", 3, .info), ("debug", 4, .debug),
   ("trace", 5, .trace)]

/-- Reads a level by its name in any ASCII case or by its number. -/
def readLevel (text : String) : Except String Level :=
  let lowered := text.map Char.toLower
  let number := (readNumber 0 (UInt64.size - 1) text).toOption
  match levels.find? fun (name, n, _) => name == lowered || number == some n with
  | some (_, _, level) => .ok level
  | none =>
    .error ("error parsing level: expected one of \"error\", \"warn\", \"info\", \"debug\", " ++
      "\"trace\", or a number 1-5")

/-- Stores the value of an option that has none yet. -/
def store {α : Type} (target : Target) (before : Option α) (value : String)
    (reader : String → Except String α) (put : Option α → Draft) : Except Stop Draft :=
  if before.isSome then .error (.repeated target)
  else
    match reader value with
    | .ok x => .ok (put (some x))
    | .error reason => .error (.invalid target value reason)

def assign (draft : Draft) (target : Target) (value : String) : Except Stop Draft :=
  match target with
  | .rom =>
    if value = "" then .error (.missing .rom) else .ok { draft with rom := some value }
  | .throttle =>
    store target draft.throttle value readThrottle fun x => { draft with throttle := x }
  | .backend =>
    store target draft.preference value readPreference fun x => { draft with preference := x }
  | .scale => store target draft.scale value readScale fun x => { draft with scale := x }
  | .logLevel => store target draft.level value readLevel fun x => { draft with level := x }

structure State where
  draft : Draft := {}
  /-- What was named last, and its value once it came. -/
  pending : Option (Target × Option String) := none
  /-- After a lone `--` nothing is an option. -/
  escaped : Bool := false
  romSeen : Bool := false

def State.settle (s : State) : Except Stop State :=
  match s.pending with
  | none => .ok s
  | some (target, none) => .error (.missing target)
  | some (target, some value) => do
    let draft ← assign s.draft target value
    return { s with draft, pending := none }

def optionTarget (name : String) : Option Target :=
  if name = "throttle-us" then some .throttle
  else if name = "backend" then some .backend
  else if name = "scale" then some .scale
  else if name = "log-level" then some .logLevel
  else none

def splitValue (text : String) : String × Option String :=
  match text.toList.span (· ≠ '=') with
  | (name, []) => (String.ofList name, none)
  | (name, _ :: value) => (String.ofList name, some (String.ofList value))

def afterSettling (s : State) (stop : Stop) : Except Stop State := do
  let _ ← s.settle
  throw stop

/-- An argument that begins with two dashes, given without them. -/
def readLong (s : State) (text : String) : Except Stop State :=
  let (name, value) := splitValue text
  match optionTarget name with
  | some target => do
    let s ← s.settle
    let named := { s with pending := some (target, value) }
    if value.isSome then named.settle else return named
  | none =>
    let flag := if name = "help" then some Stop.help
      else if name = "version" then some Stop.version else none
    match flag, value with
    | some _, some value => .error (.unneeded ("--" ++ name) value)
    | some stop, none => afterSettling s stop
    | none, _ => .error (.unknown ("--" ++ name))

/-- An argument that begins with one dash, by the letter after it. -/
def readShort (s : State) (letter : Char) : Except Stop State :=
  if letter = 'h' then afterSettling s .help
  else if letter = 'V' then afterSettling s .version
  else .error (.unknown ("-" ++ letter.toString))

def readPositional (s : State) (arg : String) : Except Stop State :=
  if s.romSeen then .error (.unknown arg)
  else do
    let s ← s.settle
    return { s with pending := some (.rom, some arg), romSeen := true }

def readArgument (s : State) (arg : String) : Except Stop State :=
  if s.escaped then readPositional s arg
  else
    match arg.toList with
    | ['-', '-'] => .ok { s with escaped := true }
    | '-' :: '-' :: rest => readLong s (String.ofList rest)
    | '-' :: letter :: _ => readShort s letter
    | _ =>
      match s.pending with
      | some (target, none) => .ok { s with pending := some (target, some arg) }
      | _ => readPositional s arg

/-- The options that the arguments give, or the first reason to stop. -/
def parse (args : List String) : Except Stop Options := do
  let s ← args.foldlM readArgument {}
  let s ← s.settle
  let defaults : Options := {}
  return {
    rom := s.draft.rom
    throttle := s.draft.throttle.getD defaults.throttle
    preference := s.draft.preference.getD defaults.preference
    scale := s.draft.scale.getD defaults.scale
    level := s.draft.level.getD defaults.level }

/-- A program that could not be read, and why. -/
structure Unreadable where
  path : String
  reason : FileError
  deriving DecidableEq, Repr

def Unreadable.message (e : Unreadable) : String :=
  "couldn't read rom " ++ e.path

/-- The settings that the options stand for; `read` gives the bytes at a path. -/
def Options.settings (options : Options) (read : String → Except FileError Bytes) :
    Except Unreadable Settings := do
  let rom ← match options.rom with
    | none => pure Player.demo
    | some path =>
      match read path with
      | .ok bytes => pure { name := Path.fileName path, bytes }
      | .error reason => throw { path, reason }
  return {
    rom
    loop := LoopConfig.ofThrottle options.throttle
    preference := options.preference
    scale := options.scale }

end FrameViewer.CommandLine
