import StripChart.Config

/-!
# The command line

The program takes options and nothing else. `Options.parse` reads them and
`Options.apply` lays them over a config.

An option with a value takes it after an equals sign or as the next argument. The value
of the first kind is looked at where it stands; a value that stands by itself is looked
at when the next known option comes or the arguments end. An argument that is not
understood is therefore reported before anything that is wrong with a value right in
front of it.
-/

namespace StripChart

/-- What the command line says. -/
structure Options where
  /-- The file that holds the config. -/
  config : Option String := none
  /-- The address of the server. -/
  url : Option String := none
  /-- Channels to plot from the start, each with its tab in front. -/
  plots : List String := []
  /-- How many samples of each channel a new tab remembers. -/
  capacity : Option Nat := none
  /-- Every how many frames a summary is logged. -/
  logEvery : Option Nat := none
  /-- Whether frames must not cross delivery units. -/
  strictFraming : Bool := false
  deriving DecidableEq, Repr

/-- Why the command line does not lead to a run. -/
inductive UsageError
  /-- The argument is no option that is known. -/
  | unknownArgument (argument : String)
  /-- The option wants a value and has none, or an empty one where that says nothing. -/
  | missingValue (option : String)
  /-- The value of the option is not a number. -/
  | notANumber (option value : String)
  /-- The option takes no value and was given one. -/
  | unexpectedValue (option value : String)
  /-- The option may be given only once. -/
  | repeated (option : String)
  /-- The description of the options was asked for. -/
  | helpRequested
  /-- The version of the program was asked for. -/
  | versionRequested
  deriving DecidableEq, Repr

/-- What is said about the command line. -/
def UsageError.message : UsageError → String
  | .unknownArgument argument => s!"unexpected argument '{argument}'"
  | .missingValue option => s!"option '{option}' needs a value"
  | .notANumber option value => s!"invalid value '{value}' for '{option}'"
  | .unexpectedValue option value => s!"unexpected value '{value}' for '{option}'"
  | .repeated option => s!"option '{option}' cannot be used multiple times"
  | .helpRequested => "help requested"
  | .versionRequested => "version requested"

/-! ### The options there are -/

/-- An option that takes a value. -/
inductive ValueOption
  /-- The file that holds the config. -/
  | config
  /-- The address of the server. -/
  | url
  /-- A channel to plot. -/
  | plot
  /-- The usual capacity. -/
  | capacity
  /-- The distance between summaries. -/
  | logEvery
  deriving DecidableEq, Repr

/-- An option that takes no value. -/
inductive Flag
  /-- Frames must not cross delivery units. -/
  | strictFraming
  /-- Show what options there are. -/
  | help
  /-- Show the version. -/
  | version
  deriving DecidableEq, Repr

/-- The name of an option, after its dashes. -/
def ValueOption.name : ValueOption → String
  | .config => "config"
  | .url => "url"
  | .plot => "plot"
  | .capacity => "capacity"
  | .logEvery => "log-every"

/-- The name of a flag, after its dashes. -/
def Flag.name : Flag → String
  | .strictFraming => "strict-framing"
  | .help => "help"
  | .version => "version"

/-- The option with a value that has the name. -/
def ValueOption.ofName? (name : String) : Option ValueOption :=
  [.config, .url, .plot, .capacity, .logEvery].find? fun option => option.name == name

/-- The flag that has the name. -/
def Flag.ofName? (name : String) : Option Flag :=
  [.strictFraming, .help, .version].find? fun flag => flag.name == name

/-! ### Reading one argument -/

/-- What an argument looks like. -/
inductive Argument
  /-- Two dashes and nothing else: no options after this. -/
  | terminator
  /-- A name after two dashes, and what follows an equals sign. -/
  | long (name : String) (value : Option String)
  /-- A letter after one dash, and what follows it. -/
  | short (letter : Char) (rest : String)
  /-- Anything else. -/
  | plain (text : String)
  deriving DecidableEq, Repr

/-- The text before the first occurrence of a character and the text after it. -/
def splitAtFirst (c : Char) (text : String) : String × Option String :=
  let before := text.toList.takeWhile (· != c)
  match text.toList.dropWhile (· != c) with
  | [] => (text, none)
  | _ :: after => (String.ofList before, some (String.ofList after))

/-- Looks at the dashes of an argument. -/
def Argument.ofString (argument : String) : Argument :=
  match argument.toList with
  | ['-', '-'] => .terminator
  | '-' :: '-' :: rest =>
    let (name, value) := splitAtFirst '=' (String.ofList rest)
    .long name value
  | '-' :: letter :: rest => .short letter (String.ofList rest)
  | _ => .plain argument

/-- A natural number of at most 64 bits in decimal digits, a plus sign allowed in
front. -/
def parseNatural? (text : String) : Option Nat :=
  let digits := match text.toList with
    | '+' :: rest => rest
    | chars => chars
  if digits.isEmpty ∨ ¬digits.all Char.isDigit then none
  else
    let value := Decimal.ofDigits digits
    if value < Nat.pow 2 64 then some value else none

namespace Options

/-- The distance between summaries that holds unless another is set. -/
def defaultLogEvery : Nat :=
  120

/-! ### Reading the options -/

/-- An option that wants a value of its own, and the value once it has come. -/
structure Waiting where
  /-- The option. -/
  option : ValueOption
  /-- The argument after it. -/
  value : Option String
  deriving DecidableEq, Repr

/-- Sets an option that can be set once. -/
def setOnce {α : Type} (option : ValueOption) (old : Option α) (value : Except UsageError α) :
    Except UsageError (Option α) :=
  match old with
  | some _ => .error (.repeated option.name)
  | none => value.map some

/-- The number that is the value of an option. -/
def number (option : ValueOption) (value : String) : Except UsageError Nat :=
  match parseNatural? value with
  | some n => .ok n
  | none => .error (.notANumber option.name value)

/-- The path that is the value of an option; an empty one is none. -/
def path (option : ValueOption) (value : String) : Except UsageError String :=
  if value.isEmpty then .error (.missingValue option.name) else .ok value

/-- Gives an option its value. -/
def set (options : Options) (option : ValueOption) (value : String) :
    Except UsageError Options :=
  match option with
  | .config => (setOnce option options.config (path option value)).map fun config =>
      { options with config }
  | .url => (setOnce option options.url (.ok value)).map fun url => { options with url }
  | .plot => .ok { options with plots := options.plots ++ [value] }
  | .capacity => (setOnce option options.capacity (number option value)).map fun capacity =>
      { options with capacity }
  | .logEvery => (setOnce option options.logEvery (number option value)).map fun logEvery =>
      { options with logEvery }

/-- Gives the waiting option its value, if one is waiting. -/
def settle (options : Options) : Option Waiting → Except UsageError Options
  | none => .ok options
  | some ⟨option, none⟩ => .error (.missingValue option.name)
  | some ⟨option, some value⟩ => options.set option value

/-- Takes a flag. -/
def setFlag (options : Options) : Flag → Except UsageError Options
  | .strictFraming =>
    if options.strictFraming then .error (.repeated Flag.strictFraming.name)
    else .ok { options with strictFraming := true }
  | .help => .error .helpRequested
  | .version => .error .versionRequested

/-- Takes one argument that is not the terminator. -/
def take (options : Options) (waiting : Option Waiting) (argument : String) :
    Except UsageError (Options × Option Waiting) :=
  match Argument.ofString argument with
  | .long name value =>
    match ValueOption.ofName? name, Flag.ofName? name, value with
    | some option, _, some value => do
      let options ← options.settle waiting
      return (← options.set option value, none)
    | some option, _, none => do return (← options.settle waiting, some ⟨option, none⟩)
    | none, some flag, some value => .error (.unexpectedValue flag.name value)
    | none, some flag, none => do
      let options ← options.settle waiting
      return (← options.setFlag flag, none)
    | none, none, _ => .error (.unknownArgument argument)
  | .short 'c' rest =>
    match rest.toList with
    | [] => do return (← options.settle waiting, some ⟨.config, none⟩)
    | '=' :: value => do
      let options ← options.settle waiting
      return (← options.set .config (String.ofList value), none)
    | _ => do
      let options ← options.settle waiting
      return (← options.set .config rest, none)
  | .short 'h' _ => do
    let options ← options.settle waiting
    return (← options.setFlag .help, none)
  | .short 'V' _ => do
    let options ← options.settle waiting
    return (← options.setFlag .version, none)
  | .plain text =>
    match waiting with
    | some ⟨option, none⟩ => .ok (options, some ⟨option, some text⟩)
    | _ => .error (.unknownArgument argument)
  | _ => .error (.unknownArgument argument)

/-- Reads the rest of the arguments. -/
def parseFrom (options : Options) (waiting : Option Waiting) :
    List String → Except UsageError Options
  | [] => options.settle waiting
  | argument :: rest =>
    if Argument.ofString argument = .terminator then
      match rest with
      | [] => options.settle waiting
      | extra :: _ => .error (.unknownArgument extra)
    else
      match options.take waiting argument with
      | .ok (options, waiting) => parseFrom options waiting rest
      | .error error => .error error

/-- Reads the arguments after the name of the program. -/
def parse (arguments : List String) : Except UsageError Options :=
  parseFrom {} none arguments

/-! ### Laying the options over a config -/

/-- Why the options do not lead to a config that can be used. -/
inductive ApplyError
  /-- A channel to plot was given without a tab. -/
  | noTab (plot : String)
  /-- The config that comes out cannot be used. -/
  | config (error : ConfigError)
  deriving DecidableEq

/-- What is said about the options. -/
def ApplyError.message : ApplyError → String
  | .noTab plot => s!"--plot expects TAB:CHANNEL, got '{plot}'"
  | .config error => error.message

/-- Adds a channel to the first tab of the name, if there is one. -/
def addChannel? (tab channel : String) : List TabSettings → Option (List TabSettings)
  | [] => none
  | first :: rest =>
    if first.name = tab then some ({ first with channels := first.channels ++ [channel] } :: rest)
    else (addChannel? tab channel rest).map (first :: ·)

/-- Adds a channel to a tab; a tab that is missing is put at the end, and is shown if it
is the first of all. -/
def addPlot (tab channel : String) (tabs : List TabSettings) : List TabSettings :=
  (addChannel? tab channel tabs).getD
    (tabs ++ [{ name := tab, channels := [channel], shown := tabs.isEmpty }])

/-- Adds channels given as text, tab and channel parted by the first colon. -/
def addPlots : List String → List TabSettings → Except ApplyError (List TabSettings)
  | [], tabs => .ok tabs
  | plot :: rest, tabs =>
    match splitAtFirst ':' plot with
    | (tab, some channel) => addPlots rest (addPlot tab channel tabs)
    | (_, none) => .error (.noTab plot)

/-- The config with what the options say laid over it, if it can be used. -/
def apply (options : Options) (config : Config) : Except ApplyError Config := do
  let tabs ← addPlots options.plots config.tabs
  let config := { config with
    url := options.url.getD config.url
    defaultCapacity := options.capacity.getD config.defaultCapacity
    reassemblePartialFrames := config.reassemblePartialFrames && !options.strictFraming
    tabs }
  match config.check with
  | .ok () => return config
  | .error error => throw (.config error)

end Options

end StripChart
