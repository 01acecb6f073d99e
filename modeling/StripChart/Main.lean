import StripChart.Client
import StripChart.CommandLine
import StripChart.Summary

/-!
# The program

The program reads its options and its config, opens a session and keeps it going until it
ends. What the server sends comes in at the standard input, what is sent to it goes out at
the standard output, and everything that is to be told goes to the standard error. The tab
on the screen is drawn as text.

Nothing is decided here: this is the outer layer, which reads, calls and writes.
-/

namespace StripChart

namespace Program

/-- The description of the options. -/
def usage : String :=
  "Plots telemetry as strip charts\n\n" ++
  "Options:\n" ++
  "  -c, --config PATH         file that holds the config\n" ++
  "      --url URL             address of the server, in place of that in the config\n" ++
  "      --plot TAB:CHANNEL    channel to plot from the start, repeatable\n" ++
  "      --capacity N          how many samples of a channel a new tab remembers\n" ++
  "      --log-every N         log a summary every N drawn frames, 120 unless set\n" ++
  "      --strict-framing      fail on frames that cross delivery units\n" ++
  "  -h, --help                show this description\n" ++
  "  -V, --version             show the version\n"

/-- The version of the program. -/
def version : String :=
  "telemtab 0.1.0"

/-- Writes log lines. -/
def tell (lines : List LogLine) : IO Unit := do
  let err ← IO.getStderr
  for line in lines do
    err.putStrLn line.render

/-- The line that tells of a notice, if it is one to be told. -/
def noticeLine? : Notice → Option LogLine
  | .connected url => some ⟨.info, s!"Connected to {url}"⟩
  | .tabLines _ => none
  | .resized tab capacity => some ⟨.info, s!"Tab '{tab}' capacity {capacity}"⟩
  | .refused reason => some ⟨.warn, s!"Rejected: {reason}"⟩
  | .closed reason => some ⟨.info, s!"Closed: {reason}"⟩

/-- Writes delivery units; what went wrong, if something did. -/
def write (units : List Bytes) : IO (Option String) := do
  try
    let out ← IO.getStdout
    for unit in units do
      out.write (ByteArray.mk unit.toArray)
    out.flush
    return none
  catch error =>
    return some (toString error)

/-- Lets the session work, and tells what it has to tell. -/
def work (client : Client) : IO Client := do
  let (client, lines) := client.settle
  tell lines
  let (client, notices) := client.takeNotices
  tell (notices.filterMap noticeLine?)
  return client

/-- Lets the session work, and sends what it has to send. If that fails, the session comes
to know of it. -/
def settle (client : Client) : IO Client := do
  let client ← work client
  let (link, units) := client.link.peerTakeAll
  match ← write units with
  | none => return { client with link }
  | some reason => work { client with link := (link.deliver (.fault reason)).1 }

/-- Milliseconds as nanoseconds. -/
def nanoseconds (milliseconds : Nat) : Nat :=
  milliseconds * 1000000

/-- Draws a frame, and lets the session work on what comes of it. -/
def drawFrame (client : Client) (painter : Painter Summary) :
    IO (Client × Painter Summary) := do
  let (client, painter, _, lines) := client.paint painter (← IO.monoNanosNow)
  tell lines
  return (← settle client, painter)

/-- Reads one delivery unit, which is one frame. Of a frame that is too long nothing but
the header is read. At the end of the input there is nothing to read. -/
def readUnit (limit : Nat) : IO Bytes := do
  let input ← IO.getStdin
  let header := (← input.read 4).toList
  match header with
  | [a, b, c, d] =>
    let length := Frame.declaredLength a b c d
    if length = 0 ∨ limit < length then return header
    else return header ++ (← input.read (USize.ofNat length)).toList
  | _ => return header

/-- Keeps a session going: takes what the server sends, and draws at most one frame in a
period of the drawing clock. -/
partial def serve (config : Config) (lastTick : Nat) (client : Client)
    (painter : Painter Summary) : IO Client := do
  if client.stage = .gone then return client
  let unit ← readUnit config.maxFrameLen
  let link := if unit.isEmpty then client.link.closePeer
    else (client.link.deliver (.unit unit)).1
  let client ← settle { client with link }
  let now ← IO.monoNanosNow
  if now - lastTick < nanoseconds config.renderPeriodMs then serve config lastTick client painter
  else
    let (client, painter) ← drawFrame (← settle client.tick) painter
    serve config now client painter

/-- The contents of a file, if it can be read. -/
def contents? (path : String) : IO (Option Bytes) := do
  try
    return some (← IO.FS.readBinFile path).toList
  catch _ =>
    return none

/-- The config that the options ask for. -/
def configOf (options : Options) : IO (Except String Config) := do
  let config ← match options.config with
    | some path => do pure (Config.ofContents path (← contents? path))
    | none => pure (.ok {})
  match config with
  | .error error => return .error error.message
  | .ok config =>
    match options.apply config with
    | .ok config => return .ok config
    | .error error => return .error error.message

/-- Opens a session and keeps it going until it ends. -/
def runSession (config : Config) (logEvery : Nat) : IO (Except String Unit) := do
  let seed ← IO.rand 0 2147483648
  match Client.new? config ⟨UInt64.ofNat seed⟩ (Link.new config.url) with
  | .error error => return .error error.message
  | .ok client =>
    tell [⟨.info, s!"Connecting to {config.url}"⟩]
    let now ← IO.monoNanosNow
    let painter : Painter Summary :=
      ⟨Summary.new logEvery, ⟨nanoseconds config.minTxPeriodMs, none⟩, now, 0⟩
    let client ← serve config now (← settle client.launch) painter
    tell [⟨.info, s!"\n{client.session.report}"⟩]
    match client.session.outcome with
    | some (.error error) => return .error error.message
    | some (.ok how) =>
      tell [⟨.info, s!"Session {how.message}"⟩]
      return .ok ()
    | none => return .ok ()

/-- Does what the command line says; the status with which the program ends. -/
def run (arguments : List String) : IO UInt32 := do
  match Options.parse arguments with
  | .error .helpRequested => do
    IO.print usage
    return 0
  | .error .versionRequested => do
    IO.println version
    return 0
  | .error error => do
    IO.eprintln s!"error: {error.message}"
    return 2
  | .ok options =>
    let result ← match ← configOf options with
      | .error message => pure (.error message)
      | .ok config => runSession config (options.logEvery.getD Options.defaultLogEvery)
    match result with
    | .ok () => return 0
    | .error message =>
      IO.eprintln s!"Error: {message}"
      return 1

end Program

end StripChart

/-- Runs the program. -/
def main (arguments : List String) : IO UInt32 :=
  StripChart.Program.run arguments
