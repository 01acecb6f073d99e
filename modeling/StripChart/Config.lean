import StripChart.Frame
import StripChart.Json.Reader
import StripChart.Json.Shape

/-!
# Settings of the client

A `Config` holds everything that can be set: where the server is, how much history is
kept, how tabs are drawn, how long the queues are, and which channels are plotted from
the start. Each setting has a value of its own, so an empty object is a config.

Not every config can be used. `Config.check` goes through the conditions in a fixed
order and reports the first that does not hold. `Config.ofContents` reads a config from the
contents of a file and has three further things to report, in the order in which they
come up: no readable text, no JSON, no config.
-/

namespace StripChart

/-- What is plotted on one tab from the start. -/
structure TabSettings where
  /-- The name of the tab. -/
  name : String
  /-- The channels that are selected. -/
  channels : List String := []
  /-- A capacity other than the usual one. -/
  capacity : Option Nat := none
  /-- Whether the tab is the one on the screen. -/
  shown : Bool := false
  deriving DecidableEq, Repr

/-- The settings of a client. -/
structure Config where
  /-- The address of the server. -/
  url : String := "ws://localhost:8001"
  /-- The name under which the client appears in logs and counters. -/
  name : String := "telemtab"
  /-- How many samples of each channel a new tab remembers. -/
  defaultCapacity : Nat := 512
  /-- The least capacity that zooming goes down to. -/
  minCapacity : Nat := 16
  /-- The factor of one step of zooming. -/
  capacityScale : Float := 1.05
  /-- How many points a line has on a tab whose width is not known. -/
  defaultDrawSlots : Nat := 512
  /-- How many points a line has at most, however wide its tab is. -/
  maxDrawSlots : Nat := 4096
  /-- The time between two looks for changed tabs, in milliseconds. -/
  renderPeriodMs : Nat := 16
  /-- The least time between two messages about drawn frames, in milliseconds. -/
  minTxPeriodMs : Nat := 20
  /-- How many commands may wait. -/
  commandQueue : Nat := 256
  /-- How many notices may wait. -/
  notificationQueue : Nat := 1024
  /-- The greatest payload that a frame may have. -/
  maxFrameLen : Nat := Frame.defaultLimit
  /-- Whether a frame may be spread over several delivery units. -/
  reassemblePartialFrames : Bool := true
  /-- What is plotted from the start. -/
  tabs : List TabSettings := []
  deriving DecidableEq

/-- Why a config cannot be used. -/
inductive ConfigError
  /-- The file is missing or its contents are no text. -/
  | unreadable (path : String)
  /-- The contents of the file are no JSON text. -/
  | notJson (path : String)
  /-- Some setting has the wrong shape. -/
  | shape
  /-- The usual capacity is zero. -/
  | defaultCapacityZero
  /-- The least capacity is zero. -/
  | minCapacityZero
  /-- A step of zooming would not make anything greater. -/
  | scaleTooSmall (scale : Float)
  /-- A line may have no points at all. -/
  | maxDrawSlotsZero
  /-- A line would usually have more points than it may have. -/
  | drawSlotsAboveMax (usual greatest : Nat)
  /-- There is no time between two looks for changed tabs. -/
  | renderPeriodZero
  /-- No command may wait. -/
  | commandQueueZero
  /-- No notice may wait. -/
  | notificationQueueZero
  /-- A tab remembers nothing. -/
  | tabCapacityZero (tab : String)
  deriving DecidableEq

namespace ConfigError

/-- A factor is written in full, without a power of ten and without a point if it is a
whole number. -/
def scaleLayout : Decimal.Layout where
  positional := none
  pointZero := false
  tie := .up

/-- A factor as it is written in a message. -/
def scaleText (scale : Float) : String :=
  match Binary.ofFloat? scale with
  | some value => String.ofList (scaleLayout.chars Binary.binary64 value)
  | none => if scale.isNaN then "NaN" else if scale < 0.0 then "-inf" else "inf"

/-- What is said about the config. -/
def message : ConfigError → String
  | .unreadable path => s!"Failed to read config {path}"
  | .notJson path => s!"Config {path} is not valid JSON"
  | .shape => "Failed to parse client config"
  | .defaultCapacityZero => "default_capacity must be at least 1"
  | .minCapacityZero => "min_capacity must be at least 1"
  | .scaleTooSmall scale => s!"capacity_scale must be greater than 1, got {scaleText scale}"
  | .maxDrawSlotsZero => "max_draw_slots must be at least 1"
  | .drawSlotsAboveMax usual greatest =>
    s!"default_draw_slots ({usual}) exceeds max_draw_slots ({greatest})"
  | .renderPeriodZero => "render_period_ms must be at least 1"
  | .commandQueueZero => "command_queue must be at least 1"
  | .notificationQueueZero => "notification_queue must be at least 1"
  | .tabCapacityZero tab => s!"Tab '{tab}' has capacity 0"

end ConfigError

namespace TabSettings

/-- The settings of a tab that a record of its four fields holds. -/
def ofJson? (json : Json) : Option TabSettings :=
  if json.isRecord 4 then do
    let name ← Json.required Json.string? (json.field? 0 "name")
    let channels ← Json.defaulted [] (Json.list? Json.string?) (json.field? 1 "channels")
    let capacity ← Json.optional (Json.nat? 64) (json.field? 2 "capacity")
    let shown ← Json.defaulted false Json.bool? (json.field? 3 "shown")
    return { name, channels, capacity, shown }
  else none

/-- The settings of a tab as a list of named fields. -/
def fields (tab : TabSettings) : List (String × Json) :=
  [("name", .string tab.name), ("channels", .array (tab.channels.map .string)),
    ("capacity", (tab.capacity.map Json.ofNat).getD .null), ("shown", .bool tab.shown)]

end TabSettings

namespace Config

/-- The config that a record of its fourteen fields holds; fields left out have the
values of the empty config. -/
def ofJson? (json : Json) : Option Config :=
  let usual : Config := {}
  let nat (place : Nat) (name : String) (fallback : Nat) : Option Nat :=
    Json.defaulted fallback (Json.nat? 64) (json.field? place name)
  if json.isRecord 14 then do
    let url ← Json.defaulted usual.url Json.string? (json.field? 0 "url")
    let name ← Json.defaulted usual.name Json.string? (json.field? 1 "name")
    let defaultCapacity ← nat 2 "default_capacity" usual.defaultCapacity
    let minCapacity ← nat 3 "min_capacity" usual.minCapacity
    let capacityScale ←
      Json.defaulted usual.capacityScale Json.float? (json.field? 4 "capacity_scale")
    let defaultDrawSlots ← nat 5 "default_draw_slots" usual.defaultDrawSlots
    let maxDrawSlots ← nat 6 "max_draw_slots" usual.maxDrawSlots
    let renderPeriodMs ← nat 7 "render_period_ms" usual.renderPeriodMs
    let minTxPeriodMs ← nat 8 "min_tx_period_ms" usual.minTxPeriodMs
    let commandQueue ← nat 9 "command_queue" usual.commandQueue
    let notificationQueue ← nat 10 "notification_queue" usual.notificationQueue
    let maxFrameLen ← nat 11 "max_frame_len" usual.maxFrameLen
    let reassemblePartialFrames ← Json.defaulted usual.reassemblePartialFrames Json.bool?
      (json.field? 12 "reassemble_partial_frames")
    let tabs ← Json.defaulted usual.tabs (Json.list? TabSettings.ofJson?) (json.field? 13 "tabs")
    return { url, name, defaultCapacity, minCapacity, capacityScale, defaultDrawSlots,
             maxDrawSlots, renderPeriodMs, minTxPeriodMs, commandQueue, notificationQueue,
             maxFrameLen, reassemblePartialFrames, tabs }
  else none

/-- The config as a list of named fields. -/
def fields (config : Config) : List (String × Json) :=
  [("url", .string config.url), ("name", .string config.name),
    ("default_capacity", Json.ofNat config.defaultCapacity),
    ("min_capacity", Json.ofNat config.minCapacity),
    ("capacity_scale", Json.ofFloat config.capacityScale),
    ("default_draw_slots", Json.ofNat config.defaultDrawSlots),
    ("max_draw_slots", Json.ofNat config.maxDrawSlots),
    ("render_period_ms", Json.ofNat config.renderPeriodMs),
    ("min_tx_period_ms", Json.ofNat config.minTxPeriodMs),
    ("command_queue", Json.ofNat config.commandQueue),
    ("notification_queue", Json.ofNat config.notificationQueue),
    ("max_frame_len", Json.ofNat config.maxFrameLen),
    ("reassemble_partial_frames", .bool config.reassemblePartialFrames),
    ("tabs", .array (config.tabs.map fun tab => .object tab.fields))]

/-- Goes through the tabs in order and reports the first that remembers nothing. -/
def checkTabs : List TabSettings → Except ConfigError Unit
  | [] => .ok ()
  | tab :: rest =>
    if tab.capacity = some 0 then .error (.tabCapacityZero tab.name) else checkTabs rest

/-- Whether the config can be used; if not, the first reason why. -/
def check (config : Config) : Except ConfigError Unit :=
  if config.defaultCapacity = 0 then .error .defaultCapacityZero
  else if config.minCapacity = 0 then .error .minCapacityZero
  else if ¬1.0 < config.capacityScale then .error (.scaleTooSmall config.capacityScale)
  else if config.maxDrawSlots = 0 then .error .maxDrawSlotsZero
  else if config.maxDrawSlots < config.defaultDrawSlots then
    .error (.drawSlotsAboveMax config.defaultDrawSlots config.maxDrawSlots)
  else if config.renderPeriodMs = 0 then .error .renderPeriodZero
  else if config.commandQueue = 0 then .error .commandQueueZero
  else if config.notificationQueue = 0 then .error .notificationQueueZero
  else checkTabs config.tabs

/-- The config that a value holds, if it can be used. -/
def parse (json : Json) : Except ConfigError Config :=
  match ofJson? json with
  | some config => config.check.map fun () => config
  | none => .error .shape

/-- The config in a file, from the bytes of the file if there is one. -/
def ofContents (path : String) (contents : Option Bytes) : Except ConfigError Config :=
  match contents.bind Utf8.decode? with
  | some text =>
    match Json.parse? text with
    | some json => parse json
    | none => .error (.notJson path)
  | none => .error (.unreadable path)

end Config

end StripChart
