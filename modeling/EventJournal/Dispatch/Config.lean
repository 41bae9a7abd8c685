/-
EventJournal/Dispatch/Config.lean

The settings of a dispatcher.  They can be taken from variables that are set to texts:
each variable replaces one default, and a number has to be a decimal numeral below 2^64
with white space around it at most.  A text that is no number is reported before a
setting that is out of range.
-/
import EventJournal.Duration
import EventJournal.Text.Blank
import EventJournal.Text.Quoted

namespace EventJournal

/-- Why settings are refused. -/
inductive ConfigError where
  /-- The variable `key` is set to a text that is no number. -/
  | invalid (key value : String)
  | outOfRange (text : String)
deriving DecidableEq, Repr

def ConfigError.message : ConfigError → String
  | invalid key value => "invalid value for " ++ key ++ ": '" ++ value ++ "'"
  | outOfRange text => text

/-- The settings of a dispatcher. -/
structure DispatchConfig where
  /-- Also the name of the reader whose cursor the dispatcher uses. -/
  name : String := "journal-dispatcher"
  /-- The time between two cycles. -/
  interval : Duration := .ofMillis 100
  /-- How many entries a cycle reads at most. -/
  batchSize : Nat := 100
  /-- How long a projectable may be pending before it is overdue. -/
  confirmationTimeout : Duration := .ofSecs 30
  /-- The time between two rounds over overdue projectables, if there are such rounds. -/
  confirmationCheckInterval : Option Duration := none
deriving DecidableEq, Repr, Inhabited

namespace DispatchConfig

/-! ### Range -/

/-- The first setting that is out of range. -/
def flaw? (c : DispatchConfig) : Option ConfigError :=
  if Text.trim c.name.toList = [] then some (.outOfRange "dispatcher name must not be empty")
  else if c.batchSize = 0 then some (.outOfRange "batch size must be at least 1")
  else if c.interval = .zero then some (.outOfRange "interval must be non-zero")
  else if c.confirmationCheckInterval = some .zero then
    some (.outOfRange "confirmation check interval must be non-zero")
  else none

/-- The settings, if all of them are in range. -/
def checked (c : DispatchConfig) : Except ConfigError DispatchConfig :=
  match c.flaw? with
  | some e => .error e
  | none => .ok c

/-! ### Variables -/

def nameKey : String := "CHRONICLE_DISPATCH_NAME"

def intervalKey : String := "CHRONICLE_DISPATCH_INTERVAL_MS"

def batchSizeKey : String := "CHRONICLE_DISPATCH_BATCH_SIZE"

def confirmationTimeoutKey : String := "CHRONICLE_CONFIRMATION_TIMEOUT_SECS"

def confirmationCheckIntervalKey : String := "CHRONICLE_CONFIRMATION_CHECK_INTERVAL_MS"

/-- Reads a number below 2^64 with white space around it. -/
def number? (text : String) : Option Nat :=
  (Text.numeral? (Text.trim text.toList)).filter fun n => n < Nat.pow 2 64

/-- The number to which `key` is set, if it is set. -/
def numberAt (lookup : String → Option String) (key : String) :
    Except ConfigError (Option Nat) :=
  match lookup key with
  | none => .ok none
  | some text => match number? text with
    | none => .error (.invalid key text)
    | some n => .ok (some n)

/-- The settings with those replaced for which a variable is set. -/
def ofLookup (lookup : String → Option String) : Except ConfigError DispatchConfig := do
  let defaults : DispatchConfig := {}
  let interval ← numberAt lookup intervalKey
  let batchSize ← numberAt lookup batchSizeKey
  let timeout ← numberAt lookup confirmationTimeoutKey
  let check ← numberAt lookup confirmationCheckIntervalKey
  checked
    { name := (lookup nameKey).getD defaults.name
      interval := (interval.map Duration.ofMillis).getD defaults.interval
      batchSize := batchSize.getD defaults.batchSize
      confirmationTimeout := (timeout.map Duration.ofSecs).getD defaults.confirmationTimeout
      confirmationCheckInterval := check.map Duration.ofMillis }

/-! ### Text and JSON -/

/-- A description of the settings. -/
def text (c : DispatchConfig) : String :=
  Text.described "DispatcherConfig"
    [("name", Text.quoted c.name), ("interval", c.interval.text),
     ("batch_size", toString c.batchSize), ("confirmation_timeout", c.confirmationTimeout.text),
     ("confirmation_check_interval",
       match c.confirmationCheckInterval with
       | none => "None"
       | some d => "Some(" ++ d.text ++ ")")] false

def fieldNames : List String :=
  ["name", "interval", "batch_size", "confirmation_timeout", "confirmation_check_interval"]

def toJson (c : DispatchConfig) : Json :=
  Shape.record fieldNames
    [.str c.name, c.interval.toJson, Json.nat c.batchSize, c.confirmationTimeout.toJson,
     Shape.orNull Duration.toJson c.confirmationCheckInterval]

def ofJson? (j : Json) : Option DispatchConfig := do
  let [name, interval, batchSize, timeout, check] ← Shape.columns fieldNames j | none
  pure
    { name := ← Shape.required Shape.read name
      interval := ← Shape.required Shape.read interval
      batchSize := ← Shape.required (Json.nat? 64) batchSize
      confirmationTimeout := ← Shape.required Shape.read timeout
      confirmationCheckInterval := ← Shape.optional Shape.read check }

instance : Shape DispatchConfig := ⟨toJson, ofJson?⟩

end DispatchConfig

end EventJournal
