import Scorebook.Config.Codec
import Scorebook.Delivery.Sending
import Scorebook.Event.Codec
import Scorebook.Json.Printer
import Scorebook.Processor
/-!
# The command line

`scorebook EVENTS` reads an event stream and prints the report of the match.  The stream is one document
with a header and a list of events, a list of events alone, or one event a line.  This module says what is
printed for given arguments and files; reading and printing are left to the program.
-/
namespace Scorebook.CommandLine

structure Options where
  events : String
  header : Option String := none
  config : Option String := none
  /-- Print batches of flat records instead of the report. -/
  batches : Bool := false
  /-- Put every item on a line of its own. -/
  pretty : Bool := false

/-- Why nothing, or not everything, was printed. -/
inductive Complaint where
  | usage
  | unreadableFile (file : String)
  | notJson
  | badEvent (line : Nat)
  | noHeader (file : String)
  | fault (f : Fault)

namespace Complaint

def text : Complaint → String
  | .usage =>
    "usage: scorebook [--header HEADER] [--config CONFIG] [--batches] [--pretty] EVENTS"
  | .unreadableFile file => "reading " ++ file
  | .notJson => "not a readable document"
  | .badEvent line => "event on line " ++ toString line
  | .noHeader file => file ++ " has no header, pass --header"
  | .fault f => f.message

def exitCode : Complaint → UInt32
  | .usage => 2
  | _ => 1

end Complaint

/-! ## Arguments -/

structure Reading where
  events : Option String := none
  header : Option String := none
  config : Option String := none
  batches : Bool := false
  pretty : Bool := false

namespace Reading

/-- A setting that may be given once, and not be empty. -/
def once? (old : Option String) (value : String) : Option String :=
  if old.isSome || value.isEmpty then none else some value

def setEvents? (r : Reading) (file : String) : Option Reading :=
  (once? r.events file).map (fun f => { r with events := some f })

def setHeader? (r : Reading) (file : String) : Option Reading :=
  (once? r.header file).map (fun f => { r with header := some f })

def setConfig? (r : Reading) (file : String) : Option Reading :=
  (once? r.config file).map (fun f => { r with config := some f })

/-- Whether an argument is an option: a hyphen with something after it. -/
def isOption (arg : String) : Bool := "-".toList.isPrefixOf arg.toList && arg != "-"

/-- The value of `--name=value`. -/
def attached? (name arg : String) : Option String :=
  let start := (name ++ "=").toList
  if start.isPrefixOf arg.toList then some (String.ofList (arg.toList.drop start.length)) else none

def setAttached? (r : Reading) (arg : String) : Option Reading :=
  match attached? "--header" arg, attached? "--config" arg with
  | some file, _ => r.setHeader? file
  | none, some file => r.setConfig? file
  | none, none => none

/-- Reads the arguments after `r`.  After `--` every argument is a file. -/
def readAll? (r : Reading) : List String → Option Reading
  | [] => some r
  | "--" :: rest => rest.foldlM setEvents? r
  | "--batches" :: rest => if r.batches then none else readAll? { r with batches := true } rest
  | "--pretty" :: rest => if r.pretty then none else readAll? { r with pretty := true } rest
  | "--header" :: file :: rest =>
    if isOption file then none else (r.setHeader? file).bind (readAll? · rest)
  | "--config" :: file :: rest =>
    if isOption file then none else (r.setConfig? file).bind (readAll? · rest)
  | arg :: rest =>
    if isOption arg then (r.setAttached? arg).bind (readAll? · rest)
    else (r.setEvents? arg).bind (readAll? · rest)

end Reading

def options? (args : List String) : Option Options := do
  let r ← Reading.readAll? {} args
  return {
    events := ← r.events, header := r.header, config := r.config, batches := r.batches
    pretty := r.pretty }

/-! ## Streams -/

/-- A stream as a file holds it, which may bring its header along. -/
structure Stream where
  header : Option Header
  events : List TimedEvent

namespace Stream

def ofDocument? (j : Json) : Option Stream := do
  let [header, events] ← j.slots? ["header", "events"] | none
  return {
    header := some (← header.required? Header.ofJson?)
    events := ← events.required? (Json.listOf? (TimedEvent.ofDocument? 2)) }

/-- One event for every line that is not blank; the lines count from `line`. -/
def ofLines (line : Nat) : List (List Char) → Except Complaint (List TimedEvent)
  | [] => .ok []
  | cs :: rest =>
    if (Text.trim cs).isEmpty then ofLines (line + 1) rest
    else
      match (Json.parse? (String.ofList cs)).bind (TimedEvent.ofDocument? 0) with
      | none => .error (.badEvent line)
      | some e => (ofLines (line + 1) rest).map (e :: ·)

def ofText (text : String) : Except Complaint Stream :=
  let cs := Text.trimLeft text.toList
  let document := Json.parse? (String.ofList cs)
  if cs.head? = some '[' then
    match document.bind (Json.listOf? (TimedEvent.ofDocument? 1)) with
    | some events => .ok { header := none, events }
    | none => .error .notJson
  else
    match document.bind ofDocument? with
    | some stream => .ok stream
    | none => (ofLines 1 (Text.lines cs)).map (fun events => { header := none, events })

end Stream

/-! ## The program -/

/-- The text of a file, by its path. -/
abbrev Files := String → Option String

/-- A part of a path that stays where it is. -/
def staysPut (part : List Char) : Bool := part.isEmpty || part = ['.']

/-- The name, inside a folder, of the file that a path from that folder leads to.  A path from the root leads
out of the folder, and one that ends in a part that stays leads to no file. -/
def nameInFolder? (path : String) : Option String :=
  let parts := path.toList.splitOn '/'
  if path.toList.head? = some '/' || parts.getLast?.any staysPut then none
  else some (String.ofList (List.intercalate ['/'] (parts.filter (!staysPut ·))))

/-- The files of one folder, each with its name. -/
def Files.inFolder (entries : List (String × String)) : Files :=
  fun path => (nameInFolder? path).bind (fun name => entries.lookup name)

def readFile (files : Files) (file : String) : Except Complaint String :=
  match files file with
  | some text => .ok text
  | none => .error (.unreadableFile file)

/-- The configuration in a file, or the default one. -/
def loadConfig (files : Files) (file : Option String) : Except Complaint Config :=
  match file with
  | none => .ok {}
  | some file => do (Config.ofText (← readFile files file)).mapError .fault

/-- The header in a file, or else the one that the stream brought along. -/
def loadHeader (files : Files) (o : Options) (stream : Stream) : Except Complaint Header :=
  match o.header, stream.header with
  | some file, _ => do
    match (Json.parse? (← readFile files file)).bind Header.ofJson? with
    | some header => .ok header
    | none => .error .notJson
  | none, some header => .ok header
  | none, none => .error (.noHeader o.events)

def line (o : Options) (j : Json) : String := (if o.pretty then j.pretty else j.compact) ++ "\n"

def output (o : Options) (c : Config) (r : Report) : String :=
  if o.batches then String.join ((Batch.ofReport r c.batchSize).map (fun b => line o b.toJson))
  else line o r.toJson

def process (files : Files) (o : Options) : Except Complaint String := do
  let config ← loadConfig files o.config
  let stream ← Stream.ofText (← readFile files o.events)
  let header ← loadHeader files o stream
  let processor ← (Processor.new header config).mapError .fault
  let report ← ((processor.withProgress.run stream.events).result).mapError .fault
  return output o config report

def run (files : Files) (args : List String) : Except Complaint String :=
  match options? args with
  | some o => process files o
  | none => .error .usage

def filesOf (args : List String) : List String :=
  match options? args with
  | some o => o.events :: o.header.toList ++ o.config.toList
  | none => []

end Scorebook.CommandLine
