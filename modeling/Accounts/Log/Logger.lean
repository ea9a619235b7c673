import Accounts.Log.Level
import Accounts.Log.Record
import Accounts.Table

/-!
Loggers. A logger writes a record when its level reaches the logger's; the driver of the database is
quieter than the rest. A record that cannot be written is dropped without a trace.
-/
namespace Accounts.Log

def rootName : String := "root"

/-- Loggers of the database driver: this one and everything below it. -/
def driverName : String := "pymongo"
def driverLevel : Level := Level.warning

/-- The name that a logger goes by: the root logger can also be asked for without a name. -/
def loggerName (asked : String) : String := if asked.isEmpty then rootName else asked

/-- The level from which on a logger writes. -/
def effectiveLevel (root : Level) (logger : String) : Level :=
  if logger = driverName ∨ (driverName ++ ".").toList.isPrefixOf logger.toList then driverLevel
  else root

/-- Levels from zero down are never written. -/
def isEnabled (root : Level) (logger : String) (level : Level) : Bool :=
  0 < level && effectiveLevel root logger ≤ level

def fixedAttributes : List String :=
  ["name", "msg", "args", "levelname", "levelno", "pathname", "filename", "module", "exc_info",
    "exc_text", "stack_info", "lineno", "funcName", "created", "msecs", "relativeCreated", "thread",
    "threadName", "processName", "process"]

/-- Names that stay with the record: its attributes, and two that formatting sets. -/
def reservedNames : List String := fixedAttributes ++ ["message", "asctime"]

def momentOf? : Item → Option Moment
  | .atom (.int n) => some (.whole n)
  | .atom (.bool b) => some (.whole (if b then 1 else 0))
  | .atom (.double x) => some (.real x)
  | _ => none

/-- Set an attribute of a record by name. What no attribute is named is attached; attributes that no
line shows are ignored. -/
def Record.set (r : Record) (name : String) (value : Item) : Record :=
  if name = "name" then { r with logger := value }
  else if name = "levelname" then { r with level := value }
  else if name = "msg" then { r with template := value }
  else if name = "args" then { r with arguments := value }
  else if name = "created" then { r with created := (momentOf? value).getD r.created }
  else if reservedNames.contains name then r
  else { r with extras := Table.put name value r.extras }

def Record.ofAttributes (attributes : List (String × Item)) : Record :=
  attributes.foldl (fun r a => r.set a.1 a.2) {}

/-- An extra that would replace an attribute. -/
structure Clash where
  name : String
  deriving DecidableEq, Repr

/-- The wording, quoted because a missing key is what is reported. -/
def Clash.message (c : Clash) : String :=
  Text.quote ("Attempt to overwrite " ++ Text.quote c.name ++ " in LogRecord")

structure Entry where
  logger : String
  level : Level
  template : Item
  arguments : List Item := []
  extras : List (String × Item) := []
  deriving Repr

/-- A single dictionary that is not empty becomes the arguments itself. -/
def Entry.packed (e : Entry) : Item :=
  match e.arguments with
  | [.dict (entry :: entries)] => .dict (entry :: entries)
  | items => .tuple items

def Entry.record (e : Entry) (created : Moment) : Record :=
  { created := created
    level := .text (Level.name e.level)
    logger := .text (loggerName e.logger)
    template := e.template
    arguments := e.packed
    extras := e.extras }

/-- The line of an entry, if its level is enabled and the record can be written. -/
def Entry.emit (e : Entry) (root : Level) (created : Moment) : Except Clash (Option (List Char)) :=
  if isEnabled root e.logger e.level then
    match e.extras.find? fun x => reservedNames.contains x.1 with
    | some x => .error ⟨x.1⟩
    | none =>
      match (e.record created).line with
      | .ok line => .ok (some line)
      | .error _ => .ok none
  else .ok none

def lines (root : Level) (created : Moment) (entries : List Entry) : List (List Char) :=
  entries.filterMap fun e =>
    match e.emit root created with
    | .ok line => line
    | .error _ => none

end Accounts.Log
