import Accounts.Json.Printer
import Accounts.Log.Percent
import Accounts.Time.Stamp

/-!
Log records and their lines. A line is one JSON object: time, level, logger and message come first,
then the report of an exception, then whatever else was attached to the record, in the order in
which it was attached.
-/
namespace Accounts.Log

/-- The exceptions that a record reports, each the cause of the next. -/
inductive Report where
  /-- There is no exception after all. -/
  | nothing
  | chain (exceptions : List (ExceptionClass × List Item))
  deriving Repr

structure Record where
  created : Moment := .whole 0
  level : Item := .text "Level None"
  logger : Item := .null
  template : Item := .text ""
  arguments : Item := .null
  report : Option Report := none
  /-- What was attached beyond the fixed attributes. -/
  extras : List (String × Item) := []
  deriving Repr

inductive LineError where
  | stamp (e : StampError)
  | template (e : Percent.Error)
  /-- A key that JSON cannot hold. -/
  | keyType (type : String)
  deriving DecidableEq, Repr

namespace LineError

def name : LineError → String
  | .stamp e => e.name
  | .template e => e.name
  | .keyType _ => "TypeError"

def message : LineError → List Char
  | .stamp e => e.message
  | .template e => e.message
  | .keyType t => "keys must be str, int, float, bool or None, not ".toList ++ t.toList

end LineError

/-! ## Exceptions -/

/-- One line for an exception, without a colon if it says nothing. -/
def reportLine (e : ExceptionClass × List Item) : List Char :=
  match (Item.exception e.1 e.2).display with
  | [] => e.1.reportName.toList
  | said => e.1.reportName.toList ++ ':' :: ' ' :: said

def causeSentence : List Char :=
  "\n\nThe above exception was the direct cause of the following exception:\n\n".toList

def Report.render : Report → List Char
  | .nothing => "NoneType: None".toList
  | .chain es => List.intercalate causeSentence (es.map reportLine)

/-! ## JSON of items -/

namespace Item

/-- Doubles that are no numbers have words of their own. -/
def doubleWord (x : Double) : List Char :=
  match x.magnitude with
  | .undefined => ['N', 'a', 'N']
  | .infinite true => "-Infinity".toList
  | .infinite false => "Infinity".toList
  | _ => Written.shortest x

/-- The name of a member: texts as they are, plain values as they are written. -/
def memberName : Item → Except LineError (List Nat)
  | .atom (.text s) => .ok (Text.codePoints s)
  | .atom .null => .ok (Text.codePoints "null")
  | .atom (.bool b) => .ok (Text.codePoints (if b then "true" else "false"))
  | .atom (.int n) => .ok (Percent.codes (Text.decimalInt n))
  | .atom (.double x) => .ok (Percent.codes (doubleWord x))
  | .kind k => .ok (Text.codePoints k.value)
  | item => .error (.keyType item.typeName)

mutual

/-- Containers become arrays and objects, and what JSON does not know becomes its text. -/
def json : Item → Except LineError Json
  | .atom .null => .ok .null
  | .atom (.bool b) => .ok (.bool b)
  | .atom (.int n) => .ok (.int n)
  | .atom (.double x) => .ok (.number (doubleWord x))
  | .atom (.text s) => .ok (.str s)
  | .kind k => .ok (.str k.value)
  | .list items | .tuple items => (jsonItems items).map .array
  | .dict entries => (jsonEntries entries).map .object
  | item => .ok (.text (Percent.codes item.display))

def jsonItems : List Item → Except LineError (List Json)
  | [] => .ok []
  | item :: items =>
    match item.json, jsonItems items with
    | .error e, _ => .error e
    | .ok _, .error e => .error e
    | .ok j, .ok js => .ok (j :: js)

def jsonEntries : List (Item × Item) → Except LineError (List (List Nat × Json))
  | [] => .ok []
  | (key, item) :: entries =>
    match key.memberName, item.json, jsonEntries entries with
    | .error e, _, _ => .error e
    | .ok _, .error e, _ => .error e
    | .ok _, .ok _, .error e => .error e
    | .ok name, .ok j, .ok js => .ok ((name, j) :: js)

end

end Item

/-! ## Lines -/

namespace Record

/-- The message: the template is filled only when there are arguments. -/
def message (r : Record) : Except Percent.Error (List Nat) :=
  if r.arguments.isNothing then .ok (Percent.codes r.template.display)
  else Percent.format r.template.display r.arguments

/-- A member of a line, which may turn out to have no JSON form. -/
abbrev Member := List Nat × Except LineError Json

/-- Set a member: one of that name stays in its place. -/
def setMember (m : Member) : List Member → List Member
  | [] => [m]
  | n :: ms => if n.1 = m.1 then m :: ms else n :: setMember m ms

/-- Attach the extras one after another; functions are left out. -/
def attach (ms : List Member) : List (String × Item) → List Member
  | [] => ms
  | (name, item) :: rest =>
    if item.isCallable then attach ms rest
    else attach (setMember (Text.codePoints name, item.json) ms) rest

/-- The members, if all of them have a JSON form. -/
def collect : List Member → Except LineError (List (List Nat × Json))
  | [] => .ok []
  | (_, .error e) :: _ => .error e
  | (name, .ok j) :: ms => (collect ms).map ((name, j) :: ·)

/-- The members that every line has, and the report of an exception. -/
def fixedMembers (r : Record) (stamp : DateTime) (message : List Nat) : List Member :=
  [(Text.codePoints "timestamp", .ok (.text (Percent.codes stamp.renderUtc))),
    (Text.codePoints "level", r.level.json), (Text.codePoints "logger", r.logger.json),
    (Text.codePoints "message", .ok (.text message))] ++
    match r.report with
    | some report => [(Text.codePoints "exception", .ok (.text (Percent.codes report.render)))]
    | none => []

def json (r : Record) : Except LineError Json :=
  match r.created.stamp with
  | .error e => .error (.stamp e)
  | .ok stamp =>
    match r.message with
    | .error e => .error (.template e)
    | .ok message => (collect (attach (r.fixedMembers stamp message) r.extras)).map .object

def line (r : Record) : Except LineError (List Char) := r.json.map Json.print

end Record

end Accounts.Log
