import Accounts.Failure
import Accounts.Time.Iso

/-!
What can be handed to the log: plain values and containers of them, bytes, dates, kinds of failure,
exceptions, users, and functions. An item has a text, which is what a message shows, and a quoted
form, which is what it looks like inside a container.
-/
namespace Accounts.Log

/-- Classes of exceptions: the family of failures and the general ones. -/
inductive ExceptionClass where
  | family (c : FailureClass)
  | general (name : String)
  deriving DecidableEq, Repr

namespace ExceptionClass

def name : ExceptionClass → String
  | .family c => c.name
  | .general n => n

def reportName : ExceptionClass → String
  | .family c => c.qualifiedName
  | .general n => n

def ofName (s : String) : ExceptionClass :=
  match FailureClass.ofName? s with
  | some c => .family c
  | none => .general s

/-- The exception for a missing key quotes its argument. -/
def missingKey : ExceptionClass := .general "KeyError"

end ExceptionClass

/-- Anything that can be handed to the log. -/
inductive Item where
  | atom (a : Atom)
  | bytes (bs : List UInt8)
  | time (t : DateTime)
  | kind (k : Kind)
  | exception (c : ExceptionClass) (arguments : List Item)
  | user (email password metadata : Item)
  | callable
  | list (items : List Item)
  | tuple (items : List Item)
  | dict (entries : List (Item × Item))
  deriving Repr, Inhabited

namespace Item

def null : Item := .atom .null
def int (n : Int) : Item := .atom (.int n)
def text (s : String) : Item := .atom (.text s)

def isCallable : Item → Bool
  | .callable => true
  | _ => false

def isNothing : Item → Bool
  | .atom a => a.isNothing
  | .bytes bs => bs.isEmpty
  | .list items | .tuple items => items.isEmpty
  | .dict entries => entries.isEmpty
  | _ => false

def typeName : Item → String
  | .atom a => a.typeName
  | .bytes _ => "bytes"
  | .time _ => "datetime.datetime"
  | .kind _ => "ErrorKind"
  | .exception c _ => c.name
  | .user .. => "User"
  | .callable => "function"
  | .list _ => "list"
  | .tuple _ => "tuple"
  | .dict _ => "dict"

/-! ## The quoted form -/

def enclose (left right : Char) (body : List Char) : List Char := left :: (body ++ [right])

def shownOffset (offset : Int) : List Char :=
  if offset = 0 then "datetime.timezone.utc".toList
  else "datetime.timezone(".toList ++ DateTime.shownDuration offset ++ [')']

/-- A date as a call; a second is only named when it or a fraction of it is there. -/
def shownTime (t : DateTime) : List Char :=
  let minutes : List Int :=
    [t.date.year, t.date.month, t.date.day, t.second / 3600, t.second / 60 % 60]
  let fields := minutes ++
    (if t.second % 60 = 0 ∧ t.micro = 0 then [] else [((t.second % 60 : Nat) : Int)]) ++
    (if t.micro = 0 then [] else [(t.micro : Int)])
  let offset := match t.offset with
    | some o => ", tzinfo=".toList ++ shownOffset o
    | none => []
  "datetime.datetime(".toList ++ List.intercalate [',', ' '] (fields.map Text.decimalInt) ++
    offset ++ [')']

def shownKind (k : Kind) (showing : Text.Showing) : List Char :=
  "<ErrorKind.".toList ++ k.name.toList ++ [':', ' '] ++ Text.quoted showing k.value.toList ++ ['>']

mutual

/-- The form inside a container. -/
def shown (showing : Text.Showing) : Item → List Char
  | .atom a => a.shown showing
  | .bytes bs => Text.quotedBytes bs
  | .time t => shownTime t
  | .kind k => shownKind k showing
  | .exception c items => c.name.toList ++ enclose '(' ')' (shownItems showing items)
  | .user e p m =>
    "User(email=".toList ++ e.shown showing ++ ", password=".toList ++ p.shown showing ++
      ", metadata=".toList ++ m.shown showing ++ [')']
  | .callable => "<function>".toList
  | .list items => enclose '[' ']' (shownItems showing items)
  | .tuple [item] => enclose '(' ')' (item.shown showing ++ [','])
  | .tuple items => enclose '(' ')' (shownItems showing items)
  | .dict entries => enclose '\x7b' '\x7d' (shownEntries showing entries)

def shownItems (showing : Text.Showing) : List Item → List Char
  | [] => []
  | [item] => item.shown showing
  | item :: items => item.shown showing ++ ',' :: ' ' :: shownItems showing items

def shownEntries (showing : Text.Showing) : List (Item × Item) → List Char
  | [] => []
  | [(k, v)] => k.shown showing ++ ':' :: ' ' :: v.shown showing
  | (k, v) :: entries =>
    k.shown showing ++ ':' :: ' ' :: (v.shown showing ++ ',' :: ' ' :: shownEntries showing entries)

end

/-! ## The text -/

/-- The form in a message: a text is itself, and an exception is what it says. -/
def display : Item → List Char
  | .atom (.text s) => s.toList
  | .time t => t.render ' '
  | .kind k => "ErrorKind.".toList ++ k.name.toList
  | .exception c [a] => if c = ExceptionClass.missingKey then a.shown .printable else a.display
  | .exception _ [] => []
  | .exception _ items => enclose '(' ')' (shownItems .printable items)
  | item => item.shown .printable

/-! ## Dictionaries -/

/-- The value that keys compare by. A kind is its written value. -/
def keyAtom? : Item → Option Atom
  | .atom a => some a
  | .kind k => some (.text k.value)
  | _ => none

mutual

def sameKey : Item → Item → Bool
  | .tuple xs, .tuple ys => sameKeys xs ys
  | .bytes xs, .bytes ys => xs == ys
  | .time s, .time t => s.same t
  | x, y =>
    match x.keyAtom?, y.keyAtom? with
    | some a, some b => a.same b
    | _, _ => false

def sameKeys : List Item → List Item → Bool
  | [], [] => true
  | x :: xs, y :: ys => sameKey x y && sameKeys xs ys
  | _, _ => false

end

mutual

/-- The type that keeps an item from being a key: its own, or that of a part of a tuple. -/
def keyFault? : Item → Option String
  | .tuple items => keyFaults? items
  | .list items => some (typeName (.list items))
  | .dict entries => some (typeName (.dict entries))
  | .user e p m => some (typeName (.user e p m))
  | _ => none

def keyFaults? : List Item → Option String
  | [] => none
  | item :: items =>
    match item.keyFault? with
    | some t => some t
    | none => keyFaults? items

end

/-- Set an entry: an equal key stays where and what it is. -/
def setEntry (key value : Item) : List (Item × Item) → List (Item × Item)
  | [] => [(key, value)]
  | (k, v) :: es => if key.sameKey k then (k, value) :: es else (k, v) :: setEntry key value es

def ofEntries (entries : List (Item × Item)) : List (Item × Item) :=
  entries.foldl (fun es e => setEntry e.1 e.2 es) []

inductive Fault where
  | date (e : DateError)
  /-- A key of a type that no key has. -/
  | key (type : String)
  deriving DecidableEq, Repr

namespace Fault

def name : Fault → String
  | .date _ => "ValueError"
  | .key _ => "TypeError"

def message : Fault → String
  | .date e => e.message
  | .key t => "unhashable type: '" ++ t ++ "'"

end Fault

/-- The date that a text stands for. -/
def ofIso (text : String) : Except Fault Item :=
  match DateTime.ofIso text with
  | .ok t => .ok (.time t)
  | .error e => .error (.date e)

/-- A dictionary of entries one after another, whose keys have to be possible ones. -/
def dictionary (entries : List (Item × Item)) : Except Fault Item :=
  match keyFaults? (entries.map (·.1)) with
  | some t => .error (.key t)
  | none => .ok (.dict (ofEntries entries))

end Item

end Accounts.Log
