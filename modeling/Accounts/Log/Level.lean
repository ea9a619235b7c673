import Accounts.Text.Quoted
import Accounts.Text.Uppercase

/-!
Levels of the log: numbers, some of which have names. A level given by name is looked up in upper
case.
-/
namespace Accounts.Log

/-- A level is a number; the larger, the more severe. -/
abbrev Level := Int

namespace Level

def critical : Level := 50
def error : Level := 40
def warning : Level := 30
def info : Level := 20
def debug : Level := 10
def unset : Level := 0

def names : List (String × Level) :=
  [("CRITICAL", critical), ("FATAL", critical), ("ERROR", error), ("WARN", warning),
    ("WARNING", warning), ("INFO", info), ("DEBUG", debug), ("NOTSET", unset)]

def name (l : Level) : String :=
  if l = critical then "CRITICAL"
  else if l = error then "ERROR"
  else if l = warning then "WARNING"
  else if l = info then "INFO"
  else if l = debug then "DEBUG"
  else if l = unset then "NOTSET"
  else "Level " ++ toString l

/-- The level of a name in upper case. -/
def ofName? (s : String) : Option Level := names.lookup s

end Level

/-- A name that is no level's. -/
structure UnknownLevel where
  name : String
  deriving DecidableEq, Repr

def UnknownLevel.message (e : UnknownLevel) : String := "Unknown level: " ++ Text.quote e.name

def defaultLevelName : String := "INFO"

/-- The first name that is not empty. -/
def chooseName (given fallback : Option String) : String :=
  match given, fallback with
  | some s, f => if s.isEmpty then (f.filter (!·.isEmpty)).getD defaultLevelName else s
  | none, f => (f.filter (!·.isEmpty)).getD defaultLevelName

/-- The level of the root logger: the one given, else the one of the environment, else the default.
-/
def rootLevel (given environment : Option String) : Except UnknownLevel Level :=
  let name := Text.upper (chooseName given environment)
  match Level.ofName? name with
  | some l => .ok l
  | none => .error ⟨name⟩

end Accounts.Log
