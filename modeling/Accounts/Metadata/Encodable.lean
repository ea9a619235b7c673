import Accounts.Metadata.Tree

/-!
What the document database can hold: whole numbers of 64 bits, and dictionaries whose keys are texts
without a null character. The first fault in reading order counts.
-/
namespace Accounts

inductive EncodingFault where
  | integerSize
  | keyType (key : Atom)
  | keyNull
  deriving DecidableEq, Repr

namespace EncodingFault

def name : EncodingFault → String
  | .integerSize => "OverflowError"
  | _ => "InvalidDocument"

/-- How an encoder may put it that does not quote what it was given. -/
def message : EncodingFault → String
  | .integerSize => "MongoDB can only handle up to 8-byte ints"
  | .keyType key =>
    "Invalid document: documents must have only string keys, key was " ++
      String.ofList (key.shown .printable)
  | .keyNull => "Invalid document: Key names must not contain the NULL byte"

end EncodingFault

namespace Atom

/-- Whole numbers have 64 bits. -/
def fitsWord (n : Int) : Bool := -(twoPow 63 : Int) ≤ n && n < twoPow 63

def valueFault? : Atom → Option EncodingFault
  | .int n => if fitsWord n then none else some .integerSize
  | _ => none

def keyFault? : Atom → Option EncodingFault
  | .text s => if s.toList.contains '\x00' then some .keyNull else none
  | key => some (.keyType key)

end Atom

namespace Tree

variable {ι : Type}

mutual

/-- The first fault of a tree. -/
def fault? : Tree ι → Option EncodingFault
  | .atom _ a => a.valueFault?
  | .list _ items => itemsFault? items
  | .dict _ entries => entriesFault? entries

def itemsFault? : List (Tree ι) → Option EncodingFault
  | [] => none
  | t :: ts =>
    match t.fault? with
    | some f => some f
    | none => itemsFault? ts

/-- A key is looked at before its value. -/
def entriesFault? : List (Atom × Tree ι) → Option EncodingFault
  | [] => none
  | (k, t) :: es =>
    match k.keyFault? with
    | some f => some f
    | none =>
      match t.fault? with
      | some f => some f
      | none => entriesFault? es

end

end Tree

end Accounts
