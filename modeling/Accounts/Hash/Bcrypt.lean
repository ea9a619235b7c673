import Accounts.Hash.Blowfish
import Accounts.Number.Power
import Accounts.Text.Numeral
import Accounts.Text.Split

/-!
The bcrypt hash of a password: a dollar-separated text of version, cost, salt and digest. Verifying
hashes again with what the stored text says and compares the whole of it.
-/
namespace Accounts.Bcrypt

/-! ## Base 64 with its own alphabet -/

/-- Dot and slash, then capitals, small letters and digits. -/
def letter (n : Nat) : Char :=
  if n < 2 then Char.ofNat (0x2E + n)
  else if n < 28 then Char.ofNat (0x41 + (n - 2))
  else if n < 54 then Char.ofNat (0x61 + (n - 28))
  else Char.ofNat (0x30 + (n - 54))

def letterValue? (c : Char) : Option Nat :=
  let n := c.toNat
  if n = 0x2E ∨ n = 0x2F then some (n - 0x2E)
  else if 0x41 ≤ n ∧ n ≤ 0x5A then some (n - 0x41 + 2)
  else if 0x61 ≤ n ∧ n ≤ 0x7A then some (n - 0x61 + 28)
  else if 0x30 ≤ n ∧ n ≤ 0x39 then some (n - 0x30 + 54)
  else none

theorem letterValue?_letter {n : Nat} (h : n < 64) : letterValue? (letter n) = some n := by
  have all : ∀ m < 64, letterValue? (letter m) = some m := by decide
  exact all n h

/-- Three bytes make four letters; what is missing at the end counts as zero and is not written. -/
def toLetters : List UInt8 → List Char
  | a :: b :: c :: rest =>
    letter (a.toNat / 4) :: letter (a.toNat % 4 * 16 + b.toNat / 16) ::
      letter (b.toNat % 16 * 4 + c.toNat / 64) :: letter (c.toNat % 64) :: toLetters rest
  | [a, b] =>
    [letter (a.toNat / 4), letter (a.toNat % 4 * 16 + b.toNat / 16), letter (b.toNat % 16 * 4)]
  | [a] => [letter (a.toNat / 4), letter (a.toNat % 4 * 16)]
  | [] => []

/-- The bytes of a list of values below 64; bits that fill no byte are dropped. -/
def ofValues : List Nat → List UInt8
  | w :: x :: y :: z :: rest =>
    UInt8.ofNat (w * 4 + x / 16) :: UInt8.ofNat (x % 16 * 16 + y / 4) ::
      UInt8.ofNat (y % 4 * 64 + z) :: ofValues rest
  | [w, x, y] => [UInt8.ofNat (w * 4 + x / 16), UInt8.ofNat (x % 16 * 16 + y / 4)]
  | [w, x] => [UInt8.ofNat (w * 4 + x / 16)]
  | _ => []

/-- The bytes that letters stand for. The bits that fill no byte have to be zero. -/
def ofLetters? (cs : List Char) : Option (List UInt8) :=
  match cs.mapM letterValue? with
  | some ns => if toLetters (ofValues ns) = cs then some (ofValues ns) else none
  | none => none

/-! ## The digest -/

/-- The text that is enciphered 64 times. -/
def plaintext : List UInt8 := ("OrpheanBeholderScryDoubt").toUTF8.data.toList

def blockPasses : Nat := 64
def digestSize : Nat := 23

def wordBytes (w : UInt32) : List UInt8 :=
  [(w >>> 24).toUInt8, (w >>> 16).toUInt8, (w >>> 8).toUInt8, w.toUInt8]

/-- One block, enciphered again and again. -/
def encipherBlock (s : Blowfish.State) (l r : UInt32) : List UInt8 :=
  let pass := fun b => Blowfish.encipher s.keys s.boxes b.1 b.2
  let (l, r) := Blowfish.iterate pass blockPasses (l, r)
  wordBytes l ++ wordBytes r

def encipherBlocks (s : Blowfish.State) : List UInt32 → List UInt8
  | l :: r :: rest => encipherBlock s l r ++ encipherBlocks s rest
  | _ => []

def passwordLimit : Nat := 72

/-- The bytes of a password; a zero byte ends the key unless the password fills it. -/
def key (password : String) : List UInt8 := (password.toUTF8.data.toList ++ [0]).take passwordLimit

/-- The digest of a password under a cost and a salt of 16 bytes. -/
def digest (cost : Nat) (salt : List UInt8) (password : String) : List UInt8 :=
  let s := Blowfish.slowSchedule cost salt (key password)
  (encipherBlocks s (Blowfish.cyclicWords 6 plaintext).toList).take digestSize

/-! ## Hashes -/

structure Parameters where
  version : List Char
  cost : Nat
  salt : List UInt8
  deriving DecidableEq, Repr

def versions : List (List Char) := [['2', 'a'], ['2', 'b'], ['2', 'x'], ['2', 'y']]
def currentVersion : List Char := ['2', 'b']
def leastCost : Nat := 4
def greatestCost : Nat := 31
def saltLetters : Nat := 22

/-- Every version computes the same digest. -/
def render (p : Parameters) (password : String) : List Char :=
  '$' :: (p.version ++ '$' :: (Text.zeroPad 2 (Text.decimal p.cost) ++
    '$' :: (toLetters p.salt ++ toLetters (digest p.cost p.salt password))))

def salt? (text : List Char) : Option (List UInt8) :=
  if saltLetters ≤ text.length then ofLetters? (text.take saltLetters) else none

def parameters? (stored : List Char) : Option Parameters :=
  match Text.splitOn '$' stored with
  | [[], version, cost, rest] =>
    if versions.contains version ∧ cost ≠ [] ∧ cost.all Char.isDigit ∧
        leastCost ≤ Text.ofDecimal cost ∧ Text.ofDecimal cost ≤ greatestCost then
      (salt? rest).map fun salt => ⟨version, Text.ofDecimal cost, salt⟩
    else none
  | _ => none

inductive Error where
  | invalidRounds
  /-- The rounds are no number of 16 bits. -/
  | roundsSize
  /-- The rounds are no number of 64 bits. -/
  | roundsWord
  | invalidSalt
  | longPassword
  deriving DecidableEq, Repr

/-- The password is longer than the key of the cipher. -/
def isLong (password : String) : Bool := Nat.blt passwordLimit password.utf8ByteSize

def cost (rounds : Int) : Except Error Nat :=
  if rounds < -(twoPow 63 : Int) ∨ (twoPow 63 : Int) ≤ rounds then .error .roundsWord
  else if rounds < 0 ∨ (twoPow 16 : Int) ≤ rounds then .error .roundsSize
  else if rounds < leastCost ∨ greatestCost < rounds then .error .invalidRounds
  else .ok rounds.toNat

/-- The salt that is given for a hash: the only part between dollars, or the beginning of it. -/
def givenSalt? (salt : String) : Option (List UInt8) :=
  match (Text.splitOn '$' salt.toList).filter (! ·.isEmpty) with
  | [letters] => salt? letters
  | _ => none

/-- The hash of a password. The rounds are looked at first, then the password, then the salt. -/
def hash (rounds : Int) (salt password : String) : Except Error String :=
  match cost rounds with
  | .error e => .error e
  | .ok cost =>
    if isLong password then .error .longPassword
    else
      match givenSalt? salt with
      | some bytes => .ok (String.ofList (render ⟨currentVersion, cost, bytes⟩ password))
      | none => .error .invalidSalt

/-- The stored text is the hash of the password under the parameters it states. -/
def verify (password stored : String) : Bool :=
  if isLong password then false
  else
    match parameters? stored.toList with
    | some p => String.ofList (render p password) == stored
    | none => false

end Accounts.Bcrypt
