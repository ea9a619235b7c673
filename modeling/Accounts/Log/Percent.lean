import Accounts.Log.Item

/-!
Templates with percent signs. A conversion names a key of a mapping or takes the next argument, and
has flags, a width, a precision and a letter that says how the argument is written. A message is a
list of code points, since a number may be written as a code point that is no character.
-/
namespace Accounts.Log.Percent

inductive Error where
  | incompleteKey
  | incomplete
  | needsMapping
  | missingKey (key : List Char)
  | keyType (container : String)
  | tooFew
  | tooMany
  | unsupported (letter : Char) (index : Nat)
  | starType
  | starSize (precision : Bool)
  | tooBig (precision : Bool)
  | integerType (letter : Char) (type : String)
  | numberType (letter : Char) (type : String)
  | floatType (type : String)
  | charType
  | charRange
  | undefinedInteger
  | infiniteInteger
  | floatRange
  deriving DecidableEq, Repr

namespace Error

def name : Error → String
  | .incompleteKey | .incomplete | .unsupported .. | .tooBig _ | .undefinedInteger => "ValueError"
  | .missingKey _ => "KeyError"
  | .starSize _ | .charRange | .infiniteInteger | .floatRange => "OverflowError"
  | _ => "TypeError"

def message : Error → List Char
  | .incompleteKey => "incomplete format key".toList
  | .incomplete => "incomplete format".toList
  | .needsMapping => "format requires a mapping".toList
  | .missingKey key => Text.quoted .printable key
  | .keyType container => container.toList ++ " indices must be integers or slices, not str".toList
  | .tooFew => "not enough arguments for format string".toList
  | .tooMany => "not all arguments converted during string formatting".toList
  | .unsupported letter index =>
    let shown := if 0x1F ≤ letter.toNat ∧ letter.toNat < 0x7F then letter else '?'
    "unsupported format character '".toList ++ shown :: ("' (0x".toList ++
      Nat.toDigits 16 letter.toNat ++ ") at index ".toList ++ Text.decimal index)
  | .starType => "* wants int".toList
  | .starSize precision =>
    "Python int too large to convert to C ".toList ++
      (if precision then "int" else "ssize_t").toList
  | .tooBig precision => (if precision then "precision too big" else "width too big").toList
  | .integerType letter type =>
    '%' :: letter :: (" format: an integer is required, not ".toList ++ type.toList)
  | .numberType letter type =>
    '%' :: letter :: (" format: a real number is required, not ".toList ++ type.toList)
  | .floatType type => "must be real number, not ".toList ++ type.toList
  | .charType => "%c requires int or char".toList
  | .charRange => "%c arg not in range(0x110000)".toList
  | .undefinedInteger => "cannot convert float NaN to integer".toList
  | .infiniteInteger => "cannot convert float infinity to integer".toList
  | .floatRange => "int too large to convert to float".toList

end Error

/-! ## Arguments -/

/-- The arguments that are left, and the mapping that keys are looked up in. -/
structure Arguments where
  left : List Item
  mapping : Option Item := none
  deriving Repr

namespace Arguments

/-- A tuple is taken item by item; anything else is the only argument, and may be a mapping. -/
def of : Item → Arguments
  | .tuple items => { left := items }
  | .dict entries => { left := [.dict entries], mapping := some (.dict entries) }
  | .list items => { left := [.list items], mapping := some (.list items) }
  | .bytes bs => { left := [.bytes bs], mapping := some (.bytes bs) }
  | item => { left := [item] }

def next (a : Arguments) : Except Error (Item × Arguments) :=
  match a.left with
  | item :: rest => .ok (item, { a with left := rest })
  | [] => .error .tooFew

/-- The value of a key becomes the next argument. -/
def select (a : Arguments) (key : List Char) : Except Error Arguments :=
  match a.mapping with
  | some (.dict entries) =>
    match entries.find? fun e => (Item.text (String.ofList key)).sameKey e.1 with
    | some (_, value) => .ok { a with left := [value] }
    | none => .error (.missingKey key)
  | some (.list _) => .error (.keyType "list")
  | some _ => .error (.keyType "byte")
  | none => .error .needsMapping

end Arguments

/-! ## Conversions -/

/-- What stands between the percent sign and the letter. -/
structure Spec where
  left : Bool := false
  plus : Bool := false
  blank : Bool := false
  alternate : Bool := false
  zero : Bool := false
  width : Option Nat := none
  precision : Option Nat := none
  deriving DecidableEq, Repr

/-- The key up to its closing parenthesis, and the rest. `depth` counts open parentheses. -/
def readKey : Nat → List Char → Option (List Char × List Char)
  | _, [] => none
  | depth, ')' :: s =>
    match depth with
    | 0 => some ([], s)
    | depth + 1 => (readKey depth s).map fun r => (')' :: r.1, r.2)
  | depth, c :: s =>
    (readKey (if c = '(' then depth + 1 else depth) s).map fun r => (c :: r.1, r.2)

def readFlags (spec : Spec) : List Char → Spec × List Char
  | '-' :: s => readFlags { spec with left := true } s
  | '+' :: s => readFlags { spec with plus := true } s
  | ' ' :: s => readFlags { spec with blank := true } s
  | '#' :: s => readFlags { spec with alternate := true } s
  | '0' :: s => readFlags { spec with zero := true } s
  | s => (spec, s)

/-- Largest width and precision. -/
def widthLimit : Nat := twoPow 63 - 1
def precisionLimit : Nat := twoPow 31 - 1

def readNumber (s : List Char) : Option Nat × List Char :=
  match s.span Char.isDigit with
  | ([], _) => (none, s)
  | (ds, rest) => (some (Text.ofDecimal ds), rest)

/-- The whole number that a star takes from the arguments. -/
def star (precision : Bool) (a : Arguments) : Except Error (Int × Arguments) :=
  match a.next with
  | .error e => .error e
  | .ok (item, a) =>
    let limit := if precision then precisionLimit else widthLimit
    let n? : Option Int := match item with
      | .atom (.int n) => some n
      | .atom (.bool b) => some (if b then 1 else 0)
      | _ => none
    match n? with
    | none => .error .starType
    | some n =>
      if -(limit : Int) - 1 ≤ n ∧ n ≤ limit then .ok (n, a) else .error (.starSize precision)

def readWidth (spec : Spec) (a : Arguments) :
    List Char → Except Error (Spec × Arguments × List Char)
  | '*' :: s =>
    match star false a with
    | .error e => .error e
    | .ok (n, a) => .ok ({ spec with left := spec.left || n < 0, width := some n.natAbs }, a, s)
  | s =>
    match readNumber s with
    | (some n, s) =>
      if widthLimit < n then .error (.tooBig false) else .ok ({ spec with width := some n }, a, s)
    | (none, s) => .ok (spec, a, s)

def readPrecision (spec : Spec) (a : Arguments) :
    List Char → Except Error (Spec × Arguments × List Char)
  | '.' :: '*' :: s =>
    match star true a with
    | .error e => .error e
    | .ok (n, a) => .ok ({ spec with precision := some n.toNat }, a, s)
  | '.' :: s =>
    match readNumber s with
    | (some n, s) =>
      if precisionLimit < n then .error (.tooBig true)
      else .ok ({ spec with precision := some n }, a, s)
    | (none, s) => .ok ({ spec with precision := some 0 }, a, s)
  | s => .ok (spec, a, s)

/-- One size letter is allowed and means nothing. -/
def skipSize : List Char → List Char
  | 'h' :: s | 'l' :: s | 'L' :: s => s
  | s => s

/-! ## Layout -/

def spaces (n : Nat) : List Char := List.replicate n ' '

/-- A text in its width, to the right unless flagged left. -/
def pad (spec : Spec) (body : List Char) : List Char :=
  let gap := spaces (spec.width.getD 0 - body.length)
  if spec.left then body ++ gap else gap ++ body

/-- A number in its width. Zeros go between the sign and the digits, blanks in front of the sign. -/
def padNumber (spec : Spec) (negative : Bool) (lead digits : List Char) : List Char :=
  let sign :=
    if negative then ['-'] else if spec.plus then ['+'] else if spec.blank then [' '] else []
  let gap := spec.width.getD 0 - (sign.length + lead.length + digits.length)
  if spec.left then sign ++ lead ++ digits ++ spaces gap
  else if spec.zero then sign ++ lead ++ List.replicate gap '0' ++ digits
  else spaces gap ++ sign ++ lead ++ digits

/-! ## Numbers -/

/-- Towards zero. -/
def truncate : Magnitude → Except Error Int
  | .undefined => .error .undefinedInteger
  | .infinite _ => .error .infiniteInteger
  | .finite s m e =>
    .ok (Magnitude.signed s (if 0 ≤ e then m * twoPow e.toNat else m / twoPow (-e).toNat))

/-- The whole number of an argument; a double has one in decimal only. -/
def wholeNumber (letter : Char) (decimal : Bool) : Item → Except Error Int
  | .atom (.int n) => .ok n
  | .atom (.bool b) => .ok (if b then 1 else 0)
  | .atom (.double x) =>
    if decimal then truncate x.magnitude else .error (.integerType letter "float")
  | item =>
    if decimal then .error (.numberType letter item.typeName)
    else .error (.integerType letter item.typeName)

def upperCase (s : List Char) : List Char := s.map Char.toUpper

def writeInteger (spec : Spec) (letter : Char) (n : Int) : List Char :=
  let (base, lead) := match letter with
    | 'o' => (8, ['0', 'o'])
    | 'x' => (16, ['0', 'x'])
    | 'X' => (16, ['0', 'X'])
    | _ => (10, [])
  let digits := Text.zeroPad (spec.precision.getD 0) (Nat.toDigits base n.natAbs)
  padNumber spec (n < 0) (if spec.alternate then lead else [])
    (if letter = 'X' then upperCase digits else digits)

def double (item : Item) : Except Error Double :=
  let ofInt := fun n => match Double.ofInt? n with
    | some x => .ok x
    | none => .error .floatRange
  match item with
  | .atom (.double x) => .ok x
  | .atom (.int n) => ofInt n
  | .atom (.bool b) => ofInt (if b then 1 else 0)
  | item => .error (.floatType item.typeName)

/-- A double with a fixed number of digits. -/
def writeDouble (spec : Spec) (letter : Char) (x : Double) : List Char :=
  let precision := spec.precision.getD 6
  let body := match x.magnitude with
    | .undefined => Written.nanText
    | .infinite _ => Written.infinityText
    | .finite _ m e =>
      match letter with
      | 'e' | 'E' => Written.exponential spec.alternate precision m e
      | 'f' | 'F' => Written.fixed spec.alternate precision m e
      | _ => Written.general spec.alternate (max precision 1) m e
  padNumber spec (!x.isNaN && x.isNegative) []
    (if letter.isUpper then upperCase body else body)

/-! ## Templates -/

def codes (s : List Char) : List Nat := s.map Char.toNat

def codePoint : Item → Except Error Nat
  | .atom (.text s) =>
    match s.toList with
    | [c] => .ok c.toNat
    | _ => .error .charType
  | .atom (.int n) => if 0 ≤ n ∧ n ≤ 0x10FFFF then .ok n.toNat else .error .charRange
  | .atom (.bool b) => .ok (if b then 1 else 0)
  | _ => .error .charType

def padCode (spec : Spec) (c : Nat) : List Nat :=
  let gap := codes (spaces (spec.width.getD 0 - 1))
  if spec.left then c :: gap else gap ++ [c]

def truncated (spec : Spec) (s : List Char) : List Char :=
  match spec.precision with
  | some n => s.take n
  | none => s

/-- One argument, written as the letter says. -/
def convert (spec : Spec) (letter : Char) (index : Nat) (item : Item) : Except Error (List Nat) :=
  match letter with
  | 's' => .ok (codes (pad spec (truncated spec item.display)))
  | 'r' => .ok (codes (pad spec (truncated spec (item.shown .printable))))
  | 'a' => .ok (codes (pad spec (truncated spec (item.shown .ascii))))
  | 'd' | 'i' | 'u' =>
    (wholeNumber letter true item).map fun n => codes (writeInteger spec letter n)
  | 'o' | 'x' | 'X' =>
    (wholeNumber letter false item).map fun n => codes (writeInteger spec letter n)
  | 'e' | 'E' | 'f' | 'F' | 'g' | 'G' =>
    (double item).map fun x => codes (writeDouble spec letter x)
  | 'c' => (codePoint item).map fun c => padCode spec c
  | _ => .error (.unsupported letter index)

/-- What a conversion may look up by key, and what is left of the template. -/
def selectKey (a : Arguments) : List Char → Except Error (Arguments × List Char)
  | '(' :: s =>
    if a.mapping.isNone then .error .needsMapping
    else
      match readKey 0 s with
      | none => .error .incompleteKey
      | some (key, rest) => (a.select key).map fun a => (a, rest)
  | s => .ok (a, s)

/-- One conversion behind its percent sign: what it writes, and what is left of arguments and
template. `length` is the length of the whole template, from which positions are counted. -/
def conversion (length : Nat) (a : Arguments) (s : List Char) :
    Except Error (List Nat × Arguments × List Char) := do
  let (a, s) ← selectKey a s
  let (spec, s) := readFlags {} s
  let (spec, a, s) ← readWidth spec a s
  let (spec, a, s) ← readPrecision spec a s
  match skipSize s with
  | [] => .error .incomplete
  | letter :: s =>
    let (item, a) ← a.next
    let written ← convert spec letter (length - s.length - 1) item
    .ok (written, a, s)

/-- Fill the template from left to right. The fuel is the length of the template: every conversion
uses up some of it. -/
def fill (length : Nat) : Nat → Arguments → List Char → Except Error (List Nat)
  | 0, _, _ => .error .incomplete
  | _ + 1, a, [] => if a.left.isEmpty || a.mapping.isSome then .ok [] else .error .tooMany
  | fuel + 1, a, '%' :: '%' :: s => (fill length fuel a s).map ('%'.toNat :: ·)
  | fuel + 1, a, '%' :: s =>
    match conversion length a s with
    | .error e => .error e
    | .ok (written, a, s) => (fill length fuel a s).map (written ++ ·)
  | fuel + 1, a, c :: s => (fill length fuel a s).map (c.toNat :: ·)

def format (template : List Char) (arguments : Item) : Except Error (List Nat) :=
  fill template.length (template.length + 1) (Arguments.of arguments) template

end Accounts.Log.Percent
