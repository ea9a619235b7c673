import Accounts.Number.Power

/-!
The Blowfish cipher with the slow key schedule that password hashing uses. Its initial state is the
binary fraction of π, cut into words of 32 bits.
-/
namespace Accounts.Blowfish

/-! ## The digits of π -/

/-- Words of initial state: 18 round keys and four boxes of 256. -/
def wordCount : Nat := 18 + 4 * 256

/-- The sum of `scale / (k * x ^ k)` over odd `k` with alternating signs, from `power = scale / x ^
k` on. The sums of the two signs are kept apart. -/
def arctanTerms (square : Nat) : Nat → Nat → Nat → Nat → Nat → Nat × Nat
  | 0, _, _, plus, minus => (plus, minus)
  | left + 1, k, power, plus, minus =>
    if power = 0 then (plus, minus)
    else arctanTerms square left (k + 2) (power / square) minus (plus + power / k)

/-- `scale * arctan (1 / x)`, up to the rounding of its terms. -/
def arctanInverse (x scale : Nat) : Nat :=
  let (a, b) := arctanTerms (x * x) (Nat.log2 scale + 1) 1 (scale / x) 0 0
  max a b - min a b

/-- π times `2 ^ bits`, cut off. The guard bits outweigh the rounding of all terms. -/
def piScaled (bits : Nat) : Nat :=
  let guard := 64
  let scale := twoPow (bits + guard)
  4 * (4 * arctanInverse 5 scale - arctanInverse 239 scale) / twoPow guard

/-- The fraction of π in words, first word first. -/
def piWords : Array UInt32 :=
  let bits := 32 * wordCount
  let fraction := piScaled bits % twoPow bits
  (Array.range wordCount).map fun i => UInt32.ofNat (fraction >>> (32 * (wordCount - 1 - i)))

/-! ## The cipher -/

/-- Round keys and boxes. The four boxes stand one behind another. -/
structure State where
  keys : Array UInt32
  boxes : Array UInt32

def initial : State := { keys := piWords.extract 0 18, boxes := piWords.extract 18 wordCount }

/-- The round function: a word from each box, chosen by the four bytes. -/
@[inline] def mix (boxes : Array UInt32) (x : UInt32) : UInt32 :=
  let a := boxes.getD (x >>> 24).toNat 0
  let b := boxes.getD (256 + (x >>> 16 &&& 0xFF).toNat) 0
  let c := boxes.getD (512 + (x >>> 8 &&& 0xFF).toNat) 0
  let d := boxes.getD (768 + (x &&& 0xFF).toNat) 0
  ((a + b) ^^^ c) + d

/-- Two rounds at a time, from round key `i` on. -/
def rounds (keys boxes : Array UInt32) : Nat → Nat → UInt32 → UInt32 → UInt32 × UInt32
  | 0, _, l, r => (l, r)
  | left + 1, i, l, r =>
    let r := r ^^^ mix boxes l ^^^ keys.getD i 0
    let l := l ^^^ mix boxes r ^^^ keys.getD (i + 1) 0
    rounds keys boxes left (i + 2) l r

def encipher (keys boxes : Array UInt32) (l r : UInt32) : UInt32 × UInt32 :=
  let (l, r) := rounds keys boxes 8 1 (l ^^^ keys.getD 0 0) r
  (r ^^^ keys.getD 17 0, l)

/-! ## The key schedule -/

def word (a b c d : UInt8) : UInt32 :=
  a.toUInt32 <<< 24 ||| b.toUInt32 <<< 16 ||| c.toUInt32 <<< 8 ||| d.toUInt32

/-- `count` words from bytes that are read over and over. -/
def cyclicWords (count : Nat) (bytes : List UInt8) : Array UInt32 :=
  let bs := bytes.toArray
  let at_ := fun i => bs.getD (i % bs.size) 0
  (Array.range count).map fun i =>
    word (at_ (4 * i)) (at_ (4 * i + 1)) (at_ (4 * i + 2)) (at_ (4 * i + 3))

def xorKeys (keys words : Array UInt32) : Array UInt32 := Array.zipWith (· ^^^ ·) keys words

/-- Replace `left` pairs of round keys by the running cipher text; salt words go into each block. -/
def fillKeys (salt : Array UInt32) (boxes : Array UInt32) :
    Nat → Nat → Array UInt32 → UInt32 → UInt32 → Array UInt32 × UInt32 × UInt32
  | 0, _, keys, l, r => (keys, l, r)
  | left + 1, i, keys, l, r =>
    let (l, r) := encipher keys boxes (l ^^^ salt.getD (i % 4) 0) (r ^^^ salt.getD ((i + 1) % 4) 0)
    fillKeys salt boxes left (i + 2) ((keys.setIfInBounds i l).setIfInBounds (i + 1) r) l r

/-- The same for the boxes. The salt goes on where the round keys left it, after 18 words. -/
def fillBoxes (salt : Array UInt32) (keys : Array UInt32) :
    Nat → Nat → Array UInt32 → UInt32 → UInt32 → Array UInt32
  | 0, _, boxes, _, _ => boxes
  | left + 1, i, boxes, l, r =>
    let (l, r) := encipher keys boxes (l ^^^ salt.getD ((i + 2) % 4) 0)
      (r ^^^ salt.getD ((i + 3) % 4) 0)
    fillBoxes salt keys left (i + 2) ((boxes.setIfInBounds i l).setIfInBounds (i + 1) r) l r

def expand (salt words : Array UInt32) (s : State) : State :=
  let (keys, l, r) := fillKeys salt s.boxes 9 0 (xorKeys s.keys words) 0 0
  { keys := keys, boxes := fillBoxes salt keys 512 0 s.boxes l r }

def noSalt : Array UInt32 := #[0, 0, 0, 0]

def iterate {α : Type} (f : α → α) : Nat → α → α
  | 0, a => a
  | n + 1, a => iterate f n (f a)

/-- The slow schedule: one salted pass, then `2 ^ cost` times the key and the salt in turn. -/
def slowSchedule (cost : Nat) (salt key : List UInt8) : State :=
  let saltWords := cyclicWords 4 salt
  let keyWords := cyclicWords 18 key
  let saltKey := cyclicWords 18 salt
  iterate (fun s => expand noSalt saltKey (expand noSalt keyWords s)) (twoPow cost)
    (expand saltWords keyWords initial)

end Accounts.Blowfish
