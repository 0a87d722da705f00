/-!
The SHA-256 digest. A message is padded to whole blocks of 64 octets; every block is expanded to
64 words, which are mixed into a state of eight words one after the other.
-/

namespace SupplyGraph.Sha256

/-- The first 32 bits of the fractional parts of the cube roots of the first 64 primes. -/
def roundConstants : List UInt32 :=
  [0x428a2f98, 0x71374491, 0xb5c0fbcf, 0xe9b5dba5, 0x3956c25b, 0x59f111f1, 0x923f82a4, 0xab1c5ed5,
    0xd807aa98, 0x12835b01, 0x243185be, 0x550c7dc3, 0x72be5d74, 0x80deb1fe, 0x9bdc06a7, 0xc19bf174,
    0xe49b69c1, 0xefbe4786, 0x0fc19dc6, 0x240ca1cc, 0x2de92c6f, 0x4a7484aa, 0x5cb0a9dc, 0x76f988da,
    0x983e5152, 0xa831c66d, 0xb00327c8, 0xbf597fc7, 0xc6e00bf3, 0xd5a79147, 0x06ca6351, 0x14292967,
    0x27b70a85, 0x2e1b2138, 0x4d2c6dfc, 0x53380d13, 0x650a7354, 0x766a0abb, 0x81c2c92e, 0x92722c85,
    0xa2bfe8a1, 0xa81a664b, 0xc24b8b70, 0xc76c51a3, 0xd192e819, 0xd6990624, 0xf40e3585, 0x106aa070,
    0x19a4c116, 0x1e376c08, 0x2748774c, 0x34b0bcb5, 0x391c0cb3, 0x4ed8aa4a, 0x5b9cca4f, 0x682e6ff3,
    0x748f82ee, 0x78a5636f, 0x84c87814, 0x8cc70208, 0x90befffa, 0xa4506ceb, 0xbef9a3f7, 0xc67178f2]

structure State where
  a : UInt32
  b : UInt32
  c : UInt32
  d : UInt32
  e : UInt32
  f : UInt32
  g : UInt32
  h : UInt32
deriving DecidableEq, Repr

/-- The first 32 bits of the fractional parts of the square roots of the first eight primes. -/
def State.initial : State :=
  ⟨0x6a09e667, 0xbb67ae85, 0x3c6ef372, 0xa54ff53a, 0x510e527f, 0x9b05688c, 0x1f83d9ab, 0x5be0cd19⟩

def State.add (left right : State) : State :=
  ⟨left.a + right.a, left.b + right.b, left.c + right.c, left.d + right.d, left.e + right.e,
    left.f + right.f, left.g + right.g, left.h + right.h⟩

def rotateRight (word : UInt32) (count : UInt32) : UInt32 :=
  (word >>> count) ||| (word <<< (32 - count))

/-- The octets of a number of at most 64 bits, the most significant first. -/
def octets (count : Nat) (number : UInt64) : List UInt8 :=
  (List.range count).reverse.map (fun place => (number >>> (8 * place.toUInt64)).toUInt8)

/-- Appends a set bit, zeros up to a whole number of blocks, and the length in bits. -/
def pad (message : List UInt8) : List UInt8 :=
  let length := message.length
  let zeros := (119 - length % 64) % 64
  message ++ 0x80 :: List.replicate zeros 0 ++ octets 8 (8 * length).toUInt64

/-- The words of a block, four octets each. -/
def words : List UInt8 → List UInt32
  | first :: second :: third :: fourth :: rest =>
      ((first.toUInt32 <<< 24) ||| (second.toUInt32 <<< 16) ||| (third.toUInt32 <<< 8)
        ||| fourth.toUInt32) :: words rest
  | _ => []

/-- The next word of the expansion of a block, the words so far given in reverse order. -/
def nextWord (recent : List UInt32) : UInt32 :=
  let back (distance : Nat) : UInt32 := recent.getD (distance - 1) 0
  let near := back 2
  let far := back 15
  (rotateRight near 17 ^^^ rotateRight near 19 ^^^ (near >>> 10)) + back 7
    + (rotateRight far 7 ^^^ rotateRight far 18 ^^^ (far >>> 3)) + back 16

/-- Expands the words of a block by a number of words, all in reverse order. -/
def expand : Nat → List UInt32 → List UInt32
  | 0, recent => recent
  | count + 1, recent => expand count (nextWord recent :: recent)

/-- Mixes one word of a block and its constant into the state. -/
def State.round (state : State) (constant word : UInt32) : State :=
  let choice := (state.e &&& state.f) ^^^ (~~~state.e &&& state.g)
  let majority := (state.a &&& state.b) ^^^ (state.a &&& state.c) ^^^ (state.b &&& state.c)
  let spreadE := rotateRight state.e 6 ^^^ rotateRight state.e 11 ^^^ rotateRight state.e 25
  let spreadA := rotateRight state.a 2 ^^^ rotateRight state.a 13 ^^^ rotateRight state.a 22
  let mixed := state.h + spreadE + choice + constant + word
  ⟨mixed + spreadA + majority, state.a, state.b, state.c, state.d + mixed, state.e, state.f,
    state.g⟩

/-- Mixes a block into the state. -/
def State.mix (state : State) (block : List UInt8) : State :=
  let schedule := (expand 48 (words block).reverse).reverse
  let mixed :=
    (roundConstants.zip schedule).foldl (fun state pair => state.round pair.1 pair.2) state
  state.add mixed

/-- Mixes whole blocks of octets into the state. -/
def State.mixAll (state : State) (message : List UInt8) : State :=
  if message.isEmpty then state
  else (state.mix (message.take 64)).mixAll (message.drop 64)
termination_by message.length
decreasing_by
  rename_i hne
  have hpos : message.length ≠ 0 := by simpa [List.isEmpty_iff] using hne
  simp only [List.length_drop]
  omega

/-- The octets of the digest of a message. -/
def digest (message : List UInt8) : List UInt8 :=
  let state := State.initial.mixAll (pad message)
  [state.a, state.b, state.c, state.d, state.e, state.f, state.g, state.h].flatMap (fun word =>
    octets 4 word.toUInt64)

/-- A digit of a hexadecimal number in lower case. -/
def hexDigit (value : UInt8) : Char :=
  if value < 10 then Char.ofNat (value.toNat + '0'.toNat)
  else Char.ofNat (value.toNat - 10 + 'a'.toNat)

/-- Octets in hexadecimal. -/
def hex (message : List UInt8) : String :=
  String.ofList (message.flatMap (fun octet => [hexDigit (octet / 16), hexDigit (octet % 16)]))

/-- The digest of octets in hexadecimal. -/
def hexDigest (message : List UInt8) : String := hex (digest message)

/-- The digest of the UTF-8 octets of a text in hexadecimal. -/
def ofText (text : String) : String := hexDigest text.toUTF8.toList

end SupplyGraph.Sha256
