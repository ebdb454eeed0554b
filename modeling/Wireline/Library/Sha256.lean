import Wireline.Library.BigEndian

namespace Sha256

/-!
# SHA-256 and its HMAC

The digest works on blocks of 64 octets.  A block is expanded to 64 words,
which drive 64 rounds on a state of eight words.
-/

def constants : List UInt32 := [
  0x428a2f98, 0x71374491, 0xb5c0fbcf, 0xe9b5dba5, 0x3956c25b, 0x59f111f1, 0x923f82a4, 0xab1c5ed5,
  0xd807aa98, 0x12835b01, 0x243185be, 0x550c7dc3, 0x72be5d74, 0x80deb1fe, 0x9bdc06a7, 0xc19bf174,
  0xe49b69c1, 0xefbe4786, 0x0fc19dc6, 0x240ca1cc, 0x2de92c6f, 0x4a7484aa, 0x5cb0a9dc, 0x76f988da,
  0x983e5152, 0xa831c66d, 0xb00327c8, 0xbf597fc7, 0xc6e00bf3, 0xd5a79147, 0x06ca6351, 0x14292967,
  0x27b70a85, 0x2e1b2138, 0x4d2c6dfc, 0x53380d13, 0x650a7354, 0x766a0abb, 0x81c2c92e, 0x92722c85,
  0xa2bfe8a1, 0xa81a664b, 0xc24b8b70, 0xc76c51a3, 0xd192e819, 0xd6990624, 0xf40e3585, 0x106aa070,
  0x19a4c116, 0x1e376c08, 0x2748774c, 0x34b0bcb5, 0x391c0cb3, 0x4ed8aa4a, 0x5b9cca4f, 0x682e6ff3,
  0x748f82ee, 0x78a5636f, 0x84c87814, 0x8cc70208, 0x90befffa, 0xa4506ceb, 0xbef9a3f7, 0xc67178f2]

structure State where
  a : UInt32
  b : UInt32
  c : UInt32
  d : UInt32
  e : UInt32
  f : UInt32
  g : UInt32
  h : UInt32

def initial : State :=
  ⟨0x6a09e667, 0xbb67ae85, 0x3c6ef372, 0xa54ff53a, 0x510e527f, 0x9b05688c, 0x1f83d9ab, 0x5be0cd19⟩

def rotr (word : UInt32) (count : UInt32) : UInt32 :=
  (word >>> count) ||| (word <<< (32 - count))

/-- Words to add to the schedule, which is kept newest first. -/
def extend : Nat -> List UInt32 -> List UInt32
  | 0, schedule => schedule
  | count + 1, schedule =>
      let near := schedule.getD 1 0
      let far := schedule.getD 14 0
      let word := (rotr near 17 ^^^ rotr near 19 ^^^ (near >>> 10)) + schedule.getD 6 0 +
        (rotr far 7 ^^^ rotr far 18 ^^^ (far >>> 3)) + schedule.getD 15 0
      extend count (word :: schedule)

/-- The octets as big-endian words. -/
def words : List UInt8 -> List UInt32
  | first :: second :: third :: fourth :: octets =>
      UInt32.ofNat (BigEndian.decode [first, second, third, fourth]) :: words octets
  | _ => []

def round (state : State) (constant word : UInt32) : State :=
  let sum1 := rotr state.e 6 ^^^ rotr state.e 11 ^^^ rotr state.e 25
  let choice := (state.e &&& state.f) ^^^ (~~~state.e &&& state.g)
  let first := state.h + sum1 + choice + constant + word
  let sum0 := rotr state.a 2 ^^^ rotr state.a 13 ^^^ rotr state.a 22
  let majority := (state.a &&& state.b) ^^^ (state.a &&& state.c) ^^^ (state.b &&& state.c)
  ⟨first + (sum0 + majority), state.a, state.b, state.c, state.d + first, state.e, state.f, state.g⟩

def compress (state : State) (block : List UInt8) : State :=
  let schedule := (extend 48 (words block).reverse).reverse
  let last := (constants.zip schedule).foldl (fun state pair => round state pair.1 pair.2) state
  ⟨state.a + last.a, state.b + last.b, state.c + last.c, state.d + last.d,
    state.e + last.e, state.f + last.f, state.g + last.g, state.h + last.h⟩

/-- Compress that many blocks. -/
def absorb : Nat -> State -> List UInt8 -> State
  | 0, state, _ => state
  | blocks + 1, state, octets => absorb blocks (compress state (octets.take 64)) (octets.drop 64)

/-- A marker, zeros to the end of a block, and the length in bits. -/
def pad (message : List UInt8) : List UInt8 :=
  message ++ 0x80 :: List.replicate ((119 - message.length % 64) % 64) 0 ++
    BigEndian.encode 8 (8 * message.length)

def digest (message : List UInt8) : List UInt8 :=
  let state := absorb ((pad message).length / 64) initial (pad message)
  [state.a, state.b, state.c, state.d, state.e, state.f, state.g, state.h].flatMap fun word =>
    BigEndian.encode 4 word.toNat

@[simp] theorem length_digest (message : List UInt8) : (digest message).length = 32 := by
  simp [digest]

-- the digest of "abc" starts with ba7816bf
example : (digest [97, 98, 99]).take 4 = [0xba, 0x78, 0x16, 0xbf] := by decide +kernel

/-- A key longer than a block is replaced by its digest. -/
def hmac (key message : List UInt8) : List UInt8 :=
  let key := if 64 < key.length then digest key else key
  let block := key ++ List.replicate (64 - key.length) 0
  digest (block.map (fun octet => octet ^^^ 0x5c) ++
    digest (block.map (fun octet => octet ^^^ 0x36) ++ message))

@[simp] theorem length_hmac (key message : List UInt8) : (hmac key message).length = 32 :=
  length_digest _

end Sha256
