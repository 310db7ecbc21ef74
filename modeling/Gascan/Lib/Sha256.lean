import Mathlib.Algebra.Ring.Nat
import Mathlib.Data.List.Basic

/-!
# `Gascan.Lib.Sha256`: the SHA-256 digest of a list of bytes

The digest as its specification gives it, over natural numbers below `2 ^ 32`. The message
schedule is a window of sixteen words that slides by one word a round, so that the sixty-four
rounds are one recursion over the round constants.
-/

namespace Gascan.Lib.Sha256

/-- The modulus of the words. -/
def word : Nat := 2 ^ 32

/-- The round constants. -/
def roundConstants : List Nat :=
  [0x428a2f98, 0x71374491, 0xb5c0fbcf, 0xe9b5dba5, 0x3956c25b, 0x59f111f1, 0x923f82a4, 0xab1c5ed5,
   0xd807aa98, 0x12835b01, 0x243185be, 0x550c7dc3, 0x72be5d74, 0x80deb1fe, 0x9bdc06a7, 0xc19bf174,
   0xe49b69c1, 0xefbe4786, 0x0fc19dc6, 0x240ca1cc, 0x2de92c6f, 0x4a7484aa, 0x5cb0a9dc, 0x76f988da,
   0x983e5152, 0xa831c66d, 0xb00327c8, 0xbf597fc7, 0xc6e00bf3, 0xd5a79147, 0x06ca6351, 0x14292967,
   0x27b70a85, 0x2e1b2138, 0x4d2c6dfc, 0x53380d13, 0x650a7354, 0x766a0abb, 0x81c2c92e, 0x92722c85,
   0xa2bfe8a1, 0xa81a664b, 0xc24b8b70, 0xc76c51a3, 0xd192e819, 0xd6990624, 0xf40e3585, 0x106aa070,
   0x19a4c116, 0x1e376c08, 0x2748774c, 0x34b0bcb5, 0x391c0cb3, 0x4ed8aa4a, 0x5b9cca4f, 0x682e6ff3,
   0x748f82ee, 0x78a5636f, 0x84c87814, 0x8cc70208, 0x90befffa, 0xa4506ceb, 0xbef9a3f7, 0xc67178f2]

/-- The working variables. -/
structure State where
  a : Nat
  b : Nat
  c : Nat
  d : Nat
  e : Nat
  f : Nat
  g : Nat
  h : Nat
  deriving DecidableEq

/-- The initial hash value. -/
def initial : State :=
  ⟨0x6a09e667, 0xbb67ae85, 0x3c6ef372, 0xa54ff53a, 0x510e527f, 0x9b05688c, 0x1f83d9ab, 0x5be0cd19⟩

/-- Rotation to the right. -/
def rotr (x n : Nat) : Nat := (x >>> n) ||| ((x <<< (32 - n)) % word)

def bigSigma0 (x : Nat) : Nat := rotr x 2 ^^^ rotr x 13 ^^^ rotr x 22
def bigSigma1 (x : Nat) : Nat := rotr x 6 ^^^ rotr x 11 ^^^ rotr x 25
def smallSigma0 (x : Nat) : Nat := rotr x 7 ^^^ rotr x 18 ^^^ (x >>> 3)
def smallSigma1 (x : Nat) : Nat := rotr x 17 ^^^ rotr x 19 ^^^ (x >>> 10)
def choose (x y z : Nat) : Nat := (x &&& y) ^^^ ((word - 1 - x) &&& z)
def majority (x y z : Nat) : Nat := (x &&& y) ^^^ (x &&& z) ^^^ (y &&& z)

/-- Applies `f` to a number once the number is known, which keeps evaluation strict. -/
def strictly {α : Type} (n : Nat) (f : Nat → α) : α :=
  match n with
  | 0 => f 0
  | m + 1 => f (m + 1)

/-- The rounds of one block. The window holds the next sixteen words of the schedule. -/
def rounds : List Nat → List Nat → State → State
  | k :: ks, w :: window, s =>
    strictly ((smallSigma1 (window.getD 13 0) + window.getD 8 0 + smallSigma0 (window.getD 0 0)
      + w) % word) fun next =>
    strictly (s.h + bigSigma1 s.e + choose s.e s.f s.g + k + w) fun t1 =>
    strictly ((s.d + t1) % word) fun e =>
    strictly ((t1 + bigSigma0 s.a + majority s.a s.b s.c) % word) fun a =>
    rounds ks (window ++ [next]) ⟨a, s.a, s.b, s.c, e, s.e, s.f, s.g⟩
  | _, _, s => s

/-- One block: the rounds, added to the hash value before them. -/
def compress (s : State) (block : List Nat) : State :=
  let t := rounds roundConstants block s
  ⟨(s.a + t.a) % word, (s.b + t.b) % word, (s.c + t.c) % word, (s.d + t.d) % word,
    (s.e + t.e) % word, (s.f + t.f) % word, (s.g + t.g) % word, (s.h + t.h) % word⟩

/-- Four bytes to a word, most significant first. -/
def words : List Nat → List Nat
  | a :: b :: c :: d :: rest => (((a * 256 + b) * 256 + c) * 256 + d) :: words rest
  | _ => []

/-- The `n` bytes of a number, most significant first. -/
def bytesOf : Nat → Nat → List Nat
  | 0, _ => []
  | n + 1, x => (x / 256 ^ n) % 256 :: bytesOf n x

/-- The message with its padding: a set bit, zeros, and the length in bits. -/
def pad (message : List Nat) : List Nat :=
  message ++ 0x80 :: List.replicate ((119 - message.length % 64) % 64) 0 ++
    bytesOf 8 (8 * message.length)

/-- Compresses the blocks of sixteen words, at most `fuel` of them. -/
def blocks : Nat → State → List Nat → State
  | 0, s, _ => s
  | _ + 1, s, [] => s
  | fuel + 1, s, ws => blocks fuel (compress s (ws.take 16)) (ws.drop 16)

/-- The SHA-256 digest of a message, as 32 bytes. -/
def digest (message : List Nat) : List Nat :=
  let ws := words (pad message)
  let s := blocks ws.length initial ws
  [s.a, s.b, s.c, s.d, s.e, s.f, s.g, s.h].flatMap (bytesOf 4)

theorem length_bytesOf (n x : Nat) : (bytesOf n x).length = n := by
  induction n with
  | zero => rfl
  | succ n ih => rw [bytesOf, List.length_cons, ih]

theorem lt_of_mem_bytesOf {n x b : Nat} (h : b ∈ bytesOf n x) : b < 256 := by
  induction n with
  | zero => cases h
  | succ n ih =>
    rcases List.mem_cons.1 h with rfl | h
    · exact Nat.mod_lt _ (by decide)
    · exact ih h

theorem length_digest (message : List Nat) : (digest message).length = 32 := by
  simp [digest, length_bytesOf]

theorem lt_of_mem_digest {message : List Nat} {b : Nat} (h : b ∈ digest message) : b < 256 := by
  obtain ⟨_, -, h⟩ := List.mem_flatMap.1 h
  exact lt_of_mem_bytesOf h

end Gascan.Lib.Sha256
