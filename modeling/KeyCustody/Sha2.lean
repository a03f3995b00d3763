import KeyCustody.Bytes

set_option autoImplicit false

namespace KeyCustody

namespace Sha2

def isPrime (n : Nat) : Bool :=
  2 ≤ n && (List.range n).all fun d => d < 2 || n % d ≠ 0

def primes : List Nat :=
  (List.range 410).filter isPrime

def rootBits (w degree n : Nat) : BitVec w :=
  let scaled := n <<< (degree * w)
  let root := (List.range (w + 3)).foldr
    (fun bit root =>
      let larger := root + 1 <<< bit
      if Nat.pow larger degree ≤ scaled then larger else root) 0
  BitVec.ofNat w root

structure Family (w : Nat) where
  big0 : Nat × Nat × Nat
  big1 : Nat × Nat × Nat
  small0 : Nat × Nat × Nat
  small1 : Nat × Nat × Nat
  constants : List (BitVec w)

def family32 : Family 32 where
  big0 := (2, 13, 22)
  big1 := (6, 11, 25)
  small0 := (7, 18, 3)
  small1 := (17, 19, 10)
  constants := (primes.take 64).map (rootBits 32 3)

def family64 : Family 64 where
  big0 := (28, 34, 39)
  big1 := (14, 18, 41)
  small0 := (1, 8, 7)
  small1 := (19, 61, 6)
  constants := primes.map (rootBits 64 3)

structure State (w : Nat) where
  a : BitVec w
  b : BitVec w
  c : BitVec w
  d : BitVec w
  e : BitVec w
  f : BitVec w
  g : BitVec w
  h : BitVec w

variable {w : Nat}

def State.words (s : State w) : List (BitVec w) :=
  [s.a, s.b, s.c, s.d, s.e, s.f, s.g, s.h]

def State.add (s t : State w) : State w :=
  ⟨s.a + t.a, s.b + t.b, s.c + t.c, s.d + t.d, s.e + t.e, s.f + t.f, s.g + t.g, s.h + t.h⟩

def bigSigma (amounts : Nat × Nat × Nat) (x : BitVec w) : BitVec w :=
  x.rotateRight amounts.1 ^^^ x.rotateRight amounts.2.1 ^^^ x.rotateRight amounts.2.2

def smallSigma (amounts : Nat × Nat × Nat) (x : BitVec w) : BitVec w :=
  x.rotateRight amounts.1 ^^^ x.rotateRight amounts.2.1 ^^^ x >>> amounts.2.2

def choose (x y z : BitVec w) : BitVec w :=
  (x &&& y) ^^^ (~~~x &&& z)

def majority (x y z : BitVec w) : BitVec w :=
  (x &&& y) ^^^ (x &&& z) ^^^ (y &&& z)

def round (family : Family w) (s : State w) (input : BitVec w) : State w :=
  let t1 := s.h + bigSigma family.big1 s.e + choose s.e s.f s.g + input
  let t2 := bigSigma family.big0 s.a + majority s.a s.b s.c
  ⟨t1 + t2, s.a, s.b, s.c, s.d + t1, s.e, s.f, s.g⟩

def schedule (family : Family w) : Nat → List (BitVec w) → List (BitVec w)
  | 0, _ => []
  | count + 1, window =>
      let first := window.headD 0
      let new := smallSigma family.small1 (window.getD 14 0) + window.getD 9 0 +
        smallSigma family.small0 (window.getD 1 0) + first
      first :: schedule family count (window.tail ++ [new])

def readWord (bytes : Bytes) : BitVec w :=
  BitVec.ofNat w (Bytes.toNat bytes)

def writeWord (x : BitVec w) : Bytes :=
  Bytes.ofNat (w / 8) x.toNat

def compress (family : Family w) (s : State w) (block : Bytes) : State w :=
  let words := schedule family family.constants.length ((Bytes.chunks (w / 8) block).map readWord)
  s.add ((List.zipWith (· + ·) family.constants words).foldl (round family) s)

def pad (w : Nat) (message : Bytes) : Bytes :=
  let block := 2 * w
  let used := message.length + 1 + w / 4
  message ++ [0x80] ++ List.replicate ((block - used % block) % block) 0 ++
    Bytes.ofNat (w / 4) (8 * message.length)

def hash (family : Family w) (start : State w) (message : Bytes) : Bytes :=
  let last := (Bytes.chunks (2 * w) (pad w message)).foldl (compress family) start
  last.words.flatMap writeWord

def startOf (w : Nat) (eight : List Nat) : State w :=
  let root (i : Nat) := rootBits w 2 (eight.getD i 0)
  ⟨root 0, root 1, root 2, root 3, root 4, root 5, root 6, root 7⟩

def start256 : State 32 := startOf 32 (primes.take 8)

def start384 : State 64 := startOf 64 ((primes.drop 8).take 8)

def start512 : State 64 := startOf 64 (primes.take 8)

theorem length_hash (family : Family w) (start : State w) (message : Bytes) :
    (hash family start message).length = 8 * (w / 8) := by
  simp [hash, State.words, writeWord]
  omega

end Sha2

inductive HashFunction where
  | sha256
  | sha384
  | sha512
  deriving DecidableEq

namespace HashFunction

def shown : HashFunction → String
  | sha256 => "Sha256"
  | sha384 => "Sha384"
  | sha512 => "Sha512"

def size : HashFunction → Nat
  | sha256 => 32
  | sha384 => 48
  | sha512 => 64

def digest : HashFunction → Bytes → Bytes
  | sha256, message => Sha2.hash Sha2.family32 Sha2.start256 message
  | sha384, message => (Sha2.hash Sha2.family64 Sha2.start384 message).take 48
  | sha512, message => Sha2.hash Sha2.family64 Sha2.start512 message

theorem length_digest (hash : HashFunction) (message : Bytes) :
    (hash.digest message).length = hash.size := by
  cases hash <;> simp [digest, size, Sha2.length_hash]

end HashFunction
end KeyCustody
