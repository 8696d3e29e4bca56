/-!
# SHA-256

The hash with sixty-four rounds on 32-bit words and a 32-byte digest.
-/

namespace WalletRelay.Sha256

/-- The eight words that are carried from block to block. -/
structure State where
  a : UInt32
  b : UInt32
  c : UInt32
  d : UInt32
  e : UInt32
  f : UInt32
  g : UInt32
  h : UInt32
deriving DecidableEq, Repr

def State.initial : State where
  a := 0x6A09E667
  b := 0xBB67AE85
  c := 0x3C6EF372
  d := 0xA54FF53A
  e := 0x510E527F
  f := 0x9B05688C
  g := 0x1F83D9AB
  h := 0x5BE0CD19

private def roundConstants : List UInt32 := [
  0x428A2F98, 0x71374491, 0xB5C0FBCF, 0xE9B5DBA5, 0x3956C25B, 0x59F111F1,
  0x923F82A4, 0xAB1C5ED5, 0xD807AA98, 0x12835B01, 0x243185BE, 0x550C7DC3,
  0x72BE5D74, 0x80DEB1FE, 0x9BDC06A7, 0xC19BF174, 0xE49B69C1, 0xEFBE4786,
  0x0FC19DC6, 0x240CA1CC, 0x2DE92C6F, 0x4A7484AA, 0x5CB0A9DC, 0x76F988DA,
  0x983E5152, 0xA831C66D, 0xB00327C8, 0xBF597FC7, 0xC6E00BF3, 0xD5A79147,
  0x06CA6351, 0x14292967, 0x27B70A85, 0x2E1B2138, 0x4D2C6DFC, 0x53380D13,
  0x650A7354, 0x766A0ABB, 0x81C2C92E, 0x92722C85, 0xA2BFE8A1, 0xA81A664B,
  0xC24B8B70, 0xC76C51A3, 0xD192E819, 0xD6990624, 0xF40E3585, 0x106AA070,
  0x19A4C116, 0x1E376C08, 0x2748774C, 0x34B0BCB5, 0x391C0CB3, 0x4ED8AA4A,
  0x5B9CCA4F, 0x682E6FF3, 0x748F82EE, 0x78A5636F, 0x84C87814, 0x8CC70208,
  0x90BEFFFA, 0xA4506CEB, 0xBEF9A3F7, 0xC67178F2]

private def rotate (w n : UInt32) : UInt32 :=
  (w >>> n) ||| (w <<< (32 - n))

private def smallSigma0 (w : UInt32) : UInt32 :=
  rotate w 7 ^^^ rotate w 18 ^^^ (w >>> 3)

private def smallSigma1 (w : UInt32) : UInt32 :=
  rotate w 17 ^^^ rotate w 19 ^^^ (w >>> 10)

private def bigSigma0 (w : UInt32) : UInt32 :=
  rotate w 2 ^^^ rotate w 13 ^^^ rotate w 22

private def bigSigma1 (w : UInt32) : UInt32 :=
  rotate w 6 ^^^ rotate w 11 ^^^ rotate w 25

/-- The words of all rounds: the sixteen words of the block, then each from four before it. -/
private def schedule (block : Array UInt32) : Array UInt32 :=
  (List.range 48).foldl
    (fun w t => w.push (smallSigma1 w[t + 14]! + w[t + 9]! + smallSigma0 w[t + 1]! + w[t]!)) block

/-- One round; `k` is the sum of its constant and its word. -/
@[inline] private def State.round (s : State) (k : UInt32) : State :=
  let choose := (s.e &&& s.f) ^^^ (~~~ s.e &&& s.g)
  let majority := (s.a &&& s.b) ^^^ (s.a &&& s.c) ^^^ (s.b &&& s.c)
  let t1 := s.h + bigSigma1 s.e + choose + k
  let t2 := bigSigma0 s.a + majority
  ⟨t1 + t2, s.a, s.b, s.c, s.d + t1, s.e, s.f, s.g⟩

/-- Run the rounds over the constants and the words of the schedule, from word `t` on. -/
private def State.rounds (w : Array UInt32) : List UInt32 → (t : Nat) → State → State
  | [], _, s => s
  | k :: ks, t, s => State.rounds w ks (t + 1) (s.round (k + w[t]!))

/-- Take in a block of sixteen words. -/
def State.compress (s : State) (block : Array UInt32) : State :=
  let r := State.rounds (schedule block) roundConstants 0 s
  ⟨s.a + r.a, s.b + r.b, s.c + r.c, s.d + r.d, s.e + r.e, s.f + r.f, s.g + r.g, s.h + r.h⟩

def blockSize : Nat := 64

private def wordOf (bytes : List UInt8) : UInt32 :=
  bytes.foldl (fun w b => (w <<< 8) ||| b.toUInt32) 0

private def wordBytes (w : UInt32) : List UInt8 :=
  (List.range 4).map fun i => (w >>> (8 * (3 - i)).toUInt32).toUInt8

private def blockWords (bytes : List UInt8) : Array UInt32 :=
  (Array.range 16).map fun i => wordOf ((bytes.drop (4 * i)).take 4)

/-- The bytes after a message of `total` bytes: `80`, zeros and the number of bits. -/
private def padding (total : Nat) : List UInt8 :=
  let used := (total + 1 + 8) % blockSize
  0x80 :: List.replicate ((blockSize - used) % blockSize) 0 ++
    (List.range 8).map fun i => UInt8.ofNat (8 * total / Nat.pow 256 (7 - i))

/-- Take in whole blocks. -/
private def State.absorb (s : State) (bytes : List UInt8) : State :=
  (List.range (bytes.length / blockSize)).foldl
    (fun s i => s.compress (blockWords ((bytes.drop (blockSize * i)).take blockSize))) s

/-- Take in the end of a message; `before` bytes of it, whole blocks, are already in the state. -/
def State.finish (s : State) (before : Nat) (bytes : List UInt8) : State :=
  s.absorb (bytes ++ padding (before + bytes.length))

def State.digest (s : State) : List UInt8 :=
  [s.a, s.b, s.c, s.d, s.e, s.f, s.g, s.h].flatMap wordBytes

def hash (message : List UInt8) : List UInt8 :=
  (State.initial.finish 0 message).digest

end WalletRelay.Sha256
