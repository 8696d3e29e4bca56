/-!
# SHA-512

The hash with eighty rounds on 64-bit words and a 64-byte digest.
-/

namespace WalletRelay.Sha512

/-- The eight words that are carried from block to block. -/
structure State where
  a : UInt64
  b : UInt64
  c : UInt64
  d : UInt64
  e : UInt64
  f : UInt64
  g : UInt64
  h : UInt64
deriving DecidableEq, Repr

def State.initial : State where
  a := 0x6A09E667F3BCC908
  b := 0xBB67AE8584CAA73B
  c := 0x3C6EF372FE94F82B
  d := 0xA54FF53A5F1D36F1
  e := 0x510E527FADE682D1
  f := 0x9B05688C2B3E6C1F
  g := 0x1F83D9ABFB41BD6B
  h := 0x5BE0CD19137E2179

private def roundConstants : List UInt64 := [
  0x428A2F98D728AE22, 0x7137449123EF65CD, 0xB5C0FBCFEC4D3B2F, 0xE9B5DBA58189DBBC,
  0x3956C25BF348B538, 0x59F111F1B605D019, 0x923F82A4AF194F9B, 0xAB1C5ED5DA6D8118,
  0xD807AA98A3030242, 0x12835B0145706FBE, 0x243185BE4EE4B28C, 0x550C7DC3D5FFB4E2,
  0x72BE5D74F27B896F, 0x80DEB1FE3B1696B1, 0x9BDC06A725C71235, 0xC19BF174CF692694,
  0xE49B69C19EF14AD2, 0xEFBE4786384F25E3, 0x0FC19DC68B8CD5B5, 0x240CA1CC77AC9C65,
  0x2DE92C6F592B0275, 0x4A7484AA6EA6E483, 0x5CB0A9DCBD41FBD4, 0x76F988DA831153B5,
  0x983E5152EE66DFAB, 0xA831C66D2DB43210, 0xB00327C898FB213F, 0xBF597FC7BEEF0EE4,
  0xC6E00BF33DA88FC2, 0xD5A79147930AA725, 0x06CA6351E003826F, 0x142929670A0E6E70,
  0x27B70A8546D22FFC, 0x2E1B21385C26C926, 0x4D2C6DFC5AC42AED, 0x53380D139D95B3DF,
  0x650A73548BAF63DE, 0x766A0ABB3C77B2A8, 0x81C2C92E47EDAEE6, 0x92722C851482353B,
  0xA2BFE8A14CF10364, 0xA81A664BBC423001, 0xC24B8B70D0F89791, 0xC76C51A30654BE30,
  0xD192E819D6EF5218, 0xD69906245565A910, 0xF40E35855771202A, 0x106AA07032BBD1B8,
  0x19A4C116B8D2D0C8, 0x1E376C085141AB53, 0x2748774CDF8EEB99, 0x34B0BCB5E19B48A8,
  0x391C0CB3C5C95A63, 0x4ED8AA4AE3418ACB, 0x5B9CCA4F7763E373, 0x682E6FF3D6B2B8A3,
  0x748F82EE5DEFB2FC, 0x78A5636F43172F60, 0x84C87814A1F0AB72, 0x8CC702081A6439EC,
  0x90BEFFFA23631E28, 0xA4506CEBDE82BDE9, 0xBEF9A3F7B2C67915, 0xC67178F2E372532B,
  0xCA273ECEEA26619C, 0xD186B8C721C0C207, 0xEADA7DD6CDE0EB1E, 0xF57D4F7FEE6ED178,
  0x06F067AA72176FBA, 0x0A637DC5A2C898A6, 0x113F9804BEF90DAE, 0x1B710B35131C471B,
  0x28DB77F523047D84, 0x32CAAB7B40C72493, 0x3C9EBE0A15C9BEBC, 0x431D67C49C100D4C,
  0x4CC5D4BECB3E42B6, 0x597F299CFC657E2A, 0x5FCB6FAB3AD6FAEC, 0x6C44198C4A475817]

private def rotate (w n : UInt64) : UInt64 :=
  (w >>> n) ||| (w <<< (64 - n))

private def smallSigma0 (w : UInt64) : UInt64 :=
  rotate w 1 ^^^ rotate w 8 ^^^ (w >>> 7)

private def smallSigma1 (w : UInt64) : UInt64 :=
  rotate w 19 ^^^ rotate w 61 ^^^ (w >>> 6)

private def bigSigma0 (w : UInt64) : UInt64 :=
  rotate w 28 ^^^ rotate w 34 ^^^ rotate w 39

private def bigSigma1 (w : UInt64) : UInt64 :=
  rotate w 14 ^^^ rotate w 18 ^^^ rotate w 41

/-- The words of all rounds: the sixteen words of the block, then each from four before it. -/
private def schedule (block : Array UInt64) : Array UInt64 :=
  (List.range 64).foldl
    (fun w t => w.push (smallSigma1 w[t + 14]! + w[t + 9]! + smallSigma0 w[t + 1]! + w[t]!)) block

/-- One round; `k` is the sum of its constant and its word. -/
@[inline] private def State.round (s : State) (k : UInt64) : State :=
  let choose := (s.e &&& s.f) ^^^ (~~~ s.e &&& s.g)
  let majority := (s.a &&& s.b) ^^^ (s.a &&& s.c) ^^^ (s.b &&& s.c)
  let t1 := s.h + bigSigma1 s.e + choose + k
  let t2 := bigSigma0 s.a + majority
  ⟨t1 + t2, s.a, s.b, s.c, s.d + t1, s.e, s.f, s.g⟩

/-- Run the rounds over the constants and the words of the schedule, from word `t` on. -/
private def State.rounds (w : Array UInt64) : List UInt64 → (t : Nat) → State → State
  | [], _, s => s
  | k :: ks, t, s => State.rounds w ks (t + 1) (s.round (k + w[t]!))

/-- Take in a block of sixteen words. -/
def State.compress (s : State) (block : Array UInt64) : State :=
  let r := State.rounds (schedule block) roundConstants 0 s
  ⟨s.a + r.a, s.b + r.b, s.c + r.c, s.d + r.d, s.e + r.e, s.f + r.f, s.g + r.g, s.h + r.h⟩

def blockSize : Nat := 128

private def wordOf (bytes : List UInt8) : UInt64 :=
  bytes.foldl (fun w b => (w <<< 8) ||| b.toUInt64) 0

private def wordBytes (w : UInt64) : List UInt8 :=
  (List.range 8).map fun i => (w >>> (8 * (7 - i)).toUInt64).toUInt8

private def blockWords (bytes : List UInt8) : Array UInt64 :=
  (Array.range 16).map fun i => wordOf ((bytes.drop (8 * i)).take 8)

/-- The bytes after a message of `total` bytes: `80`, zeros and the number of bits. -/
private def padding (total : Nat) : List UInt8 :=
  let used := (total + 1 + 16) % blockSize
  0x80 :: List.replicate ((blockSize - used) % blockSize) 0 ++
    (List.range 16).map fun i => UInt8.ofNat (8 * total / Nat.pow 256 (15 - i))

/-- Take in whole blocks. -/
private def State.absorb (s : State) (bytes : List UInt8) : State :=
  (List.range (bytes.length / blockSize)).foldl
    (fun s i => s.compress (blockWords ((bytes.drop (blockSize * i)).take blockSize))) s

/-- Take in the end of a message; `before` bytes of it, whole blocks, are already in the state. -/
def State.finish (s : State) (before : Nat) (bytes : List UInt8) : State :=
  s.absorb (bytes ++ padding (before + bytes.length))

def State.digest (s : State) : List UInt8 :=
  [s.a, s.b, s.c, s.d, s.e, s.f, s.g, s.h].flatMap wordBytes

def hash (message : List UInt8) : List UInt8 :=
  (State.initial.finish 0 message).digest

end WalletRelay.Sha512
