/-!
# Keccak-256

The sponge with a 136-byte rate, a 32-byte output and the padding `01 … 80`. The state is an array of
twenty-five lanes; lane `x + 5 * y` stands in column `x` and row `y`.
-/

namespace WalletRelay.Keccak

/-- The state of the sponge. -/
abbrev Lanes := Array UInt64

/-- Bytes absorbed by one application of the permutation. -/
def rate : Nat := 136

private def rotate (w : UInt64) (n : UInt64) : UInt64 :=
  (w <<< n) ||| (w >>> (64 - n))

private def roundConstants : List UInt64 :=
  [0x0000000000000001, 0x0000000000008082, 0x800000000000808A, 0x8000000080008000,
   0x000000000000808B, 0x0000000080000001, 0x8000000080008081, 0x8000000000008009,
   0x000000000000008A, 0x0000000000000088, 0x0000000080008009, 0x000000008000000A,
   0x000000008000808B, 0x800000000000008B, 0x8000000000008089, 0x8000000000008003,
   0x8000000000008002, 0x8000000000000080, 0x000000000000800A, 0x800000008000000A,
   0x8000000080008081, 0x8000000000008080, 0x0000000080000001, 0x8000000080008008]

/-- For each lane of the permuted state, the lane it comes from and the rotation on the way. -/
private def moves : Array (Nat × UInt64) :=
  #[(0, 0), (6, 44), (12, 43), (18, 21), (24, 14),
    (3, 28), (9, 20), (10, 3), (16, 45), (22, 61),
    (1, 1), (7, 6), (13, 25), (19, 8), (20, 18),
    (4, 27), (5, 36), (11, 10), (17, 15), (23, 56),
    (2, 62), (8, 55), (14, 39), (15, 41), (21, 2)]

/-- Add to every lane the parities of two neighbouring columns. -/
private def mixColumns (s : Lanes) : Lanes :=
  let parity := (Array.range 5).map fun x =>
    s[x]! ^^^ s[x + 5]! ^^^ s[x + 10]! ^^^ s[x + 15]! ^^^ s[x + 20]!
  let change := (Array.range 5).map fun x =>
    parity[(x + 4) % 5]! ^^^ rotate parity[(x + 1) % 5]! 1
  s.mapIdx fun i lane => lane ^^^ change[i % 5]!

private def moveLanes (s : Lanes) : Lanes :=
  moves.map fun m => rotate s[m.1]! m.2

/-- Combine each lane with the next two of its row. -/
private def mixRows (s : Lanes) : Lanes :=
  s.mapIdx fun i lane =>
    let row := i - i % 5
    lane ^^^ (~~~ s[row + (i + 1) % 5]! &&& s[row + (i + 2) % 5]!)

/-- The permutation: twenty-four rounds. -/
def permute (s : Lanes) : Lanes :=
  roundConstants.foldl
    (fun s c => (mixRows (moveLanes (mixColumns s))).modify 0 (· ^^^ c)) s

/-- Eight bytes as a lane, the least significant byte first. -/
private def laneOf (bytes : List UInt8) : UInt64 :=
  bytes.foldr (fun b n => (n <<< 8) ||| b.toUInt64) 0

/-- The bytes of a lane, the least significant first. -/
private def laneBytes (lane : UInt64) : List UInt8 :=
  (List.range 8).map fun i => (lane >>> (8 * i).toUInt64).toUInt8

/-- Add a block of `rate` bytes to the state and permute it. -/
private def absorb (s : Lanes) (block : List UInt8) : Lanes :=
  permute (s.mapIdx fun i lane =>
    if i < 17 then lane ^^^ laneOf ((block.drop (8 * i)).take 8) else lane)

/-- The message followed by `01`, zeros and `80`, up to a multiple of `rate`. -/
private def padMessage (message : List UInt8) : List UInt8 :=
  let missing := rate - message.length % rate
  if missing = 1 then message ++ [0x81]
  else message ++ [0x01] ++ List.replicate (missing - 2) 0 ++ [0x80]

private def blocks (bytes : List UInt8) : List (List UInt8) :=
  (List.range (bytes.length / rate)).map fun i => (bytes.drop (rate * i)).take rate

def hash (message : List UInt8) : List UInt8 :=
  let final := (blocks (padMessage message)).foldl absorb (Array.replicate 25 0)
  (List.range 4).flatMap fun i => laneBytes final[i]!

end WalletRelay.Keccak
