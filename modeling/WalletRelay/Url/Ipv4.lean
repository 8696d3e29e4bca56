import WalletRelay.Text.Split

/-!
# IPv4 addresses in URLs

An address is up to four numbers with dots between them, each decimal, octal behind a `0`, or hexadecimal
behind `0x`. The last number fills all the bytes that the others leave.
-/

namespace WalletRelay.Url.Ipv4

/-- The value of a digit of a base up to sixteen. -/
def digit? (base : Nat) (c : Char) : Option Nat :=
  let n := c.toLower.toNat
  let value? :=
    if 48 ≤ n ∧ n ≤ 57 then some (n - 48)
    else if 97 ≤ n ∧ n ≤ 102 then some (n - 87)
    else none
  value?.filter fun v => decide (v < base)

/-- The number that digits write; no digits write zero. -/
def digits? (base : Nat) (cs : List Char) : Option Nat :=
  cs.foldlM (fun n c => (digit? base c).map fun v => base * n + v) 0

def number? : List Char → Option Nat
  | [] => none
  | '0' :: 'x' :: cs => digits? 16 cs
  | '0' :: 'X' :: cs => digits? 16 cs
  | '0' :: c :: cs => digits? 8 (c :: cs)
  | cs => digits? 10 cs

/-- The parts of a host; a dot at its end opens no part. -/
def parts (host : List Char) : List (List Char) :=
  let all := Text.splitAt '.' host
  if 1 < all.length ∧ all.getLast? = some [] then all.dropLast else all

/-- Whether the last part of a host is a number: then the host has to be an address. -/
def endsInNumber (host : List Char) : Bool :=
  match (parts host).getLast? with
  | none => false
  | some last => (!last.isEmpty && last.all Char.isDigit) || (number? last).isSome

/-- The address that numbers make: all but the last are bytes. -/
def ofNumbers? (numbers : List Nat) : Option Nat :=
  match numbers.reverse with
  | [] => none
  | last :: front =>
    let high := front.reverse.foldl (fun n byte => 256 * n + byte) 0
    let room := Nat.pow 256 (4 - front.length)
    if numbers.length ≤ 4 ∧ front.all (· < 256) ∧ last < room then some (high * room + last) else none

def parse? (host : List Char) : Option Nat :=
  ((parts host).mapM number?).bind ofNumbers?

/-- The written form: four bytes with dots between them. -/
def toText (address : Nat) : String :=
  ".".intercalate ([3, 2, 1, 0].map fun i => toString (address / Nat.pow 256 i % 256))

end WalletRelay.Url.Ipv4
