import WalletRelay.Url.Ipv4

/-!
# IPv6 addresses in URLs

An address is eight groups of up to four hexadecimal digits with colons between them. One run of zero
groups may be left out between two colons, and the last two groups may be written as an IPv4 address.
The written form leaves out the first of the longest runs of at least two zero groups.
-/

namespace WalletRelay.Url.Ipv6

def group? (cs : List Char) : Option Nat :=
  if 1 ≤ cs.length ∧ cs.length ≤ 4 then Ipv4.digits? 16 cs else none

/-- A byte of an IPv4 address: decimal digits that do not start with a needless zero. -/
def byte? (cs : List Char) : Option Nat :=
  match cs with
  | [] => none
  | '0' :: _ :: _ => none
  | cs => (Ipv4.digits? 10 cs).filter fun n => decide (n < 256)

/-- Two groups written as an IPv4 address. -/
def dotted? (cs : List Char) : Option (List Nat) :=
  match (Text.splitAt '.' cs).mapM byte? with
  | some [a, b, c, d] => some [256 * a + b, 256 * c + d]
  | _ => none

/-- The groups of the parts between single colons; only the last part may be dotted. -/
def partGroups? : List (List Char) → Option (List Nat)
  | [] => some []
  | [part] => if part.contains '.' then dotted? part else (group? part).map ([·])
  | part :: rest => do
    let group ← group? part
    let groups ← partGroups? rest
    return group :: groups

/-- The groups on one side of the gap. -/
def sideGroups? (mayBeDotted : Bool) (cs : List Char) : Option (List Nat) :=
  if cs.isEmpty then some []
  else if !mayBeDotted && cs.contains '.' then none
  else partGroups? (Text.splitAt ':' cs)

def cutGap : List Char → List Char × Option (List Char)
  | ':' :: ':' :: rest => ([], some rest)
  | [] => ([], none)
  | c :: rest =>
    let (front, back) := cutGap rest
    (c :: front, back)

def parse? (cs : List Char) : Option (List Nat) :=
  match cutGap cs with
  | (_, none) => (partGroups? (Text.splitAt ':' cs)).filter fun groups => groups.length == 8
  | (front, some back) => do
    let high ← sideGroups? false front
    let low ← sideGroups? true back
    let missing := 8 - (high.length + low.length)
    if missing = 0 then none else some (high ++ List.replicate missing 0 ++ low)

/-- The number of zero groups at the front. -/
def zeroRun (groups : List Nat) : Nat :=
  (groups.takeWhile (· == 0)).length

/-- The place and length of the first of the longest runs of zero groups. -/
def longestZeroRun (groups : List Nat) : Nat × Nat :=
  (List.range groups.length).foldl (fun best i =>
    let run := zeroRun (groups.drop i)
    if best.2 < run then (i, run) else best) (0, 0)

def groupsText (groups : List Nat) : String :=
  ":".intercalate (groups.map fun g => String.ofList (Nat.toDigits 16 g))

def toText (groups : List Nat) : String :=
  let (start, run) := longestZeroRun groups
  if run < 2 then groupsText groups
  else groupsText (groups.take start) ++ "::" ++ groupsText (groups.drop (start + run))

end WalletRelay.Url.Ipv6
