import FilecoinRosetta.Internet.Ipv4

/-!
# IPv6 addresses

Eight groups of sixteen bits in hexadecimal, separated by colons. Two colons
stand for one or more groups of zeros, and the last two groups may be written
as an IPv4 address. Writing leaves out the longest run of zero groups, the
first one of several.
-/

namespace FilecoinRosetta.Internet

/-- An IPv6 address. -/
structure Ipv6 where
  /-- Its groups of sixteen bits. -/
  groups : List Nat
  deriving DecidableEq, Repr

namespace Ipv6

/-- The value of a hexadecimal digit of either case. -/
def hexDigit? (sign : Char) : Option Nat :=
  if '0' ≤ sign ∧ sign ≤ '9' then some (sign.toNat - '0'.toNat)
  else if 'a' ≤ sign ∧ sign ≤ 'f' then some (sign.toNat - 'a'.toNat + 10)
  else if 'A' ≤ sign ∧ sign ≤ 'F' then some (sign.toNat - 'A'.toNat + 10)
  else none

/-- The number that hexadecimal digits stand for. -/
def hexNumber? (digits : List Char) : Option Nat := do
  let values ← digits.mapM hexDigit?
  some (values.foldl (fun number digit => number * 16 + digit) 0)

/-- One group: up to four digits. -/
def group? (digits : List Char) : Option Nat :=
  if digits.isEmpty ∨ 4 < digits.length then none else hexNumber? digits

/-- Groups between colons. The last one may be an IPv4 address, which makes two. -/
def groups? : List (List Char) → Option (List Nat)
  | [] => some []
  | [last] =>
      if last.contains '.' then
        (Ipv4.parse? last).map fun address =>
          [address.bits.toNat / 0x10000, address.bits.toNat % 0x10000]
      else (group? last).map fun group => [group]
  | first :: rest => do
      let group ← group? first
      some (group :: (← groups? rest))

/-- Groups in a part of a text, none in an empty one. -/
def side? (text : List Char) : Option (List Nat) :=
  if text.isEmpty then some [] else groups? (Text.segments ':' text)

/-- What stands before and behind the first two colons in a row. -/
def splitGap : List Char → Option (List Char × List Char)
  | ':' :: ':' :: rest => some ([], rest)
  | sign :: rest => (splitGap rest).map fun (before, behind) => (sign :: before, behind)
  | [] => none

/-- Read the text of an address. -/
def parse? (text : List Char) : Option Ipv6 :=
  match splitGap text with
  | none => do
      let groups ← side? text
      if groups.length = 8 then some ⟨groups⟩ else none
  | some (before, behind) =>
      if before.contains '.' then none
      else do
        let first ← side? before
        let last ← side? behind
        let known := first.length + last.length
        if known < 8 then some ⟨first ++ List.replicate (8 - known) 0 ++ last⟩ else none

/-- The digits of a group without leading zeros. -/
def groupText (group : Nat) : String :=
  String.ofList (Nat.toDigits 16 group)

/-- The length of the run of zeros at the beginning. -/
def zeroRun (groups : List Nat) : Nat :=
  (groups.takeWhile (· == 0)).length

/-- The start and length of the longest run of zeros, from a position on. -/
def longestZeroRun (position : Nat) : List Nat → Nat × Nat
  | [] => (position, 0)
  | group :: rest =>
      let here := zeroRun (group :: rest)
      let later := longestZeroRun (position + 1) rest
      if later.2 ≤ here then (position, here) else later

/-- The text of groups between colons. -/
def groupsText (groups : List Nat) : String :=
  ":".intercalate (groups.map groupText)

/-- The text of an address. A single zero group is written out. -/
def text (address : Ipv6) : String :=
  let (start, length) := longestZeroRun 0 address.groups
  if length < 2 then groupsText address.groups
  else groupsText (address.groups.take start) ++ "::" ++
    groupsText (address.groups.drop (start + length))

/-- The IPv4 address that is embedded in an address, if one is. -/
def embedded? (address : Ipv6) : Option Ipv4 :=
  match address.groups with
  | [0, 0, 0, 0, 0, 0xffff, high, low] => some ⟨UInt32.ofNat (high * 0x10000 + low)⟩
  | _ => none

/-- The text of an address, with an embedded IPv4 address in its own form. -/
def mixedText (address : Ipv6) : String :=
  match address.embedded? with
  | some inner => "::ffff:" ++ inner.text
  | none => address.text

end Ipv6

end FilecoinRosetta.Internet
