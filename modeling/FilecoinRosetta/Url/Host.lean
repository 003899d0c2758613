import FilecoinRosetta.Url.Percent
import FilecoinRosetta.Url.Punycode

/-!
# Hosts of URLs

A host is an IPv6 address in brackets, an IPv4 address, or a domain name. Where the
scheme is one that everyone knows, names are in lower case and in ASCII, and
whatever ends in a number must be an IPv4 address, each of whose parts may be octal
or hexadecimal; elsewhere a host is kept as it is.
-/

namespace FilecoinRosetta.Url

/-- The lower-case form of a character, for the scripts with simple case. Fullwidth
    forms become plain ones. -/
def foldSign (sign : Char) : Char :=
  let code := sign.toNat
  let moved :=
    if 0xFF01 ≤ code ∧ code ≤ 0xFF5E then code - 0xFEE0
    else if 0xC0 ≤ code ∧ code ≤ 0xDE ∧ code ≠ 0xD7 then code + 32
    else if 0x100 ≤ code ∧ code ≤ 0x137 ∧ code % 2 = 0 ∧ code ≠ 0x130 then code + 1
    else if 0x391 ≤ code ∧ code ≤ 0x3A9 then code + 32
    else if 0x410 ≤ code ∧ code ≤ 0x42F then code + 32
    else if 0x400 ≤ code ∧ code ≤ 0x40F then code + 80
    else code
  (Char.ofNat moved).toLower

/-- The points that separate labels. -/
def isLabelPoint (sign : Char) : Bool :=
  sign == '.' || sign.toNat == 0x3002 || sign.toNat == 0xFF61

/-- The characters of a name that count, in the form in which they count. -/
def foldName (name : List Char) : List Char :=
  (name.filter fun sign => sign.toNat != 0xAD).map fun sign =>
    if isLabelPoint sign then '.' else foldSign sign

/-- A label in ASCII. -/
def asciiLabel (label : List Char) : List Char :=
  if label.all fun sign => decide (sign.toNat < 0x80) then label
  else "xn--".toList ++ Punycode.encode label

/-- The signs that no domain name has. -/
def isForbidden (sign : Char) : Bool :=
  decide (sign.toNat ≤ 0x20) || sign.toNat == 0x7F || "#/:<>?@[\\]^|%".toList.contains sign

/-- A domain name in lower case and in ASCII. -/
def asciiName? (name : List Char) : Option (List Char) :=
  let labels := (Text.segments '.' (foldName name)).map asciiLabel
  let ascii := ['.'].intercalate labels
  if ascii.isEmpty ∨ ascii.any isForbidden then none else some ascii

/-- A part of an IPv4 address: decimal, octal behind a zero, or hexadecimal behind
`0x`. -/
def looseNumber? (digits : List Char) : Option Nat :=
  match digits with
  | [] => none
  | ['0'] => some 0
  | '0' :: 'x' :: rest => if rest.isEmpty then some 0 else Internet.Ipv6.hexNumber? rest
  | '0' :: 'X' :: rest => if rest.isEmpty then some 0 else Internet.Ipv6.hexNumber? rest
  | '0' :: rest =>
      if rest.all fun sign => decide ('0' ≤ sign ∧ sign ≤ '7') then
        some (rest.foldl (fun number sign => number * 8 + (sign.toNat - '0'.toNat)) 0)
      else none
  | decimal => Text.Integer.natural? decimal

/-- The labels of a name, without the empty one behind a point at its end. -/
def labelsOf (name : List Char) : List (List Char) :=
  match (Text.segments '.' name).reverse with
  | [] :: first :: rest => (first :: rest).reverse
  | labels => labels.reverse

/-- Whether a name ends in a number. -/
def endsInNumber (name : List Char) : Bool :=
  match (labelsOf name).getLast? with
  | none => false
  | some last =>
      (!last.isEmpty && last.all fun sign => decide ('0' ≤ sign ∧ sign ≤ '9')) ||
        (looseNumber? last).isSome

/-- The address of parts, of which the last one fills all places that are left. -/
def looseAddress? (parts : List Nat) : Option Internet.Ipv4 :=
  match parts.reverse with
  | [] => none
  | last :: higher =>
      if 3 < higher.length ∨ higher.any (fun part => decide (255 < part)) ∨
          Nat.pow 256 (4 - higher.length) ≤ last then none
      else
        let upper := higher.reverse.foldl (fun bits part => bits * 256 + part) 0
        some ⟨UInt32.ofNat (upper * Nat.pow 256 (4 - higher.length) + last)⟩

/-- A name that ends in a number as an IPv4 address. -/
def looseIpv4? (name : List Char) : Option Internet.Ipv4 := do
  looseAddress? (← (labelsOf name).mapM looseNumber?)

/-- The inside of brackets as a host. -/
def bracketedHost? (text : List Char) : Option String :=
  if text.getLast? = some ']' then
    (Internet.Ipv6.parse? text.dropLast).map fun address => "[" ++ address.text ++ "]"
  else none

/-- A host where the scheme is one that everyone knows. -/
def knownHost? (text : List Char) : Option String :=
  match text with
  | '[' :: rest => bracketedHost? rest
  | text => do
      let name ← asciiName? (← utf8Text? (unescape text)).toList
      if endsInNumber name then (looseIpv4? name).map Internet.Ipv4.text
      else some (String.ofList name)

/-- A host under any other scheme. -/
def opaqueHost? (text : List Char) : Option String :=
  match text with
  | '[' :: rest => bracketedHost? rest
  | text =>
      if text.any fun sign => "\x00\t\n\r #/:<>?@[\\]^|".toList.contains sign then none
      else some (String.ofList (escape [] text))

end FilecoinRosetta.Url
