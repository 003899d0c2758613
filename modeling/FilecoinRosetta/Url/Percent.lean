import FilecoinRosetta.Bytes
import FilecoinRosetta.Internet.Ipv6

/-!
# Percent signs in URLs

A character that may not stand in some part of a URL is written as its
bytes in UTF-8, each as a percent sign and two digits. Control characters
and everything beyond ASCII is written so everywhere; which other
characters are depends on the part.
-/

namespace FilecoinRosetta.Url

/-- Control characters, and characters beyond ASCII. -/
def isControl (sign : Char) : Bool :=
  sign.toNat < 0x20 || 0x7F ≤ sign.toNat

/-- The signs that are escaped in a fragment. -/
def fragmentSigns : List Char := [' ', '"', '<', '>', '\x60']

/-- The signs that are escaped in a path. -/
def pathSigns : List Char := fragmentSigns ++ ['#', '?', '\x7b', '\x7d']

/-- The signs that are escaped in names and passwords of users. -/
def userSigns : List Char := pathSigns ++ ['/', ':', ';', '=', '@', '[', '\\', ']', '^', '|']

/-- The signs that are escaped in a query. -/
def querySigns : List Char := [' ', '"', '#', '<', '>']

/-- The signs that are escaped in a query where the path has a
hierarchy known to everyone. -/
def specialQuerySigns : List Char := querySigns ++ ['\'']

/-- The two upper-case digits of a byte. -/
def byteDigits (byte : UInt8) : List Char :=
  [byte.toNat / 16, byte.toNat % 16].map fun digit => "0123456789ABCDEF".toList.getD digit '0'

/-- A character as it is written in a part where some signs are escaped. -/
def escapeSign (signs : List Char) (sign : Char) : List Char :=
  if isControl sign || signs.contains sign then
    (utf8 (String.ofList [sign])).flatMap fun byte => '%' :: byteDigits byte
  else [sign]

/-- A text as it is written in a part where some signs are escaped. -/
def escape (signs : List Char) (text : List Char) : List Char :=
  text.flatMap (escapeSign signs)

/-- The bytes of a text after its escapes are resolved. A percent sign that starts
    no escape stands for itself. -/
def unescape : List Char → Bytes
  | [] => []
  | '%' :: high :: low :: rest =>
      match Internet.Ipv6.hexDigit? high, Internet.Ipv6.hexDigit? low with
      | some upper, some lower => UInt8.ofNat (16 * upper + lower) :: unescape rest
      | _, _ => utf8 "%" ++ unescape (high :: low :: rest)
  | sign :: rest => utf8 (String.ofList [sign]) ++ unescape rest

end FilecoinRosetta.Url
