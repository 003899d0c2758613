import FilecoinRosetta.Internet.Ipv6

/-!
# Addresses to listen on

An IP address and a port, separated by a colon. IPv6 addresses stand in brackets
and may name a scope.
-/

namespace FilecoinRosetta.Internet

/-- An IP address with a port. -/
inductive SocketAddress where
  | v4 (address : Ipv4) (port : UInt16)
  /-- An IPv6 address within a scope, zero for none. -/
  | v6 (address : Ipv6) (scope : UInt32) (port : UInt16)
  deriving DecidableEq, Repr

namespace SocketAddress

/-- The same address with another port. -/
def withPort (address : SocketAddress) (port : UInt16) : SocketAddress :=
  match address with
  | v4 address _ => v4 address port
  | v6 address scope _ => v6 address scope port

/-- A number below a bound in digits without a sign. -/
def number? (bound : Nat) (digits : List Char) : Option Nat :=
  (Text.Integer.natural? digits).filter (· < bound)

/-- What stands behind a colon: a port. -/
def port? : List Char → Option UInt16
  | ':' :: digits => (number? UInt16.size digits).map UInt16.ofNat
  | _ => none

/-- The inside of brackets: an address, and a scope behind a percent sign. -/
def bracketed? (inside : List Char) : Option (Ipv6 × UInt32) :=
  match Text.segments '%' inside with
  | [address] => (Ipv6.parse? address).map fun address => (address, 0)
  | [address, scope] => do
      let address ← Ipv6.parse? address
      let scope ← number? UInt32.size scope
      some (address, UInt32.ofNat scope)
  | _ => none

/-- Read the text of an address with a port. -/
def parse? (text : String) : Option SocketAddress :=
  match text.toList with
  | '[' :: rest => do
      let (address, scope) ← bracketed? (rest.takeWhile (· != ']'))
      let port ← port? ((rest.dropWhile (· != ']')).drop 1)
      some (v6 address scope port)
  | signs => do
      let address ← Ipv4.parse? (signs.takeWhile (· != ':'))
      let port ← port? (signs.dropWhile (· != ':'))
      some (v4 address port)

/-- The text of an address with a port. -/
def text : SocketAddress → String
  | v4 address port => address.text ++ ":" ++ toString port.toNat
  | v6 address scope port =>
      let zone := if scope = 0 then "" else "%" ++ toString scope.toNat
      "[" ++ address.mixedText ++ zone ++ "]:" ++ toString port.toNat

end SocketAddress

end FilecoinRosetta.Internet
