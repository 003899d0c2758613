/-!
# Networks

The name of the network a node belongs to decides one thing: the
first letter of displayed addresses.
-/

namespace FilecoinRosetta

/-- Which letter addresses are displayed with. -/
inductive Network where
  /-- The main network, letter `f`. -/
  | mainnet
  /-- Any other network, letter `t`. -/
  | testnet
  deriving DecidableEq, Repr

namespace Network

/-- The main network is the one of exactly this name. -/
def ofName (name : String) : Network :=
  if name = "mainnet" then mainnet else testnet

/-- The first letter of displayed addresses. -/
def letter : Network → Char
  | mainnet => 'f'
  | testnet => 't'

end Network

end FilecoinRosetta
