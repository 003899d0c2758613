import FilecoinRosetta.LotusJson.Chain
import FilecoinRosetta.Node.Call

/-!
# Records of calls

A call is recorded as a list: its method, then its arguments. Addresses are in
their display form, the key of a tipset is the list of its identifiers, and
messages are in Lotus JSON.
-/

namespace FilecoinRosetta.Node.Call

/-- A key as an argument. -/
def keyJson (key : TipsetKey) : Json :=
  .arr (key.cids.map fun cid => .str cid.text)

/-- The arguments of a call, with addresses of a network. -/
def arguments (network : Network) : Call → List Json
  | chainHead => []
  | chainGenesis => []
  | tipset key => [keyJson key]
  | tipsetAtOrBelow height key => [.int height.toInt, keyJson key]
  | tipsetAtOrAbove height key => [.int height.toInt, keyJson key]
  | tipsetOfTag tag => [.str tag.name]
  | computeState height key => [.int height.toInt, keyJson key]
  | actor address key => [.str (address.text network), keyJson key]
  | accountKey address key => [.str (address.text network), keyJson key]
  | idAddress address key => [.str (address.text network), keyJson key]
  | robustAddress address key => [.str (address.text network), keyJson key]
  | networkName => []
  | networkVersion key => [keyJson key]
  | actorCodes number => [.nat number.toNat]
  | availableBalance address key => [.str (address.text network), keyJson key]
  | vestingSchedule address key => [.str (address.text network), keyJson key]
  | pendingMessages key => [keyJson key]
  | pushMessage message => [LotusJson.write network message]
  | nextNonce address => [.str (address.text network)]
  | estimateGasLimit message key => [LotusJson.write network message, keyJson key]
  | estimateGasPremium blocks sender gasLimit key =>
      [.nat blocks.toNat, .str (sender.text network), .nat gasLimit.toNat, keyJson key]
  | estimateFeeCap message blocks key =>
      [LotusJson.write network message, .int blocks.toInt, keyJson key]
  | syncState => []
  | peers => []
  | version => []

/-- The record of a call. -/
def record (network : Network) (call : Call) : Json :=
  .arr (.str call.method :: call.arguments network)

end FilecoinRosetta.Node.Call
