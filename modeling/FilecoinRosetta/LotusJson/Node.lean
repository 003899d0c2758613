import FilecoinRosetta.ActorState
import FilecoinRosetta.LotusJson.Basic

/-!
# Lotus JSON of actors and peers
-/

namespace FilecoinRosetta.LotusJson

instance : LotusJson ActorState where
  write network state := .obj
    [("Code", write network state.code), ("Head", write network state.head),
     ("Nonce", write network state.nonce), ("Balance", write network state.balance),
     ("DelegatedAddress", write network state.delegatedAddress)]
  read depth json := do
    let found ← Json.fields ["Code", "Head", "Nonce", "Balance", "DelegatedAddress"] depth json
    let code ← found.required "Code" read
    let head ← found.required "Head" read
    let nonce ← found.required "Nonce" read
    let balance ← found.required "Balance" read
    let delegatedAddress ← found.defaulted "DelegatedAddress" read none
    some { code, head, nonce, balance, delegatedAddress }

instance : LotusJson VestingSchedule where
  write network schedule := .obj
    [("InitialBalance", write network schedule.initialBalance),
     ("StartEpoch", write network schedule.startEpoch),
     ("UnlockDuration", write network schedule.unlockDuration)]
  read depth json := do
    let found ← Json.fields ["InitialBalance", "StartEpoch", "UnlockDuration"] depth json
    let initialBalance ← found.required "InitialBalance" read
    let startEpoch ← found.required "StartEpoch" read
    let unlockDuration ← found.required "UnlockDuration" read
    some { initialBalance, startEpoch, unlockDuration }

/-- Network addresses are a plain list: an empty one is not null. -/
instance : LotusJson PeerInfo where
  write network peer := .obj
    [("ID", write network peer.id),
     ("Addrs", match peer.addresses with
        | none => .null
        | some addresses => .arr (addresses.map (write network)))]
  read depth json := do
    let found ← Json.fields ["ID", "Addrs"] depth json
    let id ← found.required "ID" read
    let addresses ← found.defaulted "Addrs" (Json.Reader.list Json.Reader.string).nullable none
    some { id, addresses }

instance : LotusJson NodeVersion where
  write network version := .obj
    [("Version", write network version.version), ("APIVersion", write network version.apiVersion),
     ("BlockDelay", write network version.blockDelay)]
  read depth json := do
    let found ← Json.fields ["Version", "APIVersion", "BlockDelay"] depth json
    let version ← found.required "Version" read
    let apiVersion ← found.required "APIVersion" read
    let blockDelay ← found.required "BlockDelay" read
    some { version, apiVersion, blockDelay }

end FilecoinRosetta.LotusJson
