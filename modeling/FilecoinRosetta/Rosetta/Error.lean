import FilecoinRosetta.Node.Basic
import FilecoinRosetta.Rosetta.OperationJson

/-!
# Errors of the service

Every refusal is one of a fixed list of errors, announced to clients beforehand. An
error has a code that never changes, a wording, and a flag that says whether asking
again may help; what caused it may be told in its details.
-/

namespace FilecoinRosetta.Rosetta

/-- The kinds of errors, in the order of their codes. -/
inductive ErrorKind where
  /-- The chain's identifier is not to be had. -/
  | chainIdUnavailable
  /-- The request is for another blockchain. -/
  | invalidBlockchain
  /-- The request is for a sub-network that is not served. -/
  | invalidSubNetwork
  /-- The request is for another network. -/
  | invalidNetwork
  /-- The request names no network. -/
  | missingNetwork
  /-- The node did not tell its head. -/
  | headUnavailable
  /-- The node did not tell its first tipset. -/
  | genesisUnavailable
  /-- The node did not tell about an actor. -/
  | accountUnavailable
  /-- The request leaves open which block it is about. -/
  | insufficientQuery
  /-- The address of an account cannot be read. -/
  | invalidAddress
  /-- The sub-account is none of the three. -/
  | unknownSubAccount
  /-- A block is not to be had. -/
  | blockUnavailable
  /-- The operation needs keys and is left to offline tools. -/
  | notImplemented
  /-- The node did not tell about messages. -/
  | transactionsUnavailable
  /-- The node did not take a message. -/
  | submissionFailed
  /-- The node did not tell a nonce. -/
  | nonceUnavailable
  /-- A value of the request cannot be read. -/
  | malformedValue
  /-- The status of the node is not to be had. -/
  | nodeStatusUnavailable
  /-- The identifier of a tipset is not to be had. -/
  | tipsetCidUnavailable
  /-- The node did not tell its peers. -/
  | peersUnavailable
  /-- The node did not tell a balance. -/
  | balanceUnavailable
  /-- The node did not tell a tipset. -/
  | tipsetUnavailable
  /-- The parent of a tipset is not to be had. -/
  | parentUnavailable
  /-- The node did not tell its version. -/
  | nodeInfoUnavailable
  /-- The node did not tell its progress. -/
  | syncStatusUnavailable
  /-- The block lies ahead of what the node has. -/
  | blockNotSynced
  /-- The node failed to follow the chain. -/
  | syncErrored
  /-- A tipset has no hash. -/
  | tipsetHashUnavailable
  /-- The name of the network is not to be had. -/
  | networkNameUnavailable
  /-- A signed message cannot be read. -/
  | malformedTransaction
  /-- The hash of the request is not that of the block. -/
  | hashMismatch
  /-- A receipt is not to be had. -/
  | receiptUnavailable
  /-- There is not one receipt for each message. -/
  | receiptCountMismatch
  /-- The node did not estimate gas. -/
  | gasEstimateUnavailable
  /-- The sender cannot pay value and gas. -/
  | insufficientBalance
  /-- The node took too long. -/
  | nodeTimedOut
  /-- The node does not follow the chain yet. -/
  | nodeNotSynced
  /-- The sub-account is not one of a multisig. -/
  | notMultisig
  /-- The node did not tell a vesting schedule. -/
  | vestingUnavailable
  /-- The finality tag is none of the three. -/
  | invalidFinalityTag
  /-- There is no such transaction. -/
  | transactionNotFound
  /-- The state of an actor is not to be had. -/
  | actorStateUnavailable
  deriving DecidableEq, Repr

/-- What clients are told about a kind of error. -/
structure ErrorEntry where
  code : Nat
  /-- The wording. -/
  message : String
  /-- Whether asking again may help. -/
  retriable : Bool
  deriving DecidableEq, Repr

namespace ErrorKind

/-- All kinds, in the order of their codes. -/
def all : List ErrorKind :=
  [.chainIdUnavailable, .invalidBlockchain, .invalidSubNetwork, .invalidNetwork, .missingNetwork,
   .headUnavailable, .genesisUnavailable, .accountUnavailable, .insufficientQuery, .invalidAddress,
   .unknownSubAccount, .blockUnavailable, .notImplemented, .transactionsUnavailable,
   .submissionFailed, .nonceUnavailable, .malformedValue, .nodeStatusUnavailable,
   .tipsetCidUnavailable, .peersUnavailable, .balanceUnavailable, .tipsetUnavailable,
   .parentUnavailable, .nodeInfoUnavailable, .syncStatusUnavailable, .blockNotSynced, .syncErrored,
   .tipsetHashUnavailable, .networkNameUnavailable, .malformedTransaction, .hashMismatch,
   .receiptUnavailable, .receiptCountMismatch, .gasEstimateUnavailable, .insufficientBalance,
   .nodeTimedOut, .nodeNotSynced, .notMultisig, .vestingUnavailable, .invalidFinalityTag,
   .transactionNotFound, .actorStateUnavailable]

/-- The table of errors. -/
def entry : ErrorKind → ErrorEntry
  | chainIdUnavailable => ⟨1, "unable to get chain ID", true⟩
  | invalidBlockchain => ⟨2, "invalid blockchain specified in network identifier", false⟩
  | invalidSubNetwork => ⟨3, "invalid sub-network identifier", false⟩
  | invalidNetwork => ⟨4, "invalid network specified in network identifier", false⟩
  | missingNetwork => ⟨5, "network identifier is missing", false⟩
  | headUnavailable => ⟨6, "unable to get latest block", true⟩
  | genesisUnavailable => ⟨7, "unable to get genesis block", true⟩
  | accountUnavailable => ⟨8, "unable to get account", true⟩
  | insufficientQuery => ⟨9, "query inputs insufficient", false⟩
  | invalidAddress => ⟨10, "invalid account address", false⟩
  | unknownSubAccount =>
      ⟨11, "a valid subaccount must be specified ('LockedBalance', 'SpendableBalance' or 'VestingSchedule')",
        false⟩
  | blockUnavailable => ⟨12, "unable to get block", true⟩
  | notImplemented => ⟨13, "operation not implemented", false⟩
  | transactionsUnavailable => ⟨14, "unable to get transactions", true⟩
  | submissionFailed => ⟨15, "unable to submit transaction", false⟩
  | nonceUnavailable => ⟨16, "unable to get next nonce", true⟩
  | malformedValue => ⟨17, "malformed value", false⟩
  | nodeStatusUnavailable => ⟨18, "unable to get node status", true⟩
  | tipsetCidUnavailable => ⟨19, "unable to get tipset CID", true⟩
  | peersUnavailable => ⟨20, "unable to get peer list", true⟩
  | balanceUnavailable => ⟨21, "unable to get balance for address", true⟩
  | tipsetUnavailable => ⟨22, "unable to get tipset", true⟩
  | parentUnavailable => ⟨23, "unable to get parent block", true⟩
  | nodeInfoUnavailable => ⟨24, "unable to get node information", true⟩
  | syncStatusUnavailable => ⟨25, "unable to get sync status", true⟩
  | blockNotSynced => ⟨26, "requested block not yet synchronized", true⟩
  | syncErrored => ⟨27, "error on node sync process", true⟩
  | tipsetHashUnavailable => ⟨28, "error on creating TipSetKey hash", true⟩
  | networkNameUnavailable => ⟨29, "error when querying network name", false⟩
  | malformedTransaction => ⟨30, "malformed transaction", false⟩
  | hashMismatch => ⟨31, "hash does not match with provided block index", false⟩
  | receiptUnavailable => ⟨32, "unable to get transaction receipt", true⟩
  | receiptCountMismatch => ⟨33, "retrieved Messages count don't match with Receipts count", false⟩
  | gasEstimateUnavailable => ⟨34, "unable to estimate gas price", true⟩
  | insufficientBalance => ⟨35, "insufficient balance for gas", false⟩
  | nodeTimedOut => ⟨36, "Lotus RPC call timed out", true⟩
  | nodeNotSynced => ⟨37, "node is not synced yet", true⟩
  | notMultisig => ⟨38, "sub-accounts are only available for multisig addresses", false⟩
  | vestingUnavailable => ⟨39, "unable to get vesting schedule", true⟩
  | invalidFinalityTag => ⟨40, "invalid finality tag", false⟩
  | transactionNotFound => ⟨41, "transaction not found", false⟩
  | actorStateUnavailable => ⟨42, "unable to get actor state", true⟩

/-- Every kind is listed, so the table that is announced leaves none out. -/
theorem mem_all (kind : ErrorKind) : kind ∈ all := by
  cases kind <;> decide

/-- Codes count the kinds from one, without gaps and without repetition. -/
theorem all_codes : all.map (fun kind => kind.entry.code) = (List.range 42).map (· + 1) := by
  decide

end ErrorKind

/-- An error with what is told about its cause. -/
structure ServiceError where
  kind : ErrorKind
  /-- What caused it, if it is told. -/
  details : Option String
  deriving DecidableEq, Repr

namespace ServiceError

/-- An error without a cause. -/
def bare (kind : ErrorKind) : ServiceError := ⟨kind, none⟩

/-- An error with its cause. -/
def because (kind : ErrorKind) (cause : String) : ServiceError := ⟨kind, some cause⟩

/-- The kind of a failed call: a passed time limit has a kind of its own. -/
def kindOfFailure (kind : ErrorKind) (failure : Node.Failure) : ErrorKind :=
  if failure.isTimeout then .nodeTimedOut else kind

/-- The error of a failed call. -/
def ofFailure (kind : ErrorKind) (failure : Node.Failure) : ServiceError :=
  because (kindOfFailure kind failure) failure.message

/-- The error of a failed call whose cause is kept from the client. -/
def ofFailureQuietly (kind : ErrorKind) (failure : Node.Failure) : ServiceError :=
  bare (kindOfFailure kind failure)

/-- An error as clients see it. -/
def json (error : ServiceError) : Json :=
  let entry := error.kind.entry
  present
    [("code", some (.nat entry.code)), ("message", some (.str entry.message)),
     ("retriable", some (.bool entry.retriable)),
     ("details", error.details.map fun cause => .obj [("error", .str cause)])]

end ServiceError

end FilecoinRosetta.Rosetta
