import FilecoinRosetta.Actor.Kind

/-!
# Methods of the builtin actors

Every method that an actor had in any version, with the versions that have it.
Numbers of at least `2 ^ 24` are hashes of exported names, which anyone may call;
most of them exist since version 10.
-/

namespace FilecoinRosetta.Actor

/-- A method and the versions of its actor that have it. -/
structure Method where
  number : UInt64
  name : String
  /-- The first version that has it. -/
  since : UInt32
  /-- The last version that has it, if it was removed. -/
  last : Option UInt32
  deriving DecidableEq, Repr

namespace Method

/-- A method of every version. -/
def always (number : UInt64) (name : String) : Method :=
  ⟨number, name, 0, none⟩

/-- A method that was added in a version. -/
def added (since : UInt32) (number : UInt64) (name : String) : Method :=
  ⟨number, name, since, none⟩

/-- A method that was removed behind a version. -/
def removed (last : UInt32) (number : UInt64) (name : String) : Method :=
  ⟨number, name, 0, some last⟩

/-- Whether a version has the method. -/
def existsIn (method : Method) (version : UInt32) : Bool :=
  method.since ≤ version && method.last.all fun last => decide (version ≤ last)

end Method

/-- The first number of exported methods. -/
def firstExported : UInt64 := 0x1000000

/-- Methods of system. -/
def systemMethods : List Method :=
  [.always 1 "Constructor"]

/-- Methods of init. -/
def initMethods : List Method :=
  [.always 1 "Constructor",
   .always 2 "Exec",
   .added 10 3 "Exec4"]

/-- Methods of cron. -/
def cronMethods : List Method :=
  [.always 1 "Constructor",
   .always 2 "EpochTick"]

/-- Methods of account. -/
def accountMethods : List Method :=
  [.always 1 "Constructor",
   .always 2 "PubkeyAddress",
   ⟨3, "AuthenticateMessage", 9, some 9⟩,
   .added 10 2643134072 "AuthenticateMessageExported",
   .added 10 3726118371 "UniversalReceiverHook"]

/-- Methods of storagePower. -/
def storagePowerMethods : List Method :=
  [.always 1 "Constructor",
   .always 2 "CreateMiner",
   .always 3 "UpdateClaimedPower",
   .always 4 "EnrollCronEvent",
   .always 5 "OnEpochTickEnd",
   .always 6 "UpdatePledgeTotal",
   .removed 2 7 "OnConsensusFault",
   .always 8 "SubmitPoRepForBulkVerify",
   .always 9 "CurrentTotalPower",
   .added 10 1173380165 "CreateMinerExported"]

/-- Methods of storageMiner. -/
def storageMinerMethods : List Method :=
  [.always 1 "Constructor",
   .always 2 "ControlAddresses",
   .always 3 "ChangeWorkerAddress",
   .always 4 "ChangePeerID",
   .always 5 "SubmitWindowedPoSt",
   .always 6 "PreCommitSector",
   .always 7 "ProveCommitSector",
   .always 8 "ExtendSectorExpiration",
   .always 9 "TerminateSectors",
   .always 10 "DeclareFaults",
   .always 11 "DeclareFaultsRecovered",
   .always 12 "OnDeferredCronEvent",
   .always 13 "CheckSectorProven",
   .always 14 "ApplyRewards",
   .always 15 "ReportConsensusFault",
   .always 16 "WithdrawBalance",
   .always 17 "ConfirmSectorProofsValid",
   .always 18 "ChangeMultiaddrs",
   .always 19 "CompactPartitions",
   .always 20 "CompactSectorNumbers",
   .always 21 "ConfirmUpdateWorkerKey",
   .always 22 "RepayDebt",
   .always 23 "ChangeOwnerAddress",
   .added 3 24 "DisputeWindowedPoSt",
   .added 5 25 "PreCommitSectorBatch",
   .added 5 26 "ProveCommitAggregate",
   .added 7 27 "ProveReplicaUpdates",
   .added 9 28 "PreCommitSectorBatch2",
   .added 9 29 "ProveReplicaUpdates2",
   .added 9 30 "ChangeBeneficiary",
   .added 9 31 "GetBeneficiary",
   .added 9 32 "ExtendSectorExpiration2",
   .added 10 2280458852 "WithdrawBalanceExported",
   .added 10 1010589339 "ChangeWorkerAddressExported",
   .added 10 1716466614 "ChangePeerIDExported",
   .added 10 1063480576 "ChangeMultiaddrsExported",
   .added 10 2354970453 "ConfirmChangeWorkerAddressExported",
   .added 10 3665352697 "RepayDebtExported"]

/-- Methods of storageMarket. -/
def storageMarketMethods : List Method :=
  [.always 1 "Constructor",
   .always 2 "AddBalance",
   .always 3 "WithdrawBalance",
   .always 4 "PublishStorageDeals",
   .always 5 "VerifyDealsForActivation",
   .always 6 "ActivateDeals",
   .always 7 "OnMinerSectorsTerminate",
   .always 8 "ComputeDataCommitment",
   .always 9 "CronTick",
   .added 10 822473126 "AddBalanceExported",
   .added 10 2280458852 "WithdrawBalanceExported",
   .added 10 2236929350 "PublishStorageDealsExported"]

/-- Methods of paymentChannel. -/
def paymentChannelMethods : List Method :=
  [.always 1 "Constructor",
   .always 2 "UpdateChannelState",
   .always 3 "Settle",
   .always 4 "Collect"]

/-- Methods of multisig. -/
def multisigMethods : List Method :=
  [.always 1 "Constructor",
   .always 2 "Propose",
   .always 3 "Approve",
   .always 4 "Cancel",
   .always 5 "AddSigner",
   .always 6 "RemoveSigner",
   .always 7 "SwapSigner",
   .always 8 "ChangeNumApprovalsThreshold",
   .added 2 9 "LockBalance",
   .added 10 3726118371 "UniversalReceiverHook"]

/-- Methods of reward. -/
def rewardMethods : List Method :=
  [.always 1 "Constructor",
   .always 2 "AwardBlockReward",
   .always 3 "ThisEpochReward",
   .always 4 "UpdateNetworkKPI"]

/-- Methods of verifiedRegistry. -/
def verifiedRegistryMethods : List Method :=
  [.always 1 "Constructor",
   .always 2 "AddVerifier",
   .always 3 "RemoveVerifier",
   .always 4 "AddVerifiedClient",
   .removed 8 5 "UseBytes",
   .removed 8 6 "RestoreBytes",
   .always 7 "RemoveVerifiedClientDataCap",
   .added 9 8 "RemoveExpiredAllocations",
   .added 9 9 "ClaimAllocations",
   .added 9 10 "GetClaims",
   .added 9 11 "ExtendClaimTerms",
   .added 9 12 "RemoveExpiredClaims"]

/-- Methods of dataCap. -/
def dataCapMethods : List Method :=
  [.always 1 "Constructor",
   .always 2 "Mint",
   .always 3 "Destroy"]

/-- Methods of evm. -/
def evmMethods : List Method :=
  [.always 1 "Constructor",
   .always 2 "Resurrect",
   .always 3 "GetBytecode",
   .always 4 "GetBytecodeHash",
   .always 5 "GetStorageAt",
   .always 6 "InvokeContractDelegate",
   .always 3844450837 "InvokeContract"]

/-- Methods of eam. -/
def eamMethods : List Method :=
  [.always 1 "Constructor",
   .always 2 "Create",
   .always 3 "Create2",
   .always 4 "CreateExternal"]

/-- Methods of ethAccount. -/
def ethAccountMethods : List Method :=
  [.always 1 "Constructor"]

/-- Methods of placeholder. -/
def placeholderMethods : List Method :=
  []

/-- Every method of an actor, over all versions, in the order of their tables. -/
def methodsOf : ActorKind → List Method
  | .system => systemMethods
  | .init => initMethods
  | .cron => cronMethods
  | .account => accountMethods
  | .storagePower => storagePowerMethods
  | .storageMiner => storageMinerMethods
  | .storageMarket => storageMarketMethods
  | .paymentChannel => paymentChannelMethods
  | .multisig => multisigMethods
  | .reward => rewardMethods
  | .verifiedRegistry => verifiedRegistryMethods
  | .dataCap => dataCapMethods
  | .evm => evmMethods
  | .eam => eamMethods
  | .ethAccount => ethAccountMethods
  | .placeholder => placeholderMethods

end FilecoinRosetta.Actor
