import ThalerNodelib.Fallible
import ThalerNodelib.LazyCell
import ThalerNodelib.Runs
import ThalerNodelib.Types
import ThalerNodelib.WithdrawUnbonded
import ThalerNodelib.WithdrawUnbondedSteps
import ThalerNodelib.WitnessFreshness
import ThalerNodelib.WithdrawRecomputation
import ThalerNodelib.QueryTransparency
import ThalerNodelib.Deposit
import ThalerNodelib.DepositHistory
import ThalerNodelib.MultiSigSession
import ThalerNodelib.MultiSigHistory
import ThalerNodelib.MultiSigGates
import ThalerNodelib.Transfer
import ThalerNodelib.TransferSteps
import ThalerNodelib.Codec
import ThalerNodelib.Crates
import ThalerNodelib.FunctionTypes
import ThalerNodelib.PublicBuilders
import ThalerNodelib.NativeStaking
import ThalerNodelib.NativeTransfer
import ThalerNodelib.NativeFromCrates
import ThalerNodelib.Binomial
import ThalerNodelib.Loops
import ThalerNodelib.Rounding
import ThalerNodelib.LeavesExact
import ThalerNodelib.Units
import ThalerNodelib.Templates
import ThalerNodelib.NumberText
import ThalerNodelib.HDWallet
import ThalerNodelib.DerivationPaths
import ThalerNodelib.Leaves
import ThalerNodelib.SampleCrates
import ThalerNodelib.LeafCounts
import ThalerNodelib.NetworkIdentification
import ThalerNodelib.TransferPayload
import ThalerNodelib.NativeExport
import ThalerNodelib.DepositExport
import ThalerNodelib.WithdrawUnbondedExport
import ThalerNodelib.CompletedExport
import ThalerNodelib.SignedHex
import ThalerNodelib.UnjailVerification
import ThalerNodelib.StrictDecoding
import ThalerNodelib.Marshalling
import ThalerNodelib.FailureAtomicity
import ThalerNodelib.TransferCompletion
import ThalerNodelib.TransferOrder
import ThalerNodelib.OutputCounts
import ThalerNodelib.MultiSigContents
import ThalerNodelib.MultiSigBuilder
import ThalerNodelib.SignerPolicy
import ThalerNodelib.SignerOrder
import ThalerNodelib.Parties
import ThalerNodelib.MultiSigProtocol
import ThalerNodelib.MultiSigLockstep
import ThalerNodelib.MultiSigAgreement
import ThalerNodelib.PublicExport
import ThalerNodelib.Submissions
import ThalerNodelib.Json
import ThalerNodelib.NodeMetaData
import ThalerNodelib.Progress
import ThalerNodelib.Addresses
import ThalerNodelib.Spending
import ThalerNodelib.AddressErrors
