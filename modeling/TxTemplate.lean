import TxTemplate.Main
import TxTemplate.Message.Wire
import TxTemplate.TypedData.Unpack
import TxTemplate.Proofs.Bytes.Base58
import TxTemplate.Proofs.Bytes.Base64
import TxTemplate.Proofs.Bytes.Hex
import TxTemplate.Proofs.Bytes.Utf8
import TxTemplate.Proofs.Address
import TxTemplate.Proofs.TypedData.Layout
import TxTemplate.Proofs.Outcome
import TxTemplate.Proofs.TypedData.ByteText
import TxTemplate.Proofs.TypedData.Leaf
import TxTemplate.Proofs.TypedData.Window
import TxTemplate.Proofs.TypedData.Repack
import TxTemplate.Proofs.TypedData.Extent
import TxTemplate.Proofs.TypedData.Pieces
import TxTemplate.Proofs.Reformat
import TxTemplate.Proofs.Reformat.Storing
import TxTemplate.Proofs.Message.Keys
import TxTemplate.Proofs.Message.Groups
import TxTemplate.Proofs.TypedData.Canonical
import TxTemplate.Proofs.TypedData.Places
import TxTemplate.Proofs.TypedData.Integers
import TxTemplate.Proofs.TypedData.Overhang
import TxTemplate.Proofs.Confirmed.Data
import TxTemplate.Proofs.Confirmed.Associated
import TxTemplate.Proofs.Confirmed.FirstPair
import TxTemplate.Proofs.Confirmed.Roster
import TxTemplate.Proofs.Confirmed.Recompile
import TxTemplate.Proofs.Confirmed.BestEffort
import TxTemplate.Proofs.Confirmed.Agreement
import TxTemplate.Proofs.Confirmed.Creation
import TxTemplate.Proofs.Confirmed.Integers
import TxTemplate.Proofs.Confirmed.Reproduce
import TxTemplate.Proofs.Substitution
import TxTemplate.Proofs.Fault.Families
import TxTemplate.Proofs.Job.Retry
import TxTemplate.Proofs.CommandLine.Confirmation
import TxTemplate.Proofs.CommandLine.Ending
import TxTemplate.Proofs.Confirmed.Transfer
import TxTemplate.Proofs.Amount.Grouping
import TxTemplate.Proofs.Placeholder.Exact
import TxTemplate.Proofs.Job.Isolation
import TxTemplate.Proofs.Job.Coverage
import TxTemplate.Proofs.CommandLine.Endpoint
import TxTemplate.Proofs.Settings
