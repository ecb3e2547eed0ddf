import PeriphMap.FileTree
import PeriphMap.Main
import PeriphMap.Proofs.Identifiers
import PeriphMap.Proofs.Runs
import PeriphMap.Proofs.Interrupts
import PeriphMap.Proofs.Literals
import PeriphMap.Proofs.Entries
import PeriphMap.Proofs.Tables
import PeriphMap.Proofs.Columns
import PeriphMap.Proofs.Code
import PeriphMap.Proofs.Reading
import PeriphMap.Proofs.Evaluation
import PeriphMap.Proofs.Words
import PeriphMap.Proofs.Numerals
import PeriphMap.Proofs.Names
import PeriphMap.Proofs.Slots
import PeriphMap.Proofs.Declarations
import PeriphMap.Proofs.Meaning
import PeriphMap.Proofs.StrictNames
import PeriphMap.Proofs.Concatenation
import PeriphMap.Proofs.Selection
import PeriphMap.Proofs.Notices
import PeriphMap.Proofs.Canonical
import PeriphMap.Proofs.AllOrNothing
import PeriphMap.Proofs.Verbosity
import PeriphMap.Proofs.KnownFields
import PeriphMap.Proofs.Requirements
import PeriphMap.Proofs.DeviceLists
import PeriphMap.Proofs.Layout
import PeriphMap.Proofs.Collisions
import PeriphMap.Proofs.Calls
