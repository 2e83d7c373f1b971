import Paging.Main
import Paging.Proofs.Text.Hexadecimal
import Paging.Proofs.Dialogue.Course
import Paging.Proofs.Dialogue.Rounds
import Paging.Proofs.Address.Layout
import Paging.Proofs.Address.Canonical
import Paging.Proofs.AppTable.Collect
import Paging.Proofs.Dialogue.Cut
import Paging.Proofs.Text.OneLine
import Paging.Proofs.Dialogue.Subject
import Paging.Proofs.Command.Agreement
import Paging.Proofs.AppTable.Reading
import Paging.Proofs.AppTable.Pack
import Paging.Proofs.AppTable.Assembler
import Paging.Proofs.FileSystem.Growth
import Paging.Proofs.AppTable.Unlisted
import Paging.Proofs.Address.Gap
import Paging.Proofs.Dialogue.Strictness
import Paging.Proofs.Dialogue.Spacing
import Paging.Proofs.Dialogue.Output
import Paging.Proofs.Address.OneSided
import Paging.Proofs.Dialogue.Chronicle
import Paging.Proofs.Command.Notes
import Paging.Proofs.Command.Reading
import Paging.Proofs.Command.Unfiltered
import Paging.Proofs.Command.Filtering
import Paging.Proofs.Command.Acceptance
import Paging.Proofs.Command.Stages
import Paging.Proofs.Address.Order
import Paging.Proofs.Address.Reduction
import Paging.Proofs.Entry.Layout
import Paging.Proofs.Entry.Building
import Paging.Proofs.Entry.Decoding
import Paging.Proofs.Report.Address
import Paging.Proofs.Entry.Letters
import Paging.Proofs.Report.Entry
import Paging.Proofs.Text.Case
import Paging.Proofs.Command.Settings
import Paging.Proofs.Command.Variable
import Paging.Proofs.Command.Pausing
import Paging.Proofs.Command.Crossing
