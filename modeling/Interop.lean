import Interop.Main
import Interop.Managed.Description
import Interop.Managed.Model
import Interop.Proofs.Arguments.Parser
import Interop.Proofs.Command.Interference
import Interop.Proofs.Command.Interleaving
import Interop.Proofs.Crossing
import Interop.Proofs.Json.Reports
import Interop.Proofs.Managed.Checked
import Interop.Proofs.Managed.EditLanguage
import Interop.Proofs.Managed.Hidden
import Interop.Proofs.Managed.Runs
import Interop.Proofs.Managed.Walk
import Interop.Proofs.Rendering.Colors
import Interop.Proofs.Rendering.Columns
import Interop.Proofs.Rendering.SectionReport
import Interop.Proofs.Rendering.StringReport
import Interop.Proofs.Rendering.TextRow
import Interop.Proofs.Sections.Publishing
import Interop.Proofs.Sections.RoundTrip
import Interop.Sections.DeviceTable
