import SyncProbe.Frame.Awareness
import SyncProbe.Main
import SyncProbe.Stream
import SyncProbe.Text.Padding
import SyncProbe.Proofs.Varint.Spelling
import SyncProbe.Proofs.Frame.Layout
import SyncProbe.Proofs.Varint.Words
import SyncProbe.Proofs.Varint.Buffer
import SyncProbe.Proofs.Varint.Positions
import SyncProbe.Proofs.Frame.Slices
import SyncProbe.Proofs.Frame.RoundTrip
import SyncProbe.Proofs.Frame.Canonical
import SyncProbe.Proofs.Session.Steps
import SyncProbe.Proofs.Session.Pass
import SyncProbe.Proofs.Session.Timing
import SyncProbe.Proofs.Frame.Extension
import SyncProbe.Proofs.Session.Reading
import SyncProbe.Proofs.Session.Socket
import SyncProbe.Proofs.Session.Wire
import SyncProbe.Proofs.CommandLine.Values
import SyncProbe.Proofs.Program.Story
import SyncProbe.Proofs.Session.Contents
import SyncProbe.Proofs.Output.Lossless
import SyncProbe.Proofs.Output.PlainText
import SyncProbe.Proofs.Program.Admission
import SyncProbe.Proofs.Frame.Account
import SyncProbe.Proofs.Frame.Presence
