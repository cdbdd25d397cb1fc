import HandheldHost.Main
import HandheldHost.Core.Recorder
import HandheldHost.Widget.Exports
import HandheldHost.Proofs.Raster
import HandheldHost.Proofs.Frame
import HandheldHost.Proofs.Compositor
import HandheldHost.Proofs.Player.Run
import HandheldHost.Proofs.Player.Advances
import HandheldHost.Proofs.Player.Reports
import HandheldHost.Proofs.Player.Picture
import HandheldHost.Proofs.Core.Quiet
import HandheldHost.Proofs.Player.DebugSwitch
import HandheldHost.Proofs.Core.Pattern
import HandheldHost.Proofs.Core.Latch
import HandheldHost.Proofs.Player.Buttons
import HandheldHost.Proofs.Player.DebugView
import HandheldHost.Proofs.Session
import HandheldHost.Proofs.Player.Halt
import HandheldHost.Proofs.Widget.Evaluation
import HandheldHost.Proofs.Widget.Settled
import HandheldHost.Proofs.Widget.Turns
import HandheldHost.Proofs.Widget.Alike
import HandheldHost.Proofs.Widget.Reentry
import HandheldHost.Proofs.Widget.FrameLoop
import HandheldHost.Proofs.Widget.CanvasSize
import HandheldHost.Proofs.Widget.FailedStart
import HandheldHost.Proofs.Player.Landmarks
import HandheldHost.Proofs.Widget.SessionMoves
import HandheldHost.Proofs.Widget.Follows
import HandheldHost.Proofs.Widget.Afterlife
import HandheldHost.Proofs.Widget.Lifetime
import HandheldHost.Proofs.Core.Attempts
import HandheldHost.Proofs.Player.Scene
import HandheldHost.Proofs.Inspection.Panel
import HandheldHost.Proofs.CommandLine.Stepping
import HandheldHost.Proofs.CommandLine.Streaming
import HandheldHost.Proofs.Inspection.Line
import HandheldHost.Proofs.Core.Likeness
import HandheldHost.Proofs.Player.Interleaving
import HandheldHost.Proofs.Core.Tally
import HandheldHost.Proofs.Deck
import HandheldHost.Proofs.Player.Conservation
import HandheldHost.Proofs.Painting
import HandheldHost.Proofs.Player.Granularity
import HandheldHost.Proofs.Checkerboard
import HandheldHost.Proofs.Core.Window
import HandheldHost.Proofs.Core.Drawing
import HandheldHost.Proofs.Pixmap
import HandheldHost.Proofs.Text.Hex
import HandheldHost.Proofs.Hexdump
import HandheldHost.Proofs.KeyTable
import HandheldHost.Proofs.Player.Timing
import HandheldHost.Proofs.Text.Unsigned
import HandheldHost.Proofs.CommandLine.Numbers
import HandheldHost.Proofs.Text.Json
import HandheldHost.Proofs.Text.Blank
import HandheldHost.Proofs.Naming
