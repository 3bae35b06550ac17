import CommandPalette.Engine.Creation
import CommandPalette.Host.Stage
import CommandPalette.Log.Output
import CommandPalette.Log.Timer
import CommandPalette.Number.Reader
import CommandPalette.Settings.Loader
import CommandPalette.Text.Case
import CommandPalette.Motion.Index
import CommandPalette.Motion.Part
import CommandPalette.Proofs.Command.Descent
import CommandPalette.Proofs.Command.LongestPath
import CommandPalette.Proofs.Engine.Erasure
import CommandPalette.Proofs.Engine.Supersession
import CommandPalette.Proofs.Host.Stage
import CommandPalette.Proofs.Motion.Code
import CommandPalette.Proofs.Motion.Segment
import CommandPalette.Proofs.Engine.Menu
import CommandPalette.Proofs.Engine.Turn
import CommandPalette.Proofs.Engine.Coherence
import CommandPalette.Proofs.Engine.Waiting
import CommandPalette.Proofs.Engine.Highlighted
import CommandPalette.Proofs.Engine.JumpCode
import CommandPalette.Proofs.Engine.History
import CommandPalette.Proofs.Engine.Renewal
import CommandPalette.Proofs.Engine.Submission
import CommandPalette.Proofs.Command.Wording
import CommandPalette.Proofs.Engine.Raising
import CommandPalette.Proofs.Command.Visit
import CommandPalette.Proofs.Engine.Creation
import CommandPalette.Proofs.Engine.Reach
import CommandPalette.Proofs.Engine.Picking
import CommandPalette.Proofs.Engine.Memory
import CommandPalette.Proofs.Command.Growth
import CommandPalette.Proofs.Command.Refusal
import CommandPalette.Proofs.Command.Roots
import CommandPalette.Proofs.Engine.Delay
import CommandPalette.Proofs.Motion.CodeOrder
import CommandPalette.Proofs.Motion.Tally
import CommandPalette.Proofs.Motion.Grammar
import CommandPalette.Proofs.Motion.Joined
import CommandPalette.Proofs.Settings.Loading
import CommandPalette.Proofs.Settings.Precedence
import CommandPalette.Proofs.Modes
import CommandPalette.Proofs.Command.Consumption
import CommandPalette.Proofs.Engine.Rejection
import CommandPalette.Proofs.Settings.Overlay
import CommandPalette.Proofs.Settings.Verbatim
import CommandPalette.Proofs.Log.Output
import CommandPalette.Proofs.Callback
import CommandPalette.Proofs.Command.Depth
import CommandPalette.Proofs.Token
import CommandPalette.Proofs.Settings.Validation
