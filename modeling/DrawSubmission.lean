import DrawSubmission.Error
import DrawSubmission.Flags
import DrawSubmission.Binary32
import DrawSubmission.Settings
import DrawSubmission.Text.Stretches
import DrawSubmission.Pipeline
import DrawSubmission.Topology
import DrawSubmission.Buffer
import DrawSubmission.Pipeline.Layers
import DrawSubmission.Attribute
import DrawSubmission.Driver.Call
import DrawSubmission.Notice
import DrawSubmission.Scene.Basic
import DrawSubmission.Scene.Attributes
import DrawSubmission.Scene.Pipelines
import DrawSubmission.LowestBit
import DrawSubmission.Channels
import DrawSubmission.Proofs.Sweeping
import DrawSubmission.Wireframe.Outline
import DrawSubmission.Draw
import DrawSubmission.Session.Step
import DrawSubmission.Session.Run
import DrawSubmission.Scene.Kept
import DrawSubmission.Scene.Outcome
import DrawSubmission.Draw.TearDown
import DrawSubmission.Draw.Kept
import DrawSubmission.Proofs.Replay
import DrawSubmission.Proofs.Script
import DrawSubmission.Proofs.Coherence
import DrawSubmission.Proofs.Operation
import DrawSubmission.Scene.Lookup
import DrawSubmission.Proofs.Memory
import DrawSubmission.Proofs.Feeding
import DrawSubmission.Proofs.Serving
import DrawSubmission.Scene.Pins
import DrawSubmission.Proofs.Undisturbed
import DrawSubmission.Proofs.Conservation
import DrawSubmission.Proofs.Moments
import DrawSubmission.Scene.Bindings
import DrawSubmission.Scene.Tallies
import DrawSubmission.Wireframe.ReadBack
import DrawSubmission.Proofs.Bindings
import DrawSubmission.Proofs.Pairing
import DrawSubmission.Proofs.Exits
import DrawSubmission.Proofs.Reading
import DrawSubmission.Topology.Faces
import DrawSubmission.Topology.Words
import DrawSubmission.Traversal
import DrawSubmission.Proofs.Completion
import DrawSubmission.Proofs.Geometry
import DrawSubmission.Draw.View
import DrawSubmission.Draw.Prepared
import DrawSubmission.Scene.Guise
import DrawSubmission.Draw.Guise
import DrawSubmission.Wireframe.Guise
import DrawSubmission.Proofs.Account
import DrawSubmission.Proofs.Order
import DrawSubmission.Proofs.Overlays
import DrawSubmission.Proofs.Twins
import DrawSubmission.Proofs.Followed
import DrawSubmission.Proofs.Faces
import DrawSubmission.Proofs.Accesses
import DrawSubmission.Proofs.Mappings
import DrawSubmission.Proofs.Derived
import DrawSubmission.Proofs.Naming
import DrawSubmission.Proofs.Addresses
import DrawSubmission.Proofs.Sharing
import DrawSubmission.Proofs.Migrations
import DrawSubmission.Proofs.Fallbacks
import DrawSubmission.Proofs.Releases
import DrawSubmission.Proofs.Disabling
import DrawSubmission.Scene.Notices
import DrawSubmission.Draw.Notices
import DrawSubmission.Proofs.Hushed
import DrawSubmission.Proofs.Warnings
import DrawSubmission.Draw.Unseen
import DrawSubmission.Draw.Unpinned
import DrawSubmission.Proofs.Skipping
import DrawSubmission.Proofs.Switches
import DrawSubmission.Proofs.Trimmed
import DrawSubmission.Proofs.Absent
import DrawSubmission.Flags.Spelling
import DrawSubmission.Text.Readable
import DrawSubmission.Proofs.DebugLists
import DrawSubmission.Proofs.FlagText
