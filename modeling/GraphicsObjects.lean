import GraphicsObjects.Native.Script
import GraphicsObjects.Ownership.Handles
import GraphicsObjects.Session.Operation
import GraphicsObjects.Simulation.Driver
import GraphicsObjects.Proofs.Simulation.Names
import GraphicsObjects.Proofs.Simulation.Contents
import GraphicsObjects.Proofs.Binding.Coherence
import GraphicsObjects.Proofs.Context.Work
import GraphicsObjects.Proofs.Context.Holding
import GraphicsObjects.Proofs.Context.Nesting
import GraphicsObjects.Proofs.Object.Work
import GraphicsObjects.Proofs.Ownership.Balance
import GraphicsObjects.Proofs.Context.Lifetime
import GraphicsObjects.Proofs.Session.Invariant
import GraphicsObjects.Proofs.Session.Lifetime
import GraphicsObjects.Proofs.Session.Links
import GraphicsObjects.Proofs.Session.Creation
import GraphicsObjects.Proofs.Session.Advance
import GraphicsObjects.Proofs.Session.Steps
import GraphicsObjects.Proofs.Session.Runs
import GraphicsObjects.Proofs.Session.Agreement
import GraphicsObjects.Proofs.Simulation.Requests
import GraphicsObjects.Proofs.Simulation.Recording
import GraphicsObjects.Proofs.Context.Recording
import GraphicsObjects.Proofs.Object.Recording
import GraphicsObjects.Proofs.Session.Recording
import GraphicsObjects.Proofs.Session.Liveness
import GraphicsObjects.Proofs.Object.Textures
import GraphicsObjects.Proofs.Session.Updates
import GraphicsObjects.Proofs.Session.Transfers
import GraphicsObjects.Proofs.Session.Release
import GraphicsObjects.Proofs.Binding.Elements
import GraphicsObjects.Proofs.Object.Framebuffers
import GraphicsObjects.Proofs.Session.Framebuffers
import GraphicsObjects.Proofs.Native.Layout
import GraphicsObjects.Proofs.Native.Uploads
import GraphicsObjects.Proofs.Native.Transfers
import GraphicsObjects.Proofs.Simulation.Agreement
import GraphicsObjects.Proofs.Context.Twins
import GraphicsObjects.Proofs.Object.Twins
import GraphicsObjects.Proofs.Session.Twins
import GraphicsObjects.Proofs.Session.TwinObjects
import GraphicsObjects.Proofs.Session.Transparency
import GraphicsObjects.Proofs.Ownership.Steps
import GraphicsObjects.Proofs.Ownership.Deletions
import GraphicsObjects.Proofs.Object.Refusals
import GraphicsObjects.Proofs.Session.Refusals
import GraphicsObjects.Proofs.Simulation.Links
import GraphicsObjects.Proofs.Simulation.Tidy
import GraphicsObjects.Proofs.Simulation.Settled
import GraphicsObjects.Proofs.Context.Linking
import GraphicsObjects.Proofs.Object.Linking
import GraphicsObjects.Proofs.Simulation.Ties
import GraphicsObjects.Proofs.Context.Tidying
import GraphicsObjects.Proofs.Session.Mirror
import GraphicsObjects.Proofs.Session.MirrorLifetime
import GraphicsObjects.Proofs.Object.Ties
import GraphicsObjects.Proofs.Session.MirrorLinks
import GraphicsObjects.Proofs.Session.MirrorCreation
import GraphicsObjects.Proofs.Session.MirrorRuns
import GraphicsObjects.Proofs.Session.Attachments
import GraphicsObjects.Proofs.Session.Programs
import GraphicsObjects.Proofs.Object.Draws
import GraphicsObjects.Proofs.Session.IndexBuffers
import GraphicsObjects.Proofs.Native.Extent
import GraphicsObjects.Proofs.Context.Foreign
import GraphicsObjects.Proofs.Simulation.Runs
import GraphicsObjects.Proofs.Simulation.ElementBuffers
import GraphicsObjects.Proofs.Binding.TotalMap
import GraphicsObjects.Proofs.Context.Needs
import GraphicsObjects.Proofs.Context.Requests
import GraphicsObjects.Proofs.Object.Requests
import GraphicsObjects.Proofs.Session.Requests
import GraphicsObjects.Proofs.Object.Buffers
import GraphicsObjects.Proofs.Object.Restoring
import GraphicsObjects.Proofs.Session.Buffers
import GraphicsObjects.Proofs.Session.Restoring
import GraphicsObjects.Proofs.Object.Units
import GraphicsObjects.Proofs.Simulation.Clean
import GraphicsObjects.Proofs.Simulation.Linking
import GraphicsObjects.Proofs.Simulation.AttributeLocations
import GraphicsObjects.Proofs.Object.Programs
import GraphicsObjects.Proofs.Object.Uniforms
import GraphicsObjects.Proofs.Session.Uniforms
import GraphicsObjects.Proofs.Simulation.Observed
import GraphicsObjects.Proofs.Context.Routines
import GraphicsObjects.Proofs.Object.Routines
import GraphicsObjects.Proofs.Session.Passing
import GraphicsObjects.Proofs.Session.Routines
import GraphicsObjects.Proofs.Context.Checks
import GraphicsObjects.Proofs.Session.Polling
import GraphicsObjects.Proofs.Native.Attachments
import GraphicsObjects.Proofs.Session.AttachmentPoints
import GraphicsObjects.Proofs.Text.Utf8
import GraphicsObjects.Proofs.Native.Texts
import GraphicsObjects.Proofs.Text.Words
import GraphicsObjects.Proofs.Text.Numerals
import GraphicsObjects.Proofs.Simulation.Declarations
