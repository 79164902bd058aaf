import VulkanExec.Main
import VulkanExec.Scenario.Play
import VulkanExec.Proofs.WorkUnit.Submission
import VulkanExec.Proofs.Ledger.Basic
import VulkanExec.Proofs.Ledger.Holding
import VulkanExec.Proofs.WorkUnit.Flight
import VulkanExec.Proofs.WorkUnit.LifeCycle
import VulkanExec.Proofs.Ledger.Dropping
import VulkanExec.Proofs.Ledger.Making
import VulkanExec.Proofs.Ledger.Working
import VulkanExec.Proofs.Operations
import VulkanExec.Proofs.Ledger.Session
import VulkanExec.Proofs.Ledger.Events
import VulkanExec.Proofs.Lifetime
import VulkanExec.Proofs.Establishment.Course
import VulkanExec.Proofs.Establishment.Undoing
import VulkanExec.Proofs.Establishment.Answers
import VulkanExec.Proofs.Establishment.Conditions
import VulkanExec.Proofs.Establishment.Equipping
import VulkanExec.Proofs.Establishment.Selection
import VulkanExec.Proofs.Establishment.Decision
import VulkanExec.Proofs.Resolution.Calls
import VulkanExec.Proofs.Resolution.Contexts
import VulkanExec.Proofs.Resolution.Sessions
import VulkanExec.Proofs.Steps
import VulkanExec.Proofs.WorkUnit.Representation
import VulkanExec.Proofs.Establishment.Request
import VulkanExec.Proofs.Establishment.FirstMatch
import VulkanExec.Proofs.Requirements
import VulkanExec.Proofs.Adoption.Coverage
import VulkanExec.Proofs.Adoption.Decision
import VulkanExec.Proofs.Adoption.Frame
import VulkanExec.Proofs.Sink.Notes
import VulkanExec.Proofs.Sink.Registration
import VulkanExec.Proofs.Sink.Watch
import VulkanExec.Proofs.Sink.Delivery
import VulkanExec.Proofs.Sink.Lifetime
import VulkanExec.Proofs.Sink.Calls
import VulkanExec.Proofs.Sink.Reentrance
import VulkanExec.Proofs.Names
import VulkanExec.Proofs.Resolution.Tables
import VulkanExec.Proofs.Agreement.Programs
import VulkanExec.Proofs.Agreement.Establishment
import VulkanExec.Proofs.Agreement.Sessions
import VulkanExec.Proofs.WorkUnit.Separation
import VulkanExec.Proofs.Counting.Shares
import VulkanExec.Proofs.Counting.Pools
import VulkanExec.Proofs.Counting.Units
import VulkanExec.Proofs.Counting.Reports
import VulkanExec.Proofs.WorkPool.Family
import VulkanExec.Proofs.WorkUnit.Failure
import VulkanExec.Proofs.WorkUnit.Retry
import VulkanExec.Proofs.WorkUnit.Retirement
import VulkanExec.Proofs.WorkUnit.OwnHandles
import VulkanExec.Proofs.WorkUnit.Round
import VulkanExec.Proofs.Smoke.Exercise
import VulkanExec.Proofs.Smoke.Teardown
import VulkanExec.Proofs.Smoke.Verdict
import VulkanExec.Proofs.WorkPool.Creation
import VulkanExec.Proofs.Text.Trimming
import VulkanExec.Proofs.Text.Items
import VulkanExec.Proofs.Text.Numerals
import VulkanExec.Proofs.Config.Capabilities
import VulkanExec.Proofs.Config.Composition
import VulkanExec.Proofs.Config.Values
import VulkanExec.Proofs.Config.Lists
import VulkanExec.Proofs.Text.LeadingDigits
import VulkanExec.Proofs.Config.Timeout
import VulkanExec.Proofs.Features
import VulkanExec.Proofs.MemoryTypes
