import RegisterTransfer.Session.Run
import RegisterTransfer.Fragment.Text
import RegisterTransfer.Diagnostic.Text
import RegisterTransfer.Settings.Reading
import RegisterTransfer.Table.Lemmas
import RegisterTransfer.Arena.Lemmas
import RegisterTransfer.Statement.Lemmas
import RegisterTransfer.Lowering.Lemmas
import RegisterTransfer.Proofs.Outcome
import RegisterTransfer.Proofs.Leaves
import RegisterTransfer.Proofs.Places
import RegisterTransfer.Proofs.Calls
import RegisterTransfer.Proofs.Machines
import RegisterTransfer.Proofs.Soundness
import RegisterTransfer.Proofs.Running
import RegisterTransfer.Proofs.Scopes
import RegisterTransfer.Proofs.SoundConstructs
import RegisterTransfer.Proofs.Reached
import RegisterTransfer.Proofs.ControlStack
import RegisterTransfer.Proofs.Keeping
import RegisterTransfer.Proofs.Elaboration
import RegisterTransfer.Proofs.SingleDriver
import RegisterTransfer.Proofs.FailedConstruct
import RegisterTransfer.Proofs.Accepted
import RegisterTransfer.Proofs.Description
import RegisterTransfer.Proofs.Reading
import RegisterTransfer.Proofs.StructuralLowering
import RegisterTransfer.Proofs.Valuation
import RegisterTransfer.Proofs.Meaning
import RegisterTransfer.Proofs.Parts
import RegisterTransfer.Proofs.Faults
import RegisterTransfer.Proofs.FaultlessRuns
import RegisterTransfer.Proofs.Resolved
import RegisterTransfer.Proofs.Later
import RegisterTransfer.Proofs.MachineViews
import RegisterTransfer.Proofs.History
import RegisterTransfer.Proofs.StateNumbers
import RegisterTransfer.Proofs.HeldAssignments
import RegisterTransfer.Proofs.Likeness
import RegisterTransfer.Proofs.AlikeBuilders
import RegisterTransfer.Proofs.AlikeFragments
import RegisterTransfer.Proofs.Lockstep
import RegisterTransfer.Proofs.ParallelRuns
import RegisterTransfer.Proofs.DomainsApart
import RegisterTransfer.Proofs.Issued
import RegisterTransfer.Proofs.Forgetting
import RegisterTransfer.Proofs.CaughtFailures
import RegisterTransfer.Proofs.Priority
import RegisterTransfer.Proofs.Additions
import RegisterTransfer.Proofs.Closing
import RegisterTransfer.Proofs.Distribution
import RegisterTransfer.Proofs.PatternChecks
import RegisterTransfer.Proofs.Positions
import RegisterTransfer.Proofs.Registrations
import RegisterTransfer.Proofs.TransitionResolution
import RegisterTransfer.Proofs.DriverTable
import RegisterTransfer.Proofs.AdviceKept
import RegisterTransfer.Proofs.CasesBehindDefault
import RegisterTransfer.Proofs.EndedMachines
import RegisterTransfer.Proofs.ShapeArithmetic
import RegisterTransfer.Proofs.ConstantFolding
import RegisterTransfer.Proofs.PatternText
import RegisterTransfer.Proofs.ArenaHistories
