import ZoneAccess.Main
import ZoneAccess.Engine.Script
import ZoneAccess.Child.Rehearsal
import ZoneAccess.Program
import ZoneAccess.Text.LetterTable
import ZoneAccess.Proofs.Directive.Structure
import ZoneAccess.Proofs.Session.Reference
import ZoneAccess.Proofs.Session.Interrupted
import ZoneAccess.Proofs.Interrupts.Nesting
import ZoneAccess.Proofs.Program.SetupGate
import ZoneAccess.Proofs.Console.Truncation
import ZoneAccess.Proofs.Program.Truncation
import ZoneAccess.Proofs.Engine.Scripted
import ZoneAccess.Proofs.Engine.Verdicts
import ZoneAccess.Proofs.Pipeline.Independence
import ZoneAccess.Proofs.Pipeline.Outcomes
import ZoneAccess.Proofs.Program.OneQuestion
import ZoneAccess.Proofs.Arguments.Reading
import ZoneAccess.Proofs.Child.Cleanup
import ZoneAccess.Proofs.Child.Reporting
import ZoneAccess.Proofs.Child.Engine
import ZoneAccess.Proofs.Settings.Layers
import ZoneAccess.Proofs.Program.ExitStatus
import ZoneAccess.Proofs.Program.Children
import ZoneAccess.Proofs.Question.Words
import ZoneAccess.Proofs.Pipeline.Spelling
import ZoneAccess.Proofs.Question.Stability
import ZoneAccess.Proofs.Pipeline.Resources
import ZoneAccess.Proofs.Path.Resolution
import ZoneAccess.Proofs.Directive.Atoms
import ZoneAccess.Proofs.Engine.Classification
import ZoneAccess.Proofs.Duration.Amounts
import ZoneAccess.Proofs.Engine.Endings
import ZoneAccess.Proofs.Pipeline.Readiness
import ZoneAccess.Proofs.Arguments.Splitting
import ZoneAccess.Proofs.Record.Reader
import ZoneAccess.Proofs.Record.Rendering
