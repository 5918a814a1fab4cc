import Grounding.Algebra
import Grounding.Code
import Grounding.Command
import Grounding.CommandLine
import Grounding.CommandLine.Arguments
import Grounding.CommandLine.Value
import Grounding.Concept
import Grounding.Concept.Document
import Grounding.Concept.Draft
import Grounding.Decimal
import Grounding.Decimal.Layout
import Grounding.Decimal.Literal
import Grounding.Decimal.Shortest
import Grounding.Decimal.Stepwise
import Grounding.Diagnostic
import Grounding.Disk
import Grounding.Entries
import Grounding.Evaluation
import Grounding.Evaluation.Error
import Grounding.Failure
import Grounding.Host
import Grounding.Json
import Grounding.Json.Decode
import Grounding.Json.Fault
import Grounding.Json.Reader
import Grounding.Json.Token
import Grounding.Json.Writer
import Grounding.LabelSet
import Grounding.Main
import Grounding.Number
import Grounding.Number.Rounding
import Grounding.Ontology
import Grounding.Ontology.Entry
import Grounding.Ontology.Error
import Grounding.Operator
import Grounding.Output.Format
import Grounding.Output.Palette
import Grounding.Output.Table
import Grounding.Path
import Grounding.Plan
import Grounding.Plan.Document
import Grounding.Proofs.ByteOrder
import Grounding.Proofs.CircleCover
import Grounding.Proofs.CommandEffects
import Grounding.Proofs.ConceptDocument
import Grounding.Proofs.ConceptMeet
import Grounding.Proofs.ConceptNesting
import Grounding.Proofs.DefaultPeriod
import Grounding.Proofs.DiskFiles
import Grounding.Proofs.EntryDocument
import Grounding.Proofs.EntryPeriod
import Grounding.Proofs.ErrorReports
import Grounding.Proofs.FirstFault
import Grounding.Proofs.GroundedShape
import Grounding.Proofs.IntersectionChain
import Grounding.Proofs.IntersectionSymmetry
import Grounding.Proofs.LeafFields
import Grounding.Proofs.NamedEntries
import Grounding.Proofs.NestingLimit
import Grounding.Proofs.NumberOrder
import Grounding.Proofs.NumeralText
import Grounding.Proofs.OntologyDocument
import Grounding.Proofs.OntologyLoading
import Grounding.Proofs.Outcome
import Grounding.Proofs.PathText
import Grounding.Proofs.PlanContext
import Grounding.Proofs.PlanDocument
import Grounding.Proofs.PlanEvaluation
import Grounding.Proofs.PlanText
import Grounding.Proofs.RangePaths
import Grounding.Proofs.RecordedOperands
import Grounding.Proofs.ResultText
import Grounding.Proofs.SegmentCount
import Grounding.Proofs.SegmentMeet
import Grounding.Proofs.Selection
import Grounding.Proofs.SessionReads
import Grounding.Proofs.SharedParts
import Grounding.Proofs.ShortestNumeral
import Grounding.Proofs.StepwiseReading
import Grounding.Proofs.StoredConcept
import Grounding.Proofs.StrictValidation
import Grounding.Proofs.TokenGrammar
import Grounding.Proofs.VisitOrder
import Grounding.Proofs.WrittenNumber
import Grounding.Proofs.WrittenText
import Grounding.Report
import Grounding.Segment
import Grounding.Text.Case
import Grounding.Text.CodePoint
import Grounding.Text.Lowercase
import Grounding.Text.Quoted
import Grounding.Text.Visible
import Grounding.Text.Width
import Grounding.Text.Width.Character
import Grounding.Text.Width.Letters
import Grounding.Text.Width.PictureRanges
import Grounding.Text.Width.Pictures
import Grounding.Text.Width.Ranges
