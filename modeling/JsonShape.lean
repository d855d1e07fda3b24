import JsonShape.Binary64.Basic
import JsonShape.Binary64.Extended
import JsonShape.Binary64.Layout
import JsonShape.Binary64.Shortest
import JsonShape.Command.Arguments
import JsonShape.Command.Basic
import JsonShape.Command.Directory
import JsonShape.Command.Run
import JsonShape.Consistency.Cache
import JsonShape.Consistency.Finding
import JsonShape.Consistency.Messages
import JsonShape.Consistency.Rules
import JsonShape.Consistency.Tree
import JsonShape.Consistency.Written
import JsonShape.Editing.Field
import JsonShape.Editing.Name
import JsonShape.Editing.Property
import JsonShape.Inference.Config
import JsonShape.Inference.Document
import JsonShape.Inference.Format
import JsonShape.Inference.Infer
import JsonShape.Inference.Merge
import JsonShape.Inference.Refinement
import JsonShape.Instance.Assertion
import JsonShape.Instance.Location
import JsonShape.Instance.Report
import JsonShape.Instance.Validation
import JsonShape.Instance.Violation
import JsonShape.Instance.WellFormed
import JsonShape.Json.Basic
import JsonShape.Json.Fault
import JsonShape.Json.Lexeme
import JsonShape.Json.Printer
import JsonShape.Json.Punctuation
import JsonShape.Json.Reader
import JsonShape.Json.Skip
import JsonShape.Main
import JsonShape.Members
import JsonShape.Pattern.Bracket
import JsonShape.Pattern.CharSet
import JsonShape.Pattern.Escape
import JsonShape.Pattern.Fault
import JsonShape.Pattern.Group
import JsonShape.Pattern.Property
import JsonShape.Pattern.Regex
import JsonShape.Pattern.Syntax
import JsonShape.Proofs.Acceptance
import JsonShape.Proofs.Additions
import JsonShape.Proofs.Alternatives
import JsonShape.Proofs.CaseVariants
import JsonShape.Proofs.ChildKeys
import JsonShape.Proofs.ChildNodes
import JsonShape.Proofs.CountRanges
import JsonShape.Proofs.DocumentEquality
import JsonShape.Proofs.EditCounts
import JsonShape.Proofs.EditRuns
import JsonShape.Proofs.ElementKeys
import JsonShape.Proofs.ElementOrder
import JsonShape.Proofs.Elements
import JsonShape.Proofs.Emission
import JsonShape.Proofs.Envelope
import JsonShape.Proofs.Equality
import JsonShape.Proofs.Equivalence
import JsonShape.Proofs.Fields
import JsonShape.Proofs.Findings
import JsonShape.Proofs.Formats
import JsonShape.Proofs.Gaps
import JsonShape.Proofs.IndependentEdits
import JsonShape.Proofs.InferredForm
import JsonShape.Proofs.KeyOrder
import JsonShape.Proofs.KeyPlaces
import JsonShape.Proofs.ListedValues
import JsonShape.Proofs.Loading
import JsonShape.Proofs.Locations
import JsonShape.Proofs.Matching
import JsonShape.Proofs.Meaning
import JsonShape.Proofs.Members
import JsonShape.Proofs.MergeOutcomes
import JsonShape.Proofs.MergeSymmetry
import JsonShape.Proofs.MergedMeaning
import JsonShape.Proofs.MergedProperties
import JsonShape.Proofs.Merging
import JsonShape.Proofs.Misfits
import JsonShape.Proofs.Moves
import JsonShape.Proofs.NormalForm
import JsonShape.Proofs.NumberRange
import JsonShape.Proofs.ObjectArrays
import JsonShape.Proofs.Observations
import JsonShape.Proofs.Outcomes
import JsonShape.Proofs.OwnReport
import JsonShape.Proofs.PatternTexts
import JsonShape.Proofs.Permutations
import JsonShape.Proofs.Placement
import JsonShape.Proofs.PointerLookup
import JsonShape.Proofs.PropertyEdits
import JsonShape.Proofs.PropertyViews
import JsonShape.Proofs.ReadRecords
import JsonShape.Proofs.ReadValues
import JsonShape.Proofs.Reading
import JsonShape.Proofs.Refining
import JsonShape.Proofs.Renaming
import JsonShape.Proofs.RequiredNames
import JsonShape.Proofs.Rounding
import JsonShape.Proofs.Saving
import JsonShape.Proofs.SelfConsistency
import JsonShape.Proofs.Shapes
import JsonShape.Proofs.SharedDocuments
import JsonShape.Proofs.SharedNames
import JsonShape.Proofs.StandardFormats
import JsonShape.Proofs.TimestampFloor
import JsonShape.Proofs.TreeEquality
import JsonShape.Proofs.Unification
import JsonShape.Proofs.Untouched
import JsonShape.Proofs.ValueClasses
import JsonShape.Proofs.Walk
import JsonShape.Proofs.WellFormedness
import JsonShape.Proofs.Wording
import JsonShape.Proofs.Words
import JsonShape.Proofs.Writing
import JsonShape.Record.Collection
import JsonShape.Record.Reader
import JsonShape.Record.Shape
import JsonShape.Schema.Basic
import JsonShape.Schema.Keyword
import JsonShape.Schema.Loading
import JsonShape.Schema.Reader
import JsonShape.Schema.Same
import JsonShape.Schema.Writing
import JsonShape.Text
import JsonShape.Unicode.Alphabetic
import JsonShape.Unicode.Basic
import JsonShape.Unicode.Binary
import JsonShape.Unicode.Category
import JsonShape.Unicode.Folding
import JsonShape.Unicode.Script
import JsonShape.Unicode.Visible
import JsonShape.Yaml.Printer
import JsonShape.Yaml.Scalar
