import AttributeRelease.Text.Blank
import AttributeRelease.Text.Case
import AttributeRelease.Text.Split
import AttributeRelease.Number.Shortest
import AttributeRelease.Json.Writing
import AttributeRelease.Json.Reading
import AttributeRelease.Lifecycle
import AttributeRelease.Attribute.Serial
import AttributeRelease.Request.Basic
import AttributeRelease.Tristate
import AttributeRelease.Pattern
import AttributeRelease.Script.Cache
import AttributeRelease.Rule.Lifecycle
import AttributeRelease.Rule.Equality
import AttributeRelease.Rule.Evaluation
import AttributeRelease.Engine.Part
import AttributeRelease.Definition.Builder
import AttributeRelease.Transcoding.Catalog
import AttributeRelease.Transcoding.Exchange
import AttributeRelease.Report
import AttributeRelease.Proofs.Trees
import AttributeRelease.Proofs.Evaluation
import AttributeRelease.Proofs.FilterRun
import AttributeRelease.Proofs.Requests
import AttributeRelease.Proofs.Validity
import AttributeRelease.Proofs.Grants
import AttributeRelease.Proofs.Uncertainty
import AttributeRelease.Proofs.MissingFacts
import AttributeRelease.Proofs.Dependencies
import AttributeRelease.Proofs.Locality
import AttributeRelease.Proofs.RegistryIndex
import AttributeRelease.Proofs.Emission
import AttributeRelease.Proofs.Attempts
import AttributeRelease.Proofs.Initialisation
import AttributeRelease.Proofs.Assembly
import AttributeRelease.Proofs.Nodes
import AttributeRelease.Proofs.Readiness
import AttributeRelease.Proofs.Admission
import AttributeRelease.Proofs.Compositions
import AttributeRelease.Proofs.Calls
import AttributeRelease.Proofs.LeafRuns
import AttributeRelease.Proofs.NegationNormal
import AttributeRelease.Proofs.Descriptions
import AttributeRelease.Proofs.Interpretation
import AttributeRelease.Proofs.Acceptance
import AttributeRelease.Proofs.Reloading
import AttributeRelease.Proofs.Answers
import AttributeRelease.Proofs.Diagnostics
import AttributeRelease.Proofs.Aborts
import AttributeRelease.Proofs.RegistryViews
import AttributeRelease.Proofs.Exchange
import AttributeRelease.Proofs.Delimiters
import AttributeRelease.Proofs.Alphabets
import AttributeRelease.Proofs.ClaimTexts
import AttributeRelease.Proofs.ClaimReturn
import AttributeRelease.Proofs.Copies
import AttributeRelease.Proofs.CatalogRules
import AttributeRelease.Proofs.Fields
import AttributeRelease.Proofs.AttributeForms
import AttributeRelease.Proofs.DefinitionForms
import AttributeRelease.Proofs.Sameness
import AttributeRelease.Proofs.EqualComponents
import AttributeRelease.Proofs.Retries
import AttributeRelease.Proofs.RuleNames
import AttributeRelease.Proofs.Destruction
import AttributeRelease.Proofs.Merging
import AttributeRelease.Proofs.Decoding
import AttributeRelease.Proofs.Encoding
import AttributeRelease.Proofs.ClaimRules
import AttributeRelease.Proofs.ScriptCache
import AttributeRelease.Proofs.ScriptFacts
