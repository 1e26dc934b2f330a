import RolePolicy.Action.Basic
import RolePolicy.Action.Catalog
import RolePolicy.Action.Category
import RolePolicy.Artifact
import RolePolicy.Artifact.Files
import RolePolicy.Artifact.Spec
import RolePolicy.CommandLine.Arguments
import RolePolicy.CommandLine.Attributes
import RolePolicy.CommandLine.Run
import RolePolicy.CommandLine.Switch
import RolePolicy.Compiled
import RolePolicy.Condition.Clause
import RolePolicy.Condition.Context
import RolePolicy.Condition.Context.Json
import RolePolicy.Condition.Evaluation
import RolePolicy.Condition.Operator
import RolePolicy.Condition.Predicate
import RolePolicy.Decision
import RolePolicy.Document
import RolePolicy.Error
import RolePolicy.Failure
import RolePolicy.Files.Access
import RolePolicy.Files.Path
import RolePolicy.Files.Tree
import RolePolicy.Glob
import RolePolicy.Json.Basic
import RolePolicy.Json.Decode
import RolePolicy.Json.Numeral
import RolePolicy.Json.Printer
import RolePolicy.Json.Reader
import RolePolicy.Kdl.Character
import RolePolicy.Kdl.Literal
import RolePolicy.Kdl.Node
import RolePolicy.Kdl.Reader
import RolePolicy.Kdl.Token
import RolePolicy.Lint
import RolePolicy.Lint.Json
import RolePolicy.Main
import RolePolicy.Manifest.Basic
import RolePolicy.Manifest.Directory
import RolePolicy.Manifest.Json
import RolePolicy.Manifest.Kdl
import RolePolicy.Manifest.Substitution
import RolePolicy.Number.Binary64
import RolePolicy.Proofs.AccountReach
import RolePolicy.Proofs.ArtifactFiles
import RolePolicy.Proofs.Boundary
import RolePolicy.Proofs.BundleFindings
import RolePolicy.Proofs.Catalog
import RolePolicy.Proofs.CommandLine.Attributes
import RolePolicy.Proofs.CompiledDecision
import RolePolicy.Proofs.Composed
import RolePolicy.Proofs.Condition.Canonical
import RolePolicy.Proofs.Condition.Clause
import RolePolicy.Proofs.Condition.ClauseOrder
import RolePolicy.Proofs.Condition.Meaning
import RolePolicy.Proofs.Condition.Operator
import RolePolicy.Proofs.Condition.Quantifiers
import RolePolicy.Proofs.Condition.Slots
import RolePolicy.Proofs.Condition.SuppliedStars
import RolePolicy.Proofs.Condition.Vacuity
import RolePolicy.Proofs.Containment
import RolePolicy.Proofs.Decision
import RolePolicy.Proofs.DeploymentGate
import RolePolicy.Proofs.Files.Path
import RolePolicy.Proofs.Files.Tree
import RolePolicy.Proofs.Files.View
import RolePolicy.Proofs.FirstDefect
import RolePolicy.Proofs.ForeignCatalog
import RolePolicy.Proofs.Glob.Backtracking
import RolePolicy.Proofs.Glob.Characters
import RolePolicy.Proofs.Glob.Cursors
import RolePolicy.Proofs.Glob.Parts
import RolePolicy.Proofs.Glob.Scan
import RolePolicy.Proofs.Grants
import RolePolicy.Proofs.InsertedBundle
import RolePolicy.Proofs.Json.Printed
import RolePolicy.Proofs.LeadingWords
import RolePolicy.Proofs.Lint
import RolePolicy.Proofs.LiteralHeader
import RolePolicy.Proofs.Manifest.ChildOrder
import RolePolicy.Proofs.Manifest.Directory
import RolePolicy.Proofs.Manifest.Documents
import RolePolicy.Proofs.Manifest.JsonForm
import RolePolicy.Proofs.Manifest.Kdl
import RolePolicy.Proofs.Manifest.KeptChildren
import RolePolicy.Proofs.Manifest.Merge
import RolePolicy.Proofs.Manifest.NodeForm
import RolePolicy.Proofs.Manifest.Resubstitution
import RolePolicy.Proofs.Manifest.Substitution
import RolePolicy.Proofs.Manifest.WrittenEffect
import RolePolicy.Proofs.PatternRules
import RolePolicy.Proofs.PolicyDocument
import RolePolicy.Proofs.ReadAttributes
import RolePolicy.Proofs.Readback
import RolePolicy.Proofs.Registrations
import RolePolicy.Proofs.Rendering
import RolePolicy.Proofs.ResourcePattern
import RolePolicy.Proofs.Reworded.Artifacts
import RolePolicy.Proofs.Reworded.Compiled
import RolePolicy.Proofs.Reworded.Conditions
import RolePolicy.Proofs.Reworded.Decisions
import RolePolicy.Proofs.Reworded.Findings
import RolePolicy.Proofs.Reworded.Roles
import RolePolicy.Proofs.Sorted
import RolePolicy.Proofs.Substituted
import RolePolicy.Proofs.Text.Edited
import RolePolicy.Proofs.Text.Filled
import RolePolicy.Proofs.Text.LetterCase
import RolePolicy.Proofs.Text.Placeholder
import RolePolicy.Proofs.Text.Spelling
import RolePolicy.Proofs.Text.Template
import RolePolicy.Proofs.Tightened
import RolePolicy.Proofs.Validity.Conditions
import RolePolicy.Proofs.Validity.Manifest
import RolePolicy.Proofs.Validity.Role
import RolePolicy.ResourcePattern
import RolePolicy.Role.Basic
import RolePolicy.Role.Compose
import RolePolicy.Role.Json
import RolePolicy.Role.Kind
import RolePolicy.Settings.Basic
import RolePolicy.Settings.Layers
import RolePolicy.Settings.Load
import RolePolicy.Sorted.Map
import RolePolicy.Sorted.Order
import RolePolicy.Sorted.Set
import RolePolicy.Text.Basic
import RolePolicy.Text.Cased
import RolePolicy.Text.Hidden
import RolePolicy.Text.Quoted
import RolePolicy.Text.Small
import RolePolicy.Text.Split
import RolePolicy.Text.Template
import RolePolicy.Toml.Basic
import RolePolicy.Toml.DateTime
import RolePolicy.Toml.Draft
import RolePolicy.Toml.Literal
import RolePolicy.Toml.Reader
