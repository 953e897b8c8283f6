import ApiClient.Http.Lifetime
import ApiClient.Http.Middleware
import ApiClient.Json.Encoding
import ApiClient.Main
import ApiClient.Text.Percent
import ApiClient.Text.Utf8
import ApiClient.Proofs.Name.Registry
import ApiClient.Proofs.TypeExpr
import ApiClient.Proofs.Work
import ApiClient.Proofs.Dispatch
import ApiClient.Proofs.Emission.Branches
import ApiClient.Proofs.Emission.Method
import ApiClient.Proofs.Emission.MethodNames
import ApiClient.Proofs.Module.Run
import ApiClient.Proofs.Declaration
import ApiClient.Proofs.Draft.Growth
import ApiClient.Proofs.Draft.Rendering
import ApiClient.Proofs.Draft.Records
import ApiClient.Proofs.Draft.Aging
import ApiClient.Proofs.Emission.Sites
import ApiClient.Proofs.Module.Sites
import ApiClient.Proofs.Module.InlineRecords
import ApiClient.Proofs.Declaration.Order
import ApiClient.Proofs.Components
import ApiClient.Proofs.Draft.Bases
import ApiClient.Proofs.Draft.Remarks
import ApiClient.Proofs.Module.RawNames
import ApiClient.Proofs.Module.DeclaredComponents
import ApiClient.Proofs.Module.Inheritance
import ApiClient.Proofs.Diagnostic
import ApiClient.Proofs.Emission.Progress
import ApiClient.Proofs.Operation
import ApiClient.Proofs.Module.Progress
import ApiClient.Proofs.Module.BaseClasses
import ApiClient.Proofs.Grouping
import ApiClient.Proofs.Module.ModuleNames
import ApiClient.Proofs.Emission.MediaTypes
import ApiClient.Proofs.Module.Operations
import ApiClient.Proofs.Http.Client
import ApiClient.Proofs.Name.Style
import ApiClient.Proofs.Module.SupportBindings
import ApiClient.Proofs.Value.Equality
import ApiClient.Proofs.Composition
import ApiClient.Proofs.Ancestry
import ApiClient.Proofs.Module.InheritedKeys
import ApiClient.Proofs.Text.Lexis
import ApiClient.Proofs.Value.Literal
import ApiClient.Proofs.Atoms
import ApiClient.Proofs.Draft.Hints
import ApiClient.Proofs.Emission.Hints
import ApiClient.Proofs.Module.Hints
import ApiClient.Proofs.Module.ComponentModels
import ApiClient.Proofs.ReferenceChain
import ApiClient.Proofs.Text.Docstring
import ApiClient.Proofs.Module.Docstrings
import ApiClient.Proofs.Name.Trace
import ApiClient.Proofs.Work.Sides
import ApiClient.Proofs.Draft.Beside
import ApiClient.Proofs.Emission.Beside
import ApiClient.Proofs.Module.Beside
import ApiClient.Proofs.Module.Skipping
import ApiClient.Proofs.Module.Deletion
import ApiClient.Proofs.Operation.Erasure
import ApiClient.Proofs.Emission.Signature
import ApiClient.Proofs.Http.Rejection
import ApiClient.Proofs.Work.Concurrence
import ApiClient.Proofs.Rewording
import ApiClient.Proofs.Description.Rewording
import ApiClient.Proofs.Operation.Rewording
import ApiClient.Proofs.Emission.Documentation
import ApiClient.Proofs.Module.Rewording
import ApiClient.Proofs.Http.PathTemplate
import ApiClient.Proofs.Emission.RequestBodies
import ApiClient.Proofs.Emission.JsonResponses
import ApiClient.Proofs.Emission.Duplicates
import ApiClient.Proofs.Http.Address
import ApiClient.Proofs.Http.Headers
import ApiClient.Proofs.Module.RequiredKeys
import ApiClient.Proofs.Draft.Nesting
import ApiClient.Proofs.Value.Json
import ApiClient.Proofs.Schema.Parsing
import ApiClient.Proofs.Schema.Refusal
import ApiClient.Proofs.Schema.Keywords
import ApiClient.Proofs.Draft.Repetition
import ApiClient.Proofs.Schema.Expressible
import ApiClient.Proofs.Draft.Conclusion
import ApiClient.Proofs.Json.Reader
import ApiClient.Proofs.Module.Totality
import ApiClient.Proofs.Description.Pointers
import ApiClient.Proofs.Name.Scope
import ApiClient.Proofs.Operation.Following
import ApiClient.Proofs.Module.SchemaReferences
import ApiClient.Proofs.Http.Form
import ApiClient.Proofs.Text.Escapes
import ApiClient.Proofs.Module.DocumentedLines
import ApiClient.Proofs.Value.Edits
import ApiClient.Proofs.Operation.Inlining
import ApiClient.Proofs.Operation.Expressible
import ApiClient.Proofs.Emission.Conclusion
import ApiClient.Proofs.Text.Spacing
import ApiClient.Proofs.Name.Compounds
import ApiClient.Proofs.Operation.Prose
import ApiClient.Proofs.Grouping.Stability
import ApiClient.Proofs.Draft.Resolution
import ApiClient.Proofs.Name.Search
import ApiClient.Proofs.Draft.Flattening
