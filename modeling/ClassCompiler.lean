import ClassCompiler.Code.Block
import ClassCompiler.Code.Layout
import ClassCompiler.Code.Quoted
import ClassCompiler.Code.Template
import ClassCompiler.Compiler.Basic
import ClassCompiler.Compiler.ClassBody
import ClassCompiler.Compiler.Compile
import ClassCompiler.Compiler.Error
import ClassCompiler.Compiler.Generate
import ClassCompiler.Compiler.Options
import ClassCompiler.Definition.AnnotationDef
import ClassCompiler.Definition.ClassDef
import ClassCompiler.Definition.Member
import ClassCompiler.Definition.Modifiers
import ClassCompiler.Json.Basic
import ClassCompiler.Json.Depth
import ClassCompiler.Json.Magnitude
import ClassCompiler.Json.Reader
import ClassCompiler.Json.Record
import ClassCompiler.Json.Storable
import ClassCompiler.Json.Writer
import ClassCompiler.Model.Argument
import ClassCompiler.Model.ObjectModel
import ClassCompiler.Model.Validation
import ClassCompiler.Model.Violation
import ClassCompiler.Model.Wire
import ClassCompiler.Registry
import ClassCompiler.Scope.Basic
import ClassCompiler.Scope.Symbol
import ClassCompiler.Scope.TypeParser
import ClassCompiler.Text.Alphabetic
import ClassCompiler.Text.Blank
import ClassCompiler.Text.Decimal
import ClassCompiler.Text.Identifier
import ClassCompiler.Text.Numeric
import ClassCompiler.Text.Segments
import ClassCompiler.Text.Span
import ClassCompiler.Text.Uppercase
import ClassCompiler.Text.UppercaseMapping
import ClassCompiler.Types.ClassName
import ClassCompiler.Types.Primitive
import ClassCompiler.Types.TypeName
import ClassCompiler.Proofs.Growth
import ClassCompiler.Proofs.Calls
import ClassCompiler.Proofs.Expansion
import ClassCompiler.Proofs.Batch
import ClassCompiler.Proofs.Ways
import ClassCompiler.Proofs.ScopedNames
import ClassCompiler.Proofs.References
import ClassCompiler.Proofs.OrderedMap
import ClassCompiler.Proofs.TwoRuns
import ClassCompiler.Proofs.DottedNames
import ClassCompiler.Proofs.Steps
import ClassCompiler.Proofs.TypeGrammar
import ClassCompiler.Proofs.Cycles
import ClassCompiler.Proofs.ScopedCycles
import ClassCompiler.Proofs.Rendering
import ClassCompiler.Proofs.ClassShape
import ClassCompiler.Proofs.TypeText
import ClassCompiler.Proofs.TemplateGrammar
import ClassCompiler.Proofs.TemplateFilling
import ClassCompiler.Proofs.JsonText
import ClassCompiler.Proofs.RecordForms
import ClassCompiler.Proofs.ModelForms
import ClassCompiler.Proofs.Spellings
import ClassCompiler.Proofs.Violations
import ClassCompiler.Proofs.Gate
import ClassCompiler.Proofs.Clashes
import ClassCompiler.Proofs.Places
import ClassCompiler.Proofs.TypeParameters
import ClassCompiler.Proofs.Rollback
import ClassCompiler.Proofs.BatchOrder
import ClassCompiler.Proofs.NamesInScope
import ClassCompiler.Proofs.ScopedWays
import ClassCompiler.Proofs.Indentation
import ClassCompiler.Proofs.MethodBodies
import ClassCompiler.Proofs.Literals
import ClassCompiler.Proofs.Positions
import ClassCompiler.Proofs.JoinedTemplates
import ClassCompiler.Proofs.TemplateFaults
import ClassCompiler.Proofs.AliasPrecedence
import ClassCompiler.Proofs.CapitalIdentifiers
import ClassCompiler.Proofs.DerivedNames
import ClassCompiler.Proofs.CanonicalNames
import ClassCompiler.Proofs.AnnotationMembers
import ClassCompiler.Proofs.Progress
