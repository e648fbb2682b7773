import KotlinDoc.Main
import KotlinDoc.Page.Record
import KotlinDoc.Proofs.Domain.CallableRoundTrip
import KotlinDoc.Proofs.Domain.IncrementalBuild
import KotlinDoc.Proofs.Domain.LinkIntegrity
import KotlinDoc.Proofs.Index.CanonicalBody
import KotlinDoc.Text.Quoted
import KotlinDoc.Workload.Domain
import KotlinDoc.Proofs.Files.Tree
import KotlinDoc.Proofs.Files.Walk
import KotlinDoc.Proofs.Files.Paths
import KotlinDoc.Proofs.Files.Listing
import KotlinDoc.Proofs.Index.FileSymbols
import KotlinDoc.Proofs.Command.Pages
import KotlinDoc.Proofs.Command.Writing
import KotlinDoc.Proofs.Command.Preservation
import KotlinDoc.Proofs.Command.Update
import KotlinDoc.Proofs.Command.Independence
import KotlinDoc.Proofs.Index.Inventory
import KotlinDoc.Proofs.Page.Documentable
import KotlinDoc.Proofs.Page.Pruning
import KotlinDoc.Proofs.Index.Forest
import KotlinDoc.Proofs.Domain.ClassReference
import KotlinDoc.Proofs.Domain.OwnerContext
import KotlinDoc.Proofs.Domain.Duplicates
import KotlinDoc.Proofs.Page.PropertyNames
import KotlinDoc.Proofs.Index.OwnText
import KotlinDoc.Proofs.Index.ConstructorParameters
import KotlinDoc.Proofs.Index.WrittenParameters
import KotlinDoc.Proofs.Page.ConstructorReading
import KotlinDoc.Proofs.Index.Constructors
import KotlinDoc.Proofs.Page.ConstructorDirectives
import KotlinDoc.Proofs.Page.Layout
import KotlinDoc.Proofs.Index.NestedSymbols
import KotlinDoc.Proofs.Index.Places
import KotlinDoc.Proofs.Index.Rewording
import KotlinDoc.Proofs.Index.LoudLines
import KotlinDoc.Proofs.Index.Prose
import KotlinDoc.Proofs.Page.Undocumented
import KotlinDoc.Proofs.Source.HeaderReading
import KotlinDoc.Proofs.Index.PrimaryProperties
import KotlinDoc.Proofs.Source.LineComments
import KotlinDoc.Proofs.Index.EnumEntries
import KotlinDoc.Proofs.Doc.Extraction
import KotlinDoc.Proofs.Index.Stretches
import KotlinDoc.Proofs.Domain.FunctionTypes
import KotlinDoc.Proofs.Domain.ReturnSpacing
import KotlinDoc.Proofs.Domain.PropertyRoundTrip
import KotlinDoc.Proofs.Domain.IndexGroups
import KotlinDoc.Proofs.Domain.IndexOrder
import KotlinDoc.Proofs.Domain.IndexLetters
import KotlinDoc.Proofs.Domain.IndexAnchors
import KotlinDoc.Proofs.Doc.CodeFences
import KotlinDoc.Proofs.Doc.Margin
import KotlinDoc.Proofs.Doc.Descriptions
import KotlinDoc.Proofs.Index.Suppression
import KotlinDoc.Proofs.Files.Destinations
import KotlinDoc.Proofs.Source.Literals
import KotlinDoc.Proofs.Domain.ParameterSlices
