import ClientScribe.Main
import ClientScribe.Proofs.Json.WrittenString
import ClientScribe.Proofs.Json.ReadBack
import ClientScribe.Proofs.Reference.Tree
import ClientScribe.Proofs.Schema.Decode
import ClientScribe.Proofs.Reference.Encoding
import ClientScribe.Proofs.Reference.Decoding
import ClientScribe.Proofs.Reference.Bound
import ClientScribe.Proofs.Reference.Interchange
import ClientScribe.Proofs.Client.TypeExpr
import ClientScribe.Proofs.Reference.Merge
import ClientScribe.Proofs.Client.InterfaceFile
import ClientScribe.Proofs.Docs.Ownership
import ClientScribe.Proofs.Path
import ClientScribe.Proofs.Client.Files
import ClientScribe.Proofs.Client.ApiModule
import ClientScribe.Proofs.Client.RequestFunction
import ClientScribe.Proofs.Client.RequiredMembers
import ClientScribe.Proofs.Docs.Success
import ClientScribe.Proofs.Client.OwnFile
import ClientScribe.Proofs.CommandLine.Arguments
import ClientScribe.Proofs.CommandLine.TwoSteps
import ClientScribe.Proofs.Collection
import ClientScribe.Proofs.Docs.Preorder
import ClientScribe.Proofs.Client.ImportPath
import ClientScribe.Proofs.Client.Imports
import ClientScribe.Proofs.Client.Bindings
import ClientScribe.Proofs.Client.Locality
import ClientScribe.Proofs.Inference.Clue
import ClientScribe.Proofs.Client.TypeGrammar
import ClientScribe.Proofs.Disk.Inside
import ClientScribe.Proofs.Client.Confinement
import ClientScribe.Proofs.Reference.Override
import ClientScribe.Proofs.Docs.KeptOwnership
import ClientScribe.Proofs.CommandLine.Failure
import ClientScribe.Proofs.Client.DeclaredNames
import ClientScribe.Proofs.Client.PathArguments
import ClientScribe.Proofs.Client.Specifier
import ClientScribe.Proofs.Reference.Grouping
import ClientScribe.Proofs.Client.Comment
import ClientScribe.Proofs.Inference.Bullets
import ClientScribe.Proofs.Reference.Frame
import ClientScribe.Proofs.Text.Occurrence
import ClientScribe.Proofs.Inference.Place
import ClientScribe.Proofs.Inference.Frame
import ClientScribe.Proofs.Docs.Cells
import ClientScribe.Proofs.Docs.PublishedTable
import ClientScribe.Proofs.Docs.ErrorList
import ClientScribe.Proofs.Docs.Title
import ClientScribe.Proofs.Client.Literal
import ClientScribe.Proofs.Reference.Alike
import ClientScribe.Proofs.Docs.CarriedText
import ClientScribe.Proofs.Inference.Search
import ClientScribe.Proofs.Config.Failure
import ClientScribe.Proofs.Config.Common
