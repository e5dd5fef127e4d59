import TripleSlash.Comment.Edit
import TripleSlash.Main
import TripleSlash.Proofs.Comment.Anchor
import TripleSlash.Proofs.Comment.Insertion
import TripleSlash.Proofs.Comment.Places
import TripleSlash.Proofs.Comment.Order
import TripleSlash.Proofs.Comment.Completion
import TripleSlash.Proofs.Comment.Coverage
import TripleSlash.Proofs.Comment.DeclarationOrder
import TripleSlash.Proofs.Comment.Sections
import TripleSlash.Proofs.Comment.Alternation
import TripleSlash.Proofs.Comment.Rendering
import TripleSlash.Proofs.Comment.Escaping
import TripleSlash.Proofs.Comment.Decoding
import TripleSlash.Proofs.Comment.DocumentationLines
import TripleSlash.Proofs.Comment.Injectivity
import TripleSlash.Proofs.Comment.Outline
import TripleSlash.Proofs.TypeRef.Scanning
import TripleSlash.Proofs.TypeRef.Spelling
import TripleSlash.Proofs.TypeRef.Soundness
import TripleSlash.Proofs.TypeRef.Parsing
import TripleSlash.Proofs.Unicode.Trim
import TripleSlash.Proofs.TypeRef.RoundTrip
import TripleSlash.Proofs.Datum.Fields
import TripleSlash.Proofs.Datum.Encoded
import TripleSlash.Proofs.Datum.Json.Quoted
import TripleSlash.Proofs.Datum.Json.Reading
import TripleSlash.Proofs.Comment.Encoding
import TripleSlash.Proofs.TypeRef.Legible
import TripleSlash.Proofs.Declaration.BodyEncoding
import TripleSlash.Proofs.Declaration.Encoding
import TripleSlash.Proofs.Fix.Encoding
import TripleSlash.Proofs.Fix.Report
import TripleSlash.Proofs.Files.Tree
import TripleSlash.Proofs.Files.Paths
import TripleSlash.Proofs.Files.Writing
import TripleSlash.Proofs.Files.Names
import TripleSlash.Proofs.Unicode.ByteOrder
import TripleSlash.Proofs.Files.Scanning
import TripleSlash.Proofs.CommandLine.Running
import TripleSlash.Proofs.CommandLine.Directory
import TripleSlash.Proofs.CommandLine.Output
import TripleSlash.Proofs.TypeRef.Nesting
import TripleSlash.Proofs.Unicode.CaseForms
import TripleSlash.Proofs.Words.Splitting
import TripleSlash.Proofs.Words.Capitals
import TripleSlash.Proofs.Words.Endings
import TripleSlash.Proofs.Words.ThirdPerson
import TripleSlash.Proofs.Prose.MovedIs
import TripleSlash.Proofs.Prose.Sentence
import TripleSlash.Proofs.Comment.Wording
import TripleSlash.Proofs.Prose.Phrase
import TripleSlash.Proofs.Words.Stability
import TripleSlash.Proofs.Declaration.Thrown
import TripleSlash.Proofs.TypeRef.CrossReference
import TripleSlash.Proofs.TypeRef.Lowering
