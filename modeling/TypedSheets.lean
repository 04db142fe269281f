import TypedSheets.Main
import TypedSheets.Proofs.EmptySheets
import TypedSheets.Proofs.RejectedSource
import TypedSheets.Proofs.Registration
import TypedSheets.Proofs.Directory
import TypedSheets.Proofs.FailedWrite
import TypedSheets.Proofs.JsonText
import TypedSheets.Proofs.LogLine
import TypedSheets.Proofs.RegistryMap
import TypedSheets.Proofs.Session
import TypedSheets.Proofs.DataFile
import TypedSheets.Proofs.Verdicts
import TypedSheets.Proofs.RejectedSheet
import TypedSheets.Proofs.SchemaRows
import TypedSheets.Proofs.Locality
import TypedSheets.Proofs.Independence
import TypedSheets.Proofs.Reimport
import TypedSheets.Proofs.EntityLoading
import TypedSheets.Proofs.ArtifactPaths
import TypedSheets.Proofs.ExactDecimal
import TypedSheets.Proofs.JsonRecord
import TypedSheets.Proofs.Container
import TypedSheets.Proofs.Conformance
import TypedSheets.Proofs.Spelling
import TypedSheets.Proofs.SchemaScan
import TypedSheets.Proofs.TypeGrammar
import TypedSheets.Proofs.DeclarationLines
import TypedSheets.Proofs.DeclaredNames
import TypedSheets.Proofs.SourceLiteral
import TypedSheets.Proofs.OnePass
import TypedSheets.Proofs.CorrectRounding
import TypedSheets.Proofs.IntegerCoercion
import TypedSheets.Proofs.WrittenInteger
import TypedSheets.Proofs.Removal
import TypedSheets.Proofs.Precedence
import TypedSheets.Proofs.MemberBinding
