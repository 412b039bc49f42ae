import ApiSchema.Main
import ApiSchema.Proofs.Registry
import ApiSchema.Proofs.Run
import ApiSchema.Proofs.Law
import ApiSchema.Proofs.Calls
import ApiSchema.Proofs.Rollback
import ApiSchema.Proofs.Permanence
import ApiSchema.Proofs.Closure
import ApiSchema.Proofs.SchemaText
import ApiSchema.Proofs.PlainWalk
import ApiSchema.Proofs.Agreement
import ApiSchema.Proofs.Visits
import ApiSchema.Proofs.Transparency
import ApiSchema.Proofs.Mirrors
import ApiSchema.Proofs.MirroredWalk
import ApiSchema.Proofs.ObjectNames
import ApiSchema.Proofs.RoundTrip
import ApiSchema.Proofs.HiddenFields
import ApiSchema.Proofs.DocstringOutline
import ApiSchema.Proofs.DocstringReading
import ApiSchema.Proofs.VisibleEquality
import ApiSchema.Proofs.StrictUnions
import ApiSchema.Proofs.CatalogLoading
import ApiSchema.Proofs.SchemaKeywords
import ApiSchema.Proofs.CatalogRules
import ApiSchema.Proofs.AcceptedNodes
import ApiSchema.Proofs.AcceptedCatalogs
import ApiSchema.Proofs.LintAgreement
import ApiSchema.Proofs.Cycles
import ApiSchema.Proofs.NodeForms
import ApiSchema.Proofs.TreeForms
import ApiSchema.Proofs.BlockStrings
import ApiSchema.Proofs.FieldGeneration
import ApiSchema.Proofs.Origins
import ApiSchema.Proofs.UnionMembers
import ApiSchema.Proofs.NotedMappings
import ApiSchema.Proofs.UnionTypes
import ApiSchema.Proofs.EntryCaching
import ApiSchema.Proofs.EntrySharing
import ApiSchema.Proofs.UnionSums
import ApiSchema.Proofs.UnionNests
import ApiSchema.Proofs.UnionLeaves
import ApiSchema.Proofs.FieldNames
import ApiSchema.Proofs.KeyRoundTrip
import ApiSchema.Proofs.DocstringLayout
import ApiSchema.Proofs.CatalogRuns
import ApiSchema.Proofs.OutlineLines
import ApiSchema.Proofs.LintTotals
import ApiSchema.Proofs.UnionProjection
