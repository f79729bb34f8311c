import TypedTemplate.Template
import TypedTemplate.Proofs.NestedScopes
import TypedTemplate.Proofs.Registrations
import TypedTemplate.Proofs.CompiledTrees
import TypedTemplate.Proofs.CompiledSchemas
import TypedTemplate.Proofs.ParsedTemplates
import TypedTemplate.Proofs.PropertyNames
import TypedTemplate.Proofs.Acceptance
import TypedTemplate.Proofs.NullableLeaves
import TypedTemplate.Proofs.Readings
import TypedTemplate.Proofs.LastingShapes
import TypedTemplate.Proofs.ValidatedData
import TypedTemplate.Proofs.SanitizedTemplates
import TypedTemplate.Proofs.DocumentTags
import TypedTemplate.Proofs.ShownInstances
import TypedTemplate.Proofs.ShownStyles
import TypedTemplate.Proofs.AgreeingData
import TypedTemplate.Proofs.UnseenData
import TypedTemplate.Proofs.DroppedElements
import TypedTemplate.Proofs.RegistrationEffects
import TypedTemplate.Proofs.CanonicalOrder
import TypedTemplate.Proofs.RegistrationOrder
import TypedTemplate.Proofs.LaterStatements
import TypedTemplate.Proofs.RepeatedContent
import TypedTemplate.Proofs.Renaming
import TypedTemplate.Proofs.RenamedScopes
import TypedTemplate.Proofs.AliasNames
import TypedTemplate.Proofs.StatedDirectives
import TypedTemplate.Proofs.ScopeRoots
import TypedTemplate.Proofs.AddedConditions
import TypedTemplate.Proofs.LegalKeywords
import TypedTemplate.Proofs.UsableOperands
import TypedTemplate.Proofs.JudgedData
import TypedTemplate.Proofs.AppliedFilters
import TypedTemplate.Proofs.CompiledTemplates
import TypedTemplate.Proofs.ParsingFaults
import TypedTemplate.Proofs.ReadBack
import TypedTemplate.Proofs.DocumentParts
import TypedTemplate.Proofs.StaticTemplates
import TypedTemplate.Proofs.CanonicalForm
import TypedTemplate.Proofs.RequiredNames
import TypedTemplate.Proofs.LaidAnnotations
import TypedTemplate.Proofs.LegalExpressions
import TypedTemplate.Proofs.WrittenExpressions
import TypedTemplate.Proofs.ImplicitNames
import TypedTemplate.Proofs.ReportedPlaces
import TypedTemplate.Proofs.AbsentData
import TypedTemplate.Proofs.PlacedLeaves
import TypedTemplate.Proofs.MergedLeaves
import TypedTemplate.Proofs.InheritedAnnotations
import TypedTemplate.Proofs.ShownPages
import TypedTemplate.Proofs.TextSegments
import TypedTemplate.Proofs.BrokenPairs
import TypedTemplate.Proofs.BannedValues
import TypedTemplate.Proofs.ReducedStyles
import TypedTemplate.Proofs.GrowingTrees
import TypedTemplate.Proofs.OpenElements
import TypedTemplate.Proofs.AcceptedTimes
import TypedTemplate.Proofs.IntegerLiterals
import TypedTemplate.Proofs.FixedPlaces
import TypedTemplate.Proofs.SeparatedThousands
import TypedTemplate.Proofs.CheckedPaths
import TypedTemplate.Proofs.AddressedNodes
import TypedTemplate.Proofs.QuotedPieces
import TypedTemplate.Proofs.MatchedParentheses
import TypedTemplate.Proofs.ConstraintEntries
import TypedTemplate.Proofs.FilledTexts
import TypedTemplate.Proofs.WideForms
