import EntityScaffold.Main
import EntityScaffold.Proofs.HierarchyKeys
import EntityScaffold.Proofs.KeyAgreement
import EntityScaffold.Proofs.PathComponents
import EntityScaffold.Proofs.TreeGrowth
import EntityScaffold.Proofs.EmissionOnTrees
import EntityScaffold.Proofs.Emissions
import EntityScaffold.Proofs.GenerationPlan
import EntityScaffold.Proofs.Regeneration
import EntityScaffold.Proofs.Preparation
import EntityScaffold.Proofs.ArtifactPaths
import EntityScaffold.Proofs.HandOwnedFiles
import EntityScaffold.Proofs.Collisions
import EntityScaffold.Proofs.Acceptance
import EntityScaffold.Proofs.SchemaContents
import EntityScaffold.Proofs.Convergence
import EntityScaffold.Proofs.FailedRuns
import EntityScaffold.Proofs.ShownNames
import EntityScaffold.Proofs.RepeatedCalls
import EntityScaffold.Proofs.ProgressOnHosts
import EntityScaffold.Proofs.CompletedTrees
import EntityScaffold.Proofs.DocumentOrder
import EntityScaffold.Proofs.PartialGenerations
import EntityScaffold.Proofs.DeclaredAccessors
import EntityScaffold.Proofs.WrittenTypes
import EntityScaffold.Proofs.ImportClosure
import EntityScaffold.Proofs.Containment
import EntityScaffold.Proofs.FinderWalks
import EntityScaffold.Proofs.MandatoryAttributes
import EntityScaffold.Proofs.AccountedMembers
import EntityScaffold.Proofs.DoctypeScan
import EntityScaffold.Proofs.FinderTargets
import EntityScaffold.Proofs.ImportClashes
import EntityScaffold.Proofs.CaseRoundTrip
import EntityScaffold.Proofs.PropertyNames
import EntityScaffold.Proofs.EmissionEffects
import EntityScaffold.Proofs.TypeSpellings
import EntityScaffold.Proofs.MarkerDirectories
import EntityScaffold.Proofs.CommentedDocuments
import EntityScaffold.Proofs.ImportBlocks
import EntityScaffold.Proofs.MethodScopes
import EntityScaffold.Proofs.DeclaredNames
import EntityScaffold.Proofs.ReadingFailures
