import PropertyInsertion.File.Tree
import PropertyInsertion.Main
import PropertyInsertion.Proofs.Pieces
import PropertyInsertion.Proofs.Search
import PropertyInsertion.Proofs.SnippetReading
import PropertyInsertion.Proofs.PlanShape
import PropertyInsertion.Proofs.SnippetHygiene
import PropertyInsertion.Proofs.Recognition
import PropertyInsertion.Proofs.Accumulation
import PropertyInsertion.Proofs.Anchors
import PropertyInsertion.Proofs.Failures
import PropertyInsertion.Proofs.InsertionPlace
import PropertyInsertion.Proofs.BraceDepth
import PropertyInsertion.Proofs.LinesBehind
import PropertyInsertion.Proofs.SyncedText
import PropertyInsertion.Proofs.EntryPoints
import PropertyInsertion.Proofs.SettingsLayers
import PropertyInsertion.Proofs.SignatureLine
import PropertyInsertion.Proofs.DocComments
import PropertyInsertion.Proofs.ParameterLists
import PropertyInsertion.Proofs.SpelledUris
import PropertyInsertion.Proofs.SnippetRoundTrip
import PropertyInsertion.Proofs.InlineMerge
import PropertyInsertion.Proofs.Offsets
import PropertyInsertion.Proofs.RangeText
import PropertyInsertion.Proofs.LinkedNames
import PropertyInsertion.Proofs.InvalidSettings
import PropertyInsertion.Proofs.OpenedConstructors
import PropertyInsertion.Proofs.LineKinds
import PropertyInsertion.Proofs.NearestOpener
import PropertyInsertion.Proofs.ClampedRanges
