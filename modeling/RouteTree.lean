import RouteTree.RoutesFile
import RouteTree.Proofs.Mirror
import RouteTree.Proofs.ReadBack
import RouteTree.Proofs.Relaxation
import RouteTree.Proofs.StrictNames
import RouteTree.Proofs.Answers
import RouteTree.Proofs.Prepending
import RouteTree.Proofs.Fragments
import RouteTree.Proofs.Matching
import RouteTree.Proofs.StandardPattern
import RouteTree.Proofs.PlainTemplates
import RouteTree.Proofs.Substitution
import RouteTree.Proofs.Defects
import RouteTree.Proofs.TreesFromJson
import RouteTree.Proofs.NearestBinary
import RouteTree.Proofs.DecimalValues
import RouteTree.Proofs.ShortestDigits
import RouteTree.Proofs.Numerals
import RouteTree.Proofs.JsonText
import RouteTree.Proofs.StructuralText
import RouteTree.Proofs.QueryKeys
import RouteTree.Proofs.ParameterlessPaths
import RouteTree.Proofs.AcceptedUrls
import RouteTree.Proofs.JsonReading
import RouteTree.Proofs.OptionsText
import RouteTree.Proofs.StandardText
import RouteTree.Proofs.DottedKeys
import RouteTree.Proofs.SlotValues
import RouteTree.Proofs.KeptUrls
import RouteTree.Proofs.NormalPaths
import RouteTree.Proofs.Insertions
import RouteTree.Proofs.Declarations
import RouteTree.Proofs.RoundingOrder
import RouteTree.Proofs.FewestDigits
import RouteTree.Proofs.NumberText
import RouteTree.Proofs.WholeNumbers
import RouteTree.Proofs.LeafCounts
import RouteTree.Proofs.SlotPositions
