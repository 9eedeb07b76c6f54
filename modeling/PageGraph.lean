import PageGraph.Main
import PageGraph.Proofs.Graph.Simple
import PageGraph.Proofs.Graph.Torso
import PageGraph.Proofs.Pruning.Dissolution
import PageGraph.Proofs.Pruning.Passes
import PageGraph.Proofs.Pruning.FixedPoint
import PageGraph.Proofs.Pruning.Reachability
import PageGraph.Proofs.Graph.Degree
import PageGraph.Proofs.Pruning.Orphans
import PageGraph.Proofs.Graph.Ancestry
import PageGraph.Proofs.Graph.Climbing
import PageGraph.Proofs.Graph.LowestCommon
import PageGraph.Proofs.Graph.Forest
import PageGraph.Proofs.Build.Growth
import PageGraph.Proofs.Classify.Relabelling
import PageGraph.Proofs.Run.PageModel
import PageGraph.Proofs.Run.Depths
import PageGraph.Proofs.StableSort
import PageGraph.Proofs.Search.Containment
import PageGraph.Proofs.Search.Enclosing
import PageGraph.Proofs.Query.Compilation
import PageGraph.Proofs.Build.Preorder
import PageGraph.Proofs.Query.Recognition
import PageGraph.Proofs.Run.VisibleText
import PageGraph.Proofs.Classify.Grid
import PageGraph.Proofs.Classify.Chain
import PageGraph.Proofs.Classify.Unlabelled
import PageGraph.Proofs.Classify.Repetition
import PageGraph.Proofs.Run.Reclassification
import PageGraph.Proofs.Run.HopRange
import PageGraph.Proofs.Graph.Sound
import PageGraph.Proofs.Run.Reached
import PageGraph.Proofs.Run.Fetching
import PageGraph.Proofs.Search.Alone
import PageGraph.Proofs.Run.Windows
import PageGraph.Proofs.Pruning.Rehanging
import PageGraph.Proofs.Build.Nesting
import PageGraph.Proofs.Pruning.SiblingOrder
import PageGraph.Proofs.Classify.Titles
import PageGraph.Proofs.Graph.Outline
import PageGraph.Proofs.Run.DocumentOrder
import PageGraph.Proofs.Search.CaseFolding
import PageGraph.Proofs.Build.Naming
import PageGraph.Proofs.Build.Clashes
import PageGraph.Proofs.Run.Outcomes
import PageGraph.Proofs.Build.DeniedTexts
import PageGraph.Proofs.Search.Rounding
import PageGraph.Proofs.Search.Excerpt
import PageGraph.Proofs.Search.WideWindow
import PageGraph.Proofs.Graph.ForestDepth
import PageGraph.Proofs.Classify.Votes
import PageGraph.Proofs.Run.GridVotes
import PageGraph.Proofs.Classify.Enrichment
import PageGraph.Proofs.Classify.Commutation
import PageGraph.Proofs.Run.TagPrefixes
import PageGraph.Proofs.Query.IgnoredConditions
import PageGraph.Proofs.Query.Tiling
import PageGraph.Proofs.Query.StringLiterals
import PageGraph.Proofs.Query.WrittenPlans
import PageGraph.Proofs.Graph.Rendering
import PageGraph.Proofs.Query.FirstMisfit
import PageGraph.Proofs.Command.Arguments
import PageGraph.Proofs.Config.Layers
