import Flowchart.Build.Script
import Flowchart.Cli.Folder
import Flowchart.Lint.Json
import Flowchart.Main
import Flowchart.Proofs.Pieces
import Flowchart.Proofs.Spacing
import Flowchart.Proofs.Markup
import Flowchart.Proofs.Characters
import Flowchart.Proofs.Label
import Flowchart.Proofs.EdgeLabel
import Flowchart.Proofs.Identifier
import Flowchart.Proofs.Canonical
import Flowchart.Proofs.Statement
import Flowchart.Proofs.Wrap
import Flowchart.Proofs.Acceptance
import Flowchart.Proofs.Printing
import Flowchart.Proofs.Kept
import Flowchart.Proofs.Limits
import Flowchart.Proofs.Structure
import Flowchart.Proofs.Pruning
import Flowchart.Proofs.Conservation
import Flowchart.Proofs.Division
import Flowchart.Proofs.Line
import Flowchart.Proofs.Unambiguous
import Flowchart.Proofs.Sight
import Flowchart.Proofs.Survey
import Flowchart.Proofs.Reading
import Flowchart.Proofs.Verdict
import Flowchart.Proofs.Bounds
import Flowchart.Proofs.Settled
import Flowchart.Proofs.Approval
import Flowchart.Proofs.Delivery
import Flowchart.Proofs.Numerals
import Flowchart.Proofs.JsonText
import Flowchart.Proofs.Sorted
import Flowchart.Proofs.Decoding
import Flowchart.Proofs.DiagramJson
import Flowchart.Proofs.Lineage
import Flowchart.Proofs.Repairs
import Flowchart.Proofs.Ceiling
import Flowchart.Proofs.Retained
import Flowchart.Proofs.Account
import Flowchart.Proofs.Ending
import Flowchart.Proofs.Alarm
import Flowchart.Proofs.Inversion
import Flowchart.Proofs.Chain
import Flowchart.Proofs.Comparison
import Flowchart.Proofs.Linking
import Flowchart.Proofs.Agreement
import Flowchart.Proofs.FalseAlarm
import Flowchart.Proofs.Oversight
import Flowchart.Proofs.Recall
import Flowchart.Proofs.Blocks
import Flowchart.Proofs.Mending
import Flowchart.Proofs.Chronicle
import Flowchart.Proofs.Novelty
import Flowchart.Proofs.Lessons
import Flowchart.Proofs.Tally
import Flowchart.Proofs.Merging
import Flowchart.Proofs.Selection
import Flowchart.Proofs.Ranking
import Flowchart.Proofs.Bridges
import Flowchart.Proofs.Capacity
import Flowchart.Proofs.Units
import Flowchart.Proofs.Arity
import Flowchart.Proofs.Dismantling
import Flowchart.Proofs.Layout
import Flowchart.Proofs.Membership
import Flowchart.Proofs.Cleaning
import Flowchart.Proofs.Pattern
import Flowchart.Proofs.Closer
import Flowchart.Proofs.Reordering
import Flowchart.Proofs.Position
import Flowchart.Proofs.Underline
import Flowchart.Proofs.Earliest
import Flowchart.Proofs.TrailJson
import Flowchart.Proofs.Excerpt
import Flowchart.Proofs.JsonTail
import Flowchart.Proofs.Completion
import Flowchart.Proofs.Sentences
import Flowchart.Proofs.Gathering
