import Viewpoint.Main
import Viewpoint.Proofs.Containment.Climbing
import Viewpoint.Proofs.Containment.Depth
import Viewpoint.Proofs.Containment.Bounds
import Viewpoint.Proofs.Containment.Search
import Viewpoint.Proofs.Containment.Placing
import Viewpoint.Proofs.Containment.Schedule
import Viewpoint.Proofs.Containment.Requests
import Viewpoint.Proofs.Model.Merge
import Viewpoint.Proofs.Model.Nesting
import Viewpoint.Proofs.Model.Regrouping
import Viewpoint.Proofs.Model.Placement
import Viewpoint.Proofs.Model.Forest
import Viewpoint.Proofs.Model.Keeping
import Viewpoint.Proofs.Model.Turns
import Viewpoint.Proofs.Model.DeclarationOrder
import Viewpoint.Proofs.Model.Adjacent
import Viewpoint.Proofs.Model.Refusal
import Viewpoint.Proofs.Model.Noting
import Viewpoint.Proofs.Model.Warnings
import Viewpoint.Proofs.Model.SameFacts
import Viewpoint.Proofs.Model.Reordering
import Viewpoint.Proofs.Model.Walks
import Viewpoint.Proofs.Model.Circle
import Viewpoint.Proofs.Model.Preorder
import Viewpoint.Proofs.Model.SmallModels
import Viewpoint.Proofs.Criteria.Converse
import Viewpoint.Proofs.Criteria.KeyTable
import Viewpoint.Proofs.Criteria.ListKeys
import Viewpoint.Proofs.Criteria.Prefixes
import Viewpoint.Proofs.Criteria.Reading
import Viewpoint.Proofs.Criteria.Vacuous
import Viewpoint.Proofs.Criteria.Unrestricted
import Viewpoint.Proofs.Criteria.Rewriting
import Viewpoint.Proofs.Expansion.Reach
import Viewpoint.Proofs.Expansion.Widening
import Viewpoint.Proofs.View.Reading
import Viewpoint.Proofs.View.Chain
import Viewpoint.Proofs.View.Composing
import Viewpoint.Proofs.View.Outcome
import Viewpoint.Proofs.View.Copies
import Viewpoint.Proofs.View.Narrowing
import Viewpoint.Proofs.View.Isolation
import Viewpoint.Proofs.View.SameAnswers
import Viewpoint.Proofs.View.Kinds
import Viewpoint.Proofs.View.Selecting
import Viewpoint.Proofs.View.Dangling
import Viewpoint.Proofs.View.Listing
import Viewpoint.Proofs.View.Layering
import Viewpoint.Proofs.View.TagFilters
import Viewpoint.Proofs.View.Excluding
import Viewpoint.Proofs.View.Pruning
import Viewpoint.Proofs.View.Rewriting
import Viewpoint.Proofs.Report.InPlace
import Viewpoint.Proofs.Report.Bases
import Viewpoint.Proofs.Report.SharedNames
import Viewpoint.Proofs.Report.OneView
import Viewpoint.Proofs.Exchange.Records
import Viewpoint.Proofs.Exchange.Readable
import Viewpoint.Proofs.Exchange.KindTexts
import Viewpoint.Proofs.Exchange.Rebuilding
