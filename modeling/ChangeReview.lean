import ChangeReview.Config.Discovery
import ChangeReview.Json.Printer
import ChangeReview.Performance
import ChangeReview.Run
import ChangeReview.Scan.Pattern
import ChangeReview.Syntax.Parser
import ChangeReview.Proofs.Json.Extent
import ChangeReview.Proofs.Reply.Candidate
import ChangeReview.Proofs.Reply.Recovery
import ChangeReview.Proofs.Issue.Counting
import ChangeReview.Proofs.Reply.Attribution
import ChangeReview.Proofs.Run.Ending
import ChangeReview.Proofs.Score.Penalty
import ChangeReview.Proofs.Run.Provenance
import ChangeReview.Proofs.Run.Fallback
import ChangeReview.Proofs.Text.Search
import ChangeReview.Proofs.Text.Endings
import ChangeReview.Proofs.Json.Unfolding
import ChangeReview.Proofs.Json.Endings
import ChangeReview.Proofs.Reply.Fence
import ChangeReview.Proofs.Reply.Payload
import ChangeReview.Proofs.Reply.FencedPayload
import ChangeReview.Proofs.Reply.Lines
import ChangeReview.Proofs.Reply.Extraction
import ChangeReview.Proofs.Reply.ProsePayload
import ChangeReview.Proofs.Text.Numerals
import ChangeReview.Proofs.Reply.NormalForm
import ChangeReview.Proofs.Scan.Breakdown
import ChangeReview.Proofs.Score.Worsening
import ChangeReview.Proofs.Json.Members
import ChangeReview.Proofs.Record.Reading
import ChangeReview.Proofs.Run.Isolation
import ChangeReview.Proofs.Run.Phases
import ChangeReview.Proofs.Record.RoundTrip
import ChangeReview.Proofs.Record.Omission
import ChangeReview.Proofs.Syntax.Address
import ChangeReview.Proofs.Scan.Traversal
import ChangeReview.Proofs.Syntax.Comment
import ChangeReview.Proofs.Scan.CommentInsertion
import ChangeReview.Proofs.Scan.TextRule
import ChangeReview.Proofs.Scan.Sighting
import ChangeReview.Proofs.Scan.EntryOrder
import ChangeReview.Proofs.Syntax.Placement
import ChangeReview.Proofs.Config.Loading
import ChangeReview.Proofs.Scan.FileShape
import ChangeReview.Proofs.Scan.SourceOrder
import ChangeReview.Proofs.Prompt.Bounds
import ChangeReview.Proofs.Prompt.Highlights
import ChangeReview.Proofs.Reply.Usability
import ChangeReview.Proofs.Text.ByteOrder
import ChangeReview.Proofs.List.Distinct
import ChangeReview.Proofs.Issue.Weaknesses
import ChangeReview.Proofs.Score.Advice
import ChangeReview.Proofs.Issue.RollUp
import ChangeReview.Proofs.Run.SourceFiles
import ChangeReview.Proofs.Number.Quotient
import ChangeReview.Proofs.Scan.Complexity
import ChangeReview.Proofs.Text.Offset
import ChangeReview.Proofs.Reply.Slicing
import ChangeReview.Proofs.Reply.Exhaustion
import ChangeReview.Proofs.Phase.Guards
