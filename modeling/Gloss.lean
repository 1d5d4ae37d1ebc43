import Gloss.Main
import Gloss.Proofs.Cache.Exclusion
import Gloss.Proofs.Comment.RoundTrip
import Gloss.Proofs.Documented
import Gloss.Proofs.LineEndings
import Gloss.Proofs.Transparency
import Gloss.Proofs.Generation
import Gloss.Proofs.Fallback
import Gloss.Proofs.Report
import Gloss.Proofs.Config.Fields
import Gloss.Proofs.Config.Environment
import Gloss.Proofs.Config.Layers
import Gloss.Proofs.Replace
import Gloss.Proofs.Source.Nesting
import Gloss.Proofs.Resplit
import Gloss.Proofs.Comment.Closing
import Gloss.Proofs.Recovery
import Gloss.Proofs.Cache.History
import Gloss.Proofs.Conformance
import Gloss.Proofs.Sentence
import Gloss.Proofs.Reply.Bare
import Gloss.Proofs.Source.Exposure
import Gloss.Proofs.TypeShape.RoundTrip
