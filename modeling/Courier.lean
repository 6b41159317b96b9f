import Courier.Config.Discovery
import Courier.Pipeline
import Courier.Proofs.KeyHierarchy
import Courier.Proofs.Resolution
import Courier.Proofs.Scanning
import Courier.Proofs.Preparation
import Courier.Proofs.Locality
import Courier.Proofs.Relevance
import Courier.Proofs.PipelineRuns
import Courier.Proofs.CooldownHistory
import Courier.Proofs.Sending
import Courier.Proofs.Isolation
import Courier.Proofs.CooldownRuns
import Courier.Proofs.Saturation
import Courier.Proofs.Sweeping
import Courier.Proofs.Loading
import Courier.Proofs.Expansion
import Courier.Proofs.TemplateRoundTrip
import Courier.Proofs.ElapsedTime
import Courier.Proofs.Visibility
import Courier.Proofs.LocaleLookup
import Courier.Proofs.RemainingTime
import Courier.Proofs.Broadcasts
import Courier.Proofs.Showing
import Courier.Proofs.KeyGrammar
import Courier.Proofs.Pieces
import Courier.Proofs.Ancestry
import Courier.Proofs.Overwriting
import Courier.Proofs.Truncation
import Courier.Proofs.LocationTexts
import Courier.Proofs.NearestFile
