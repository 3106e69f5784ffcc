import PcmRender.Session.Observed
import PcmRender.Main
import PcmRender.Proofs.Ring
import PcmRender.Proofs.Route
import PcmRender.Proofs.Cycle
import PcmRender.Proofs.Sections
import PcmRender.Proofs.Coherence
import PcmRender.Proofs.Delivery
import PcmRender.Proofs.Crew
import PcmRender.Proofs.Generations
import PcmRender.Proofs.Switch
import PcmRender.Proofs.Hiring
import PcmRender.Proofs.Undisturbed
import PcmRender.Proofs.Resampling
import PcmRender.Proofs.Silence
import PcmRender.Proofs.Framing
import PcmRender.Proofs.Stall
import PcmRender.Proofs.Ranking
import PcmRender.Proofs.Opening
import PcmRender.Proofs.Diagnostics
import PcmRender.Proofs.Pushing
import PcmRender.Proofs.Wholeness
import PcmRender.Proofs.Keeping
import PcmRender.Proofs.RunStates
import PcmRender.Proofs.Running
import PcmRender.Proofs.Following
import PcmRender.Proofs.Stranding
import PcmRender.Proofs.Alternation
import PcmRender.Proofs.Offering
import PcmRender.Proofs.Waking
import PcmRender.Proofs.FailedWrites
import PcmRender.Proofs.Positions
import PcmRender.Proofs.RouteKeeping
import PcmRender.Proofs.Room
import PcmRender.Proofs.Padding
import PcmRender.Proofs.Counting
import PcmRender.Proofs.Carrying
import PcmRender.Proofs.Replacing
import PcmRender.Proofs.Threadless
import PcmRender.Proofs.Retrying
import PcmRender.Proofs.Covering
import PcmRender.Proofs.Reading
import PcmRender.Proofs.Rounding
import PcmRender.Proofs.Loudness
import PcmRender.Proofs.QuickWays
import PcmRender.Proofs.Queue
import PcmRender.Proofs.Transcoding
import PcmRender.Proofs.Turning
import PcmRender.Proofs.EqualRates
import PcmRender.Proofs.Confining
import PcmRender.Proofs.Failing
import PcmRender.Proofs.Releasing
import PcmRender.Proofs.Fitting
import PcmRender.Proofs.Playtime
