import LiveSearch.Main
import LiveSearch.Service.Numbering
import LiveSearch.Proofs.Session.Absorption
import LiveSearch.Proofs.Session.Publication
import LiveSearch.Proofs.Service.Resubscription
import LiveSearch.Proofs.Session.Lifecycle
import LiveSearch.Proofs.Service.Counter
import LiveSearch.Proofs.Store.Tracking
import LiveSearch.Proofs.Board.Following
import LiveSearch.Proofs.Session.Loss
import LiveSearch.Proofs.Session.Trespass
import LiveSearch.Proofs.Session.Refusal
import LiveSearch.Proofs.Query.Meaning
import LiveSearch.Proofs.Query.Writing
import LiveSearch.Proofs.Board.Replay
import LiveSearch.Proofs.Service.Shutdown
import LiveSearch.Proofs.Shell.Leaving
import LiveSearch.Proofs.Query.Transitivity
import LiveSearch.Proofs.Settings.Precedence
import LiveSearch.Proofs.Query.Listening
import LiveSearch.Proofs.Query.Trichotomy
import LiveSearch.Proofs.Store.Shifting
import LiveSearch.Proofs.Query.Limits
import LiveSearch.Proofs.Store.History
import LiveSearch.Proofs.Board.Hearing
import LiveSearch.Proofs.Store.Loading
import LiveSearch.Proofs.Shell.Grammar
import LiveSearch.Proofs.Session.KeyHistory
import LiveSearch.Proofs.Query.Spelling
