import Jargon.Main
import Jargon.Text.Filler
import Jargon.Proofs.Injection.Repeated
import Jargon.Proofs.Injection.Tracked
import Jargon.Proofs.Binary64.Rounding
import Jargon.Proofs.Decimal.ReadBack
import Jargon.Proofs.Toml.Numbers
import Jargon.Proofs.Toml.Values
import Jargon.Proofs.Toml.Lines
import Jargon.Proofs.Config.RoundTrip
import Jargon.Proofs.Config.Agreement
import Jargon.Proofs.Injection.Hits
import Jargon.Proofs.Engine.Separation
import Jargon.Proofs.Engine.Schedule
import Jargon.Proofs.Text.Encoding
import Jargon.Proofs.Injection.Accounting
import Jargon.Proofs.Config.Settings
import Jargon.Proofs.CommandLine.Outcome
import Jargon.Proofs.Text.Places
import Jargon.Proofs.Binary64.Order
import Jargon.Proofs.Config.Validity
import Jargon.Proofs.Binary64.Accuracy
import Jargon.Proofs.Density.Thousandths
import Jargon.Proofs.Injection.Required
import Jargon.Proofs.Random.Uniform
import Jargon.Proofs.Text.Filler
import Jargon.Proofs.Prose.Speech
import Jargon.Proofs.CommandLine.Piping
import Jargon.Proofs.Text.Presence
