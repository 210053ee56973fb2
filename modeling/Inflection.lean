import Inflection.Json.Reader
import Inflection.Main
import Inflection.Proofs.Nouns.Partition
import Inflection.Proofs.Nouns.Stability
import Inflection.Proofs.Template.Grammar
import Inflection.Proofs.Template.Segmentation
import Inflection.Rule.Reader
import Inflection.Proofs.Verbs.RoundTrip
import Inflection.Proofs.Nouns.RoundTrip
import Inflection.Proofs.Session.Setup
import Inflection.Proofs.Text.Numeral
import Inflection.Proofs.CommandLine.Token
import Inflection.Proofs.CommandLine.Reading
import Inflection.Proofs.CommandLine.Arguments
import Inflection.Proofs.Log.Quiet
import Inflection.Proofs.CommandLine.Refinement
import Inflection.Proofs.Session.Independence
import Inflection.Proofs.Nouns.Unstable
import Inflection.Proofs.Verbs.Agreement
import Inflection.Proofs.Verbs.Stability
import Inflection.Proofs.Lowered.Forms
import Inflection.Proofs.Irregular.Forms
import Inflection.Proofs.Template.Count
import Inflection.Proofs.Template.Trace
import Inflection.Proofs.Phrase.Runs
import Inflection.Proofs.Phrase.Reading
import Inflection.Proofs.Rule.Keep
import Inflection.Proofs.TrailingBlanks
import Inflection.Proofs.Settings.Resolution
import Inflection.Proofs.CommandLine.Rendering
