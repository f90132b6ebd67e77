import Reckon.Main
import Reckon.Node.Comparison
import Reckon.Proofs.Dialogue.Barrier
import Reckon.Proofs.Dialogue.Consistency
import Reckon.Proofs.Dialogue.Values
import Reckon.Proofs.Pairing.Runs
import Reckon.Proofs.Reading.Climbing
import Reckon.Proofs.Reading.LongestPrefix
import Reckon.Proofs.Linker.Timing
import Reckon.Proofs.Generator.LiveCode
import Reckon.Proofs.Generator.Lifecycle
import Reckon.Proofs.Dialogue.Rearrangement
import Reckon.Proofs.Token.Symbols
import Reckon.Proofs.Dialogue.Progress
import Reckon.Proofs.Reading.Foresight
import Reckon.Proofs.Dialogue.Listings
import Reckon.Proofs.Dialogue.Streaming
import Reckon.Proofs.Dialogue.Registry
import Reckon.Proofs.Evaluator.LiveBodies
import Reckon.Proofs.Pairing.Groupings
import Reckon.Proofs.Linker.Selection
import Reckon.Proofs.Dialogue.Unresolved
import Reckon.Proofs.Dialogue.History
import Reckon.Proofs.Semantics.Agreement
import Reckon.Proofs.Dialogue.Echoes
import Reckon.Proofs.Dialogue.Redeclaration
import Reckon.Proofs.Pairing.Retrials
import Reckon.Proofs.Dialogue.Advance
import Reckon.Proofs.Dialogue.Locations
import Reckon.Proofs.Reading.Layout
import Reckon.Proofs.Token.LineBreaks
import Reckon.Proofs.Node.Lines
import Reckon.Proofs.Token.Numbers
