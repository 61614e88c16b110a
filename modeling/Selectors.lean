import Selectors.Builder
import Selectors.Token.Equality
import Selectors.Proofs.Unambiguous
import Selectors.Proofs.Deduplication
import Selectors.Proofs.Trace
import Selectors.Proofs.FirstFault
import Selectors.Proofs.Closed
import Selectors.Proofs.Record
import Selectors.Proofs.Expressible
import Selectors.Proofs.Elements
import Selectors.Proofs.Positional
import Selectors.Proofs.Composition
import Selectors.Proofs.JsonText
