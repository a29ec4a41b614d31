/-
This file brings domains into their normal form in ASCII.
-/

import Scaledown.Url.Domain.Label

namespace Scaledown.Url.Domain

/-- The labels of a domain have dots in between, and empty labels are kept. -/
def ascii? (text : List Char) : Option (List Char) := do
  let labels ← (Text.cutAll ['.'] (← normalForm? text)).mapM label?
  if labels.any turns ∧ !labels.all followsDirection then none
  return ['.'].intercalate (← labels.mapM asciiLabel?)

end Scaledown.Url.Domain
