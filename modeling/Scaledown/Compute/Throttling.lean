/-
This file recognises rejections for rate or quota reasons.
-/

import Scaledown.Text.Case

namespace Scaledown.Compute

/-- A throttling message contains one of these texts in some case of letters. -/
def throttlingSigns : List String :=
  ["rate limit", "quota exceeded"]

/-- The comparison ignores the case of ASCII letters only. -/
def isThrottling (message : String) : Bool :=
  throttlingSigns.any fun sign => Text.contains sign.toList (Text.lower message.toList)

end Scaledown.Compute
