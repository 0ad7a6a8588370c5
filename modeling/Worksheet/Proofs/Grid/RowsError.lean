import Worksheet.Proofs.Text.Trim
import Worksheet.Text.Basic
import Worksheet.Value.Build

/-! The texts that name why rows of values do not form a grid. Each has its own opening words, and
its numbers can be read off it, because a number ends with its last digit where no digit follows. So
the text tells the fault. -/

namespace Worksheet.Text

variable {m n : Nat} {cs ds : List Char}

end Worksheet.Text

namespace Worksheet.Grid.RowsError
open Text

end Worksheet.Grid.RowsError
