/-! `adaptive_chunk_sizing.py`: the next chunk of rows is sized from the measured byte cost of the
last one. -/

namespace Dynastore.Tools

def nextAdaptiveChunkRows (chunkBytes rowsRead byteBudget current ceiling : Nat) : Nat :=
  if rowsRead = 0 ∨ chunkBytes = 0 then current
  else max 1 (min ceiling (byteBudget / max 1 (chunkBytes / rowsRead)))

end Dynastore.Tools
