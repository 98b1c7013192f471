import WorkerPool.Text.Combining
import WorkerPool.Text.Unseen

namespace WorkerPool.Text

def inRanges (ranges : List (Nat × Nat)) (code : Nat) : Bool :=
  ranges.any fun (low, high) => low ≤ code && code ≤ high

def isVisible (c : Char) : Bool :=
  if c.toNat < 0x80 then 0x20 ≤ c.toNat && c.toNat ≠ 0x7f
  else !inRanges unseenRanges c.toNat && !inRanges combiningRanges c.toNat

end WorkerPool.Text
