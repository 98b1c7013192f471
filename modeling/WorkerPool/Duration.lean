
namespace WorkerPool

structure Duration where
  nanos : Nat
  deriving DecidableEq, Repr, Inhabited

namespace Duration

def zero : Duration := ⟨0⟩

def ofMillis (n : Nat) : Duration := ⟨n * 1000000⟩

def ofParts (seconds nanos : Nat) : Duration := ⟨seconds * 1000000000 + nanos⟩

def longest : Duration := ofParts (Nat.pow 2 64 - 1) 999999999

def millis (d : Duration) : Nat := d.nanos / 1000000

def fraction : Nat → Nat → String
  | 0, _ => ""
  | places + 1, rest =>
    if rest = 0 then ""
    else toString (rest / Nat.pow 10 places) ++ fraction places (rest % Nat.pow 10 places)

def inUnit (places : Nat) (unit : String) (nanos : Nat) : String :=
  let digits := fraction places (nanos % Nat.pow 10 places)
  toString (nanos / Nat.pow 10 places) ++ (if digits = "" then "" else "." ++ digits) ++ unit

def text (d : Duration) : String :=
  if Nat.pow 10 9 ≤ d.nanos then inUnit 9 "s" d.nanos
  else if Nat.pow 10 6 ≤ d.nanos then inUnit 6 "ms" d.nanos
  else if Nat.pow 10 3 ≤ d.nanos then inUnit 3 "µs" d.nanos
  else inUnit 0 "ns" d.nanos

end Duration

end WorkerPool
