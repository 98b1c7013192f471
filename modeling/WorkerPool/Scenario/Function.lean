import WorkerPool.Scenario.Value
import WorkerPool.Task

namespace WorkerPool.Scenario

inductive Function where
  | echo
  | sum
  | len
  | rev
  | check
  deriving DecidableEq, Repr

namespace Function

def ofName : String → Function
  | "sum" => .sum
  | "len" => .len
  | "rev" => .rev
  | "check" => .check
  | _ => .echo

def fits (n : Int) : Bool := -(Int.pow 2 63) ≤ n && n < Int.pow 2 63

def panic (message : String) : Outcome Value := .panicked (.text message)

def total (sum : Int) : List Value → Outcome Value
  | [] => .returned (.int sum)
  | .int n :: rest =>
    if !fits n then panic "not an integer"
    else if !fits (sum + n) then panic "overflow"
    else total (sum + n) rest
  | _ :: _ => panic "not an integer"

def apply : Function → Value → Outcome Value
  | .echo, v => .returned v
  | .sum, .list items => total 0 items
  | .sum, _ => panic "bad argument for sum"
  | .len, .str s => .returned (.nat s.length)
  | .len, .list items => .returned (.nat items.length)
  | .len, _ => panic "bad argument for len"
  | .rev, .str s => .returned (.str (String.ofList s.toList.reverse))
  | .rev, .list items => .returned (.list items.reverse)
  | .rev, _ => panic "bad argument for rev"
  | .check, .int n =>
    if !fits n then panic "bad value"
    else if n < 0 then panic ("negative input: " ++ toString n)
    else .returned (.int n)
  | .check, _ => panic "bad value"

end Function

inductive Work where
  | body (ops : List Value)
  | call (function : Function) (argument : Value)
  deriving Repr, Inhabited

def Work.ofFields (v : Value) : Work :=
  match v.text? "fn" with
  | some name => .call (.ofName name) (v.field "args")
  | none => .body (v.listAt "body")

end WorkerPool.Scenario
