
namespace WorkerPool.Scenario

inductive Value where
  | null
  | bool (b : Bool)
  | int (n : Int)
  | str (s : String)
  | list (items : List Value)
  | object (fields : List (String × Value))
  deriving Repr, Inhabited

namespace Value

def nat (n : Nat) : Value := .int n

def hexDigit (n : Nat) : String := String.ofList (Nat.toDigits 16 n)

def escape (c : Char) : String :=
  match c with
  | '"' => "\\\""
  | '\\' => "\\\\"
  | '\n' => "\\n"
  | '\r' => "\\r"
  | '\t' => "\\t"
  | '\x08' => "\\b"
  | '\x0c' => "\\f"
  | c =>
    if c.toNat < 0x20 then "\\u00" ++ hexDigit (c.toNat / 16) ++ hexDigit (c.toNat % 16)
    else c.toString

def quote (s : String) : String := "\"" ++ String.join (s.toList.map escape) ++ "\""

def keyOrder (a b : String × String) : Bool := a.1 ≤ b.1

mutual

def text : Value → String
  | .null => "null"
  | .bool b => if b then "true" else "false"
  | .int n => toString n
  | .str s => quote s
  | .list items => "[" ++ ",".intercalate (textItems items) ++ "]"
  | .object fields =>
    "\x7b" ++ ",".intercalate (((textFields fields).mergeSort keyOrder).map (·.2)) ++ "\x7d"

def textItems : List Value → List String
  | [] => []
  | item :: rest => text item :: textItems rest

def textFields : List (String × Value) → List (String × String)
  | [] => []
  | (key, value) :: rest => (key, quote key ++ ":" ++ text value) :: textFields rest

end

def textOrder (a b : Value) : Bool := a.text ≤ b.text

def sorted (values : List Value) : List Value := values.mergeSort textOrder

mutual

def substitute (name : String) (value : Value) : Value → Value
  | .str s => if s = name then value else .str s
  | .list items => .list (substituteItems name value items)
  | .object fields => .object (substituteFields name value fields)
  | other => other

def substituteItems (name : String) (value : Value) : List Value → List Value
  | [] => []
  | item :: rest => substitute name value item :: substituteItems name value rest

def substituteFields (name : String) (value : Value) :
    List (String × Value) → List (String × Value)
  | [] => []
  | (key, field) :: rest =>
    (key, substitute name value field) :: substituteFields name value rest

end

def field? (v : Value) (key : String) : Option Value :=
  match v with
  | .object fields => (fields.find? (·.1 == key)).map (·.2)
  | _ => none

def asText : Value → String
  | .str s => s
  | _ => ""

def asNat : Value → Nat
  | .int n => n.toNat
  | _ => 0

def asBool : Value → Bool
  | .bool b => b
  | _ => false

def asList : Value → List Value
  | .list items => items
  | _ => []

def field (v : Value) (key : String) : Value := (v.field? key).getD .null

def textAt (v : Value) (key : String) : String := (v.field key).asText

def natAt (v : Value) (key : String) : Nat := (v.field key).asNat

def boolAt (v : Value) (key : String) : Bool := (v.field key).asBool

def listAt (v : Value) (key : String) : List Value := (v.field key).asList

def text? (v : Value) (key : String) : Option String :=
  match v.field? key with
  | some (.str s) => some s
  | _ => none

end Value

end WorkerPool.Scenario
