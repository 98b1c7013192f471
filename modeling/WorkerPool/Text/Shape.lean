
namespace WorkerPool.Text

inductive Shape where
  | atom (text : String)
  | wrapped (name : String) (inner : Shape)
  -- With `partly` set, the record has further fields that are not shown.
  | record (name : String) (fields : List (String × Shape)) (partly : Bool)
  deriving Repr

namespace Shape

def bool (b : Bool) : Shape := .atom (if b then "true" else "false")

def nat (n : Nat) : Shape := .atom (toString n)

def option (value : Option Shape) : Shape :=
  match value with
  | none => .atom "None"
  | some inner => .wrapped "Some" inner

mutual

def line : Shape → String
  | .atom text => text
  | .wrapped name inner => name ++ "(" ++ line inner ++ ")"
  | .record name fields partly =>
    let shown := lineFields fields ++ if partly then [".."] else []
    name ++ " \x7b " ++ ", ".intercalate shown ++ " \x7d"

def lineFields : List (String × Shape) → List String
  | [] => []
  | (key, value) :: rest => (key ++ ": " ++ line value) :: lineFields rest

end

def margin (depth : Nat) : String := String.ofList (List.replicate (4 * depth) ' ')

mutual

def block (depth : Nat) : Shape → String
  | .atom text => text
  | .wrapped name inner =>
    name ++ "(\n" ++ margin (depth + 1) ++ block (depth + 1) inner ++ ",\n" ++ margin depth ++ ")"
  | .record name fields partly =>
    name ++ " \x7b\n" ++ blockFields (depth + 1) fields
      ++ (if partly then margin (depth + 1) ++ "..\n" else "") ++ margin depth ++ "\x7d"

def blockFields (depth : Nat) : List (String × Shape) → String
  | [] => ""
  | (key, value) :: rest =>
    margin depth ++ key ++ ": " ++ block depth value ++ ",\n" ++ blockFields depth rest

end

def render (pretty : Bool) (shape : Shape) : String :=
  if pretty then shape.block 0 else shape.line

end Shape

end WorkerPool.Text
