import ClusterDriver.Text.Quoted
/-!
# Shapes

The one-line form in which values are shown for diagnosis: records with named fields, lists, pairs
and optional values.
-/
namespace ClusterDriver.Text

inductive Shape where
  | word (text : String)
  | text (content : String)
  | list (items : List Shape)
  | pair (first second : Shape)
  | just (content : Shape)
  /-- A record; `partly` says that fields are left out. -/
  | record (name : String) (fields : List (String × Shape)) (partly : Bool)

namespace Shape

mutual
def line : Shape → String
  | .word s => s
  | .text s => quoted s
  | .list items => "[" ++ ", ".intercalate (lines items) ++ "]"
  | .pair a b => "(" ++ a.line ++ ", " ++ b.line ++ ")"
  | .just a => "Some(" ++ a.line ++ ")"
  | .record name fields partly =>
    let shown := fieldLines fields ++ (if partly then [".."] else [])
    if shown.isEmpty then name else name ++ " \x7b " ++ ", ".intercalate shown ++ " \x7d"
def lines : List Shape → List String
  | [] => []
  | s :: rest => s.line :: lines rest
def fieldLines : List (String × Shape) → List String
  | [] => []
  | (name, s) :: rest => (name ++ ": " ++ s.line) :: fieldLines rest
end

def nat (n : Nat) : Shape := .word (decimalText n)

def bool (b : Bool) : Shape := .word (if b then "true" else "false")

def option {α : Type} (f : α → Shape) : Option α → Shape
  | none => .word "None"
  | some a => .just (f a)

end Shape
end ClusterDriver.Text
