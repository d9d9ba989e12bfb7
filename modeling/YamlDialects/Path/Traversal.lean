/-!
Paths through a document, and traversals: routes through anything that a path segment can be applied to.
A step may reach no node, one or many. A repetition gives its start, then all that one application of
its step reaches, then all that two reach, and so on.
-/

set_option autoImplicit false

namespace YamlDialects

inductive Segment where
  | value (name : String)
  | key (name : String)
  | index (position : Nat)
  | anyChild
deriving DecidableEq, Inhabited

namespace Segment

def key? : Segment → Option String
  | .value name => some name
  | .key name => some name
  | _ => none

def index? : Segment → Option Nat
  | .index position => some position
  | _ => none

def propertyText : Segment → String
  | .value name => name
  | .key name => name
  | .index position => "[" ++ toString position ++ "]"
  | .anyChild => "*"

def stepText : Segment → String
  | .value name => "." ++ name
  | .key name => ".&" ++ name
  | .index position => "[" ++ toString position ++ "]"
  | .anyChild => ".*"

end Segment

abbrev Path := List Segment

namespace Path

def ofProperty (name : String) : Path :=
  (name.splitOn ".").map .value

def commonStart : Path → Path → Path
  | a :: first, b :: second => if a = b then a :: commonStart first second else []
  | _, _ => []

def startsWith (path start : Path) : Bool :=
  start.isPrefixOf path

def pointsAtKey (path : Path) : Bool :=
  match path.getLast? with
  | some (.key _) => true
  | _ => false

def pointsAtValue (path : Path) : Bool :=
  match path.getLast? with
  | some (.value _) => true
  | some (.index _) => true
  | _ => false

def lastKey? (path : Path) : Option String :=
  path.getLast?.bind Segment.key?

def stepText (path : Path) : String :=
  String.join (path.map Segment.stepText)

def propertyText : Path → String
  | [] => ""
  | first :: rest => first.propertyText ++ stepText rest

def render (path : Path) : String :=
  "YamlPath(" ++ path.stepText ++ ")"

end Path
end YamlDialects

namespace YamlDialects

class Navigable (α : Type) where
  step : Segment → α → List α

/-- Every step leads lower, so that no route is endless. -/
class Grounded (α : Type) extends Navigable α where
  height : α → Nat
  height_step : ∀ (segment : Segment) (node next : α), next ∈ step segment node → height next < height node

inductive Traversal where
  | empty
  | segment (move : Segment)
  | path (moves : Path)
  | sequence (first second : Traversal)
  | alternative (left right : Traversal)
  | repetition (step : Traversal)
deriving DecidableEq, Inhabited

inductive TraversalError where
  | emptyOperand (operand : Traversal)
  | emptyStep (step : Traversal)

namespace Traversal

def canEmpty : Traversal → Bool
  | .empty => true
  | .segment _ => false
  | .path moves => moves.isEmpty
  | .sequence first second => first.canEmpty && second.canEmpty
  | .alternative left right => left.canEmpty || right.canEmpty
  | .repetition _ => true

def isIdentity : Traversal → Bool
  | .empty => true
  | .path moves => moves.isEmpty
  | _ => false

def andThen (first second : Traversal) : Traversal :=
  if first.isIdentity then second
  else if second.isIdentity then first
  else .sequence first second

/-- Both routes from the same start; neither may be able to stay there. -/
def either (left right : Traversal) : Except TraversalError Traversal :=
  if left.canEmpty then .error (.emptyOperand left)
  else if right.canEmpty then .error (.emptyOperand right)
  else .ok (.alternative left right)

def repeated (step : Traversal) : Except TraversalError Traversal :=
  if step.canEmpty then .error (.emptyStep step) else .ok (.repetition step)

def render : Traversal → String
  | .empty => "Empty"
  | .segment move => move.stepText
  | .path moves => moves.stepText
  | .sequence first second => first.render ++ second.render
  | .alternative left right => "(" ++ left.render ++ "|" ++ right.render ++ ")"
  | .repetition step => "(" ++ step.render ++ ")*"

/-- Concatenates at most `levels` levels, each reached from the one before, up to the first empty one. -/
def breadthFirst {α : Type} (expand : α → List α) : Nat → List α → List α
  | 0, _ => []
  | _ + 1, [] => []
  | levels + 1, level => level ++ breadthFirst expand levels (level.flatMap expand)

def resultsWithin {α : Type} [Navigable α] (levels : Nat) : Traversal → α → List α
  | .empty, start => [start]
  | .segment move, start => Navigable.step move start
  | .path moves, start => moves.foldl (fun nodes move => nodes.flatMap (Navigable.step move)) [start]
  | .sequence first second, start => (resultsWithin levels first start).flatMap (resultsWithin levels second)
  | .alternative left right, start => resultsWithin levels left start ++ resultsWithin levels right start
  | .repetition step, start => breadthFirst (resultsWithin levels step) levels [start]

def results {α : Type} [Grounded α] (traversal : Traversal) (start : α) : List α :=
  traversal.resultsWithin (Grounded.height start + 1) start

end Traversal

def Path.results {α : Type} [Navigable α] (path : Path) (start : α) : List α :=
  Traversal.resultsWithin 0 (.path path) start

def Path.first? {α : Type} [Navigable α] (path : Path) (start : α) : Option α :=
  (path.results start).head?

def TraversalError.message : TraversalError → String
  | .emptyOperand operand =>
      "invalid traversal: alternative operand " ++ operand.render ++ " can match the empty traversal"
  | .emptyStep step =>
      "invalid traversal: repeated step " ++ step.render ++ " can match the empty traversal"

end YamlDialects
