import SuiteRunner.Number.Binary64

/-!
  SuiteRunner.XPath.Expression
  ────────────────────────────────
  **EXPRESSIONS THAT SELECT NODES AND COMPUTE VALUES.**

  A path starts at the root, at the current node or at the nodes of another expression, and takes
  steps.  A step goes along an axis, keeps the nodes that pass its test, and then those that pass
  each of its predicates.
-/

namespace SuiteRunner.XPath

/-- The directions in which a step goes. -/
inductive Axis where
  | child | descendant | parent | ancestor | followingSibling | precedingSibling
  | following | preceding | attribute | declared | self | descendantOrSelf | ancestorOrSelf
  deriving DecidableEq, Repr

/-- The axis a word stands for. -/
def Axis.ofWord? (word : String) : Option Axis :=
  match word with
  | "child" => some .child
  | "descendant" => some .descendant
  | "parent" => some .parent
  | "ancestor" => some .ancestor
  | "following-sibling" => some .followingSibling
  | "preceding-sibling" => some .precedingSibling
  | "following" => some .following
  | "preceding" => some .preceding
  | "attribute" => some .attribute
  | "namespace" => some .declared
  | "self" => some .self
  | "descendant-or-self" => some .descendantOrSelf
  | "ancestor-or-self" => some .ancestorOrSelf
  | _ => none

/-- What a step keeps of the nodes on its axis.  A name test without a local part keeps all names,
or all names with the prefix. -/
inductive NodeTest where
  | any
  | text
  | comment
  | instruction (target : Option String)
  | name (space? localPart? : Option String)
  deriving DecidableEq, Repr

/-- Operators between two expressions. -/
inductive Operator where
  | or_ | and_ | equal | notEqual | less | lessEq | greater | greaterEq
  | plus | minus | times | quotient | remainder | union
  deriving DecidableEq, Repr

mutual
/-- An expression. -/
inductive Expr where
  | number (x : Binary64)
  | literal (s : String)
  | variable_ (name : String)
  | call (name : String) (args : List Expr)
  | negate (e : Expr)
  | binary (op : Operator) (left right : Expr)
  | root
  | current
  | filter (base predicate : Expr)
  | path (start : Expr) (steps : List Step)

/-- A step of a path. -/
inductive Step where
  | mk (axis : Axis) (test : NodeTest) (predicates : List Expr)
end

instance : Inhabited Expr := ⟨.root⟩

/-- The step that the double slash stands for. -/
def Step.everywhere : Step := .mk .descendantOrSelf .any []

/-- Why an expression has no value. -/
inductive Fault where
  | empty
  | unreadable
  | unknownFunction (name : String)
  | unknownVariable (name : String)
  | unknownSpace (space : String)
  | wrongArgumentCount (name : String)
  | nodesExpected
  deriving DecidableEq, Repr

/-- The text of a fault. -/
def Fault.message : Fault → String
  | .empty => "NoXPath"
  | .unreadable => "Parsing(unreadable)"
  | .unknownFunction n => "Executing(UnknownFunction(" ++ n ++ "))"
  | .unknownVariable n => "Executing(UnknownVariable(" ++ n ++ "))"
  | .unknownSpace n => "Executing(UnknownNamespace(" ++ n ++ "))"
  | .wrongArgumentCount n => "Executing(ArgumentCount(" ++ n ++ "))"
  | .nodesExpected => "Executing(NotANodeset)"

end SuiteRunner.XPath
