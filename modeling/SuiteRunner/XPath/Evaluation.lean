import SuiteRunner.XPath.Function
import SuiteRunner.XPath.Parser

/-!
  SuiteRunner.XPath.Evaluation
  ────────────────────────────────
  **THE VALUE OF AN EXPRESSION AT A NODE.**

  An axis lists its nodes from the near to the far, and that is the order in which the predicates
  of a step count them; a set that results from a path is in document order again.  The connectives
  look at their second operand only if the first leaves the answer open.
-/

namespace SuiteRunner.XPath

open Xml (Document)

/-! ## §1. Axes and tests. -/

/-- The children of the parent, the node among them; none for an attribute. -/
def brothers (d : Document) (i : Nat) : List Nat :=
  match d.parent? i with
  | some p => if d.isAttribute i then [] else d.children p
  | none => []

/-- The nodes of an axis, the nearest first. -/
def Axis.places (d : Document) (i : Nat) : Axis → List Nat
  | .child => d.children i
  | .descendant => d.descendants i
  | .parent => (d.parent? i).toList
  | .ancestor => d.ancestors i
  | .followingSibling => (brothers d i).filter (i < ·)
  | .precedingSibling => ((brothers d i).filter (· < i)).reverse
  | .following => d.content.filter fun j => i < j && !(d.ancestors j).contains i
  | .preceding => (d.content.filter fun j => j < i && !(d.ancestors i).contains j).reverse
  | .attribute => d.attributes i
  | .declared => []
  | .self => [i]
  | .descendantOrSelf => i :: d.descendants i
  | .ancestorOrSelf => i :: d.ancestors i

/-- Whether a name passes a test of names; no prefix stands for a name space. -/
def namePasses (localPart? : Option String) (name : Xml.Name) (uri : Option String) : Bool :=
  match localPart? with
  | none => true
  | some l => l == name.localPart && uri.isNone

/-- Whether a node on an axis passes a test; names are those of attributes on their axis and those
of elements on all others. -/
def NodeTest.passes (d : Document) (axis : Axis) (i : Nat) : NodeTest → Bool
  | .any => true
  | .text =>
    match d.kind i with
    | .text _ => true
    | _ => false
  | .comment =>
    match d.kind i with
    | .comment _ => true
    | _ => false
  | .instruction target =>
    match d.kind i with
    | .instruction t _ => target.isNone || target == some t
    | _ => false
  | .name _ l =>
    match d.kind i with
    | .element n u => axis != .attribute && namePasses l n u
    | .attribute n u _ => axis == .attribute && namePasses l n u
    | _ => false

/-- The prefix of a test of names, which must stand for something. -/
def NodeTest.checkSpace : NodeTest → Except Fault Unit
  | .name (some p) _ => .error (.unknownSpace p)
  | _ => .ok ()

/-- Places in document order, each once. -/
def documentOrder (places : List Nat) : List Nat :=
  (places.mergeSort (fun a b => decide (a ≤ b))).eraseReps

/-! ## §2. Operators. -/

/-- The value of an operator on two values, the connectives apart. -/
def applyOperator (d : Document) (op : Operator) (a b : Value) : Except Fault Value :=
  let x := a.toNumber d
  let y := b.toNumber d
  match op with
  | .or_ => .ok (.truth (a.toTruth || b.toTruth))
  | .and_ => .ok (.truth (a.toTruth && b.toTruth))
  | .equal => .ok (.truth (a.equal d b))
  | .notEqual => .ok (.truth !(a.equal d b))
  | .less => .ok (.truth (x.less y))
  | .lessEq => .ok (.truth (x.lessEq y))
  | .greater => .ok (.truth (y.less x))
  | .greaterEq => .ok (.truth (y.lessEq x))
  | .plus => .ok (.number (x.add y))
  | .minus => .ok (.number (x.sub y))
  | .times => .ok (.number (x.mul y))
  | .quotient => .ok (.number (x.div y))
  | .remainder => .ok (.number (x.rem y))
  | .union => do
    let is ← nodesOf a
    let js ← nodesOf b
    return .nodes (documentOrder (is ++ js))

/-- Whether a predicate with a value keeps the node at a position. -/
def keeps (position : Nat) : Value → Bool
  | .number x => x.equal (.ofInt position)
  | v => v.toTruth

/-- The nodes of a list that a predicate keeps. -/
def keepNodes (predicate : Context → Except Fault Value) (is : List Nat) :
    Except Fault (List Nat) := do
  let kept ← is.zipIdx.filterMapM fun (i, k) => do
    let v ← predicate ⟨i, k + 1, is.length⟩
    return if keeps (k + 1) v then some i else none
  return kept

/-! ## §3. Expressions. -/

mutual
/-- The value of an expression. -/
def evaluate (d : Document) : Expr → Context → Except Fault Value
  | .number x, _ => .ok (.number x)
  | .literal s, _ => .ok (.text s)
  | .variable_ n, _ => .error (.unknownVariable n)
  | .root, _ => .ok (.nodes [Document.root])
  | .current, c => .ok (.nodes [c.node])
  | .negate e, c => do
    let v ← evaluate d e c
    return .number (v.toNumber d).neg
  | .binary op l r, c => do
    let a ← evaluate d l c
    if op = .or_ ∧ a.toTruth then return .truth true
    else if op = .and_ ∧ !a.toTruth then return .truth false
    else applyOperator d op a (← evaluate d r c)
  | .call f args, c => do
    let vs ← evaluateAll d args c
    applyFunction d c f vs
  | .filter e p, c => do
    let is ← nodesOf (← evaluate d e c)
    let kept ← keepNodes (fun c => evaluate d p c) is
    return .nodes kept
  | .path e steps, c => do
    let is ← nodesOf (← evaluate d e c)
    let js ← takeSteps d steps is
    return .nodes js

/-- The values of arguments, from the left. -/
def evaluateAll (d : Document) : List Expr → Context → Except Fault (List Value)
  | [], _ => .ok []
  | e :: rest, c => do
    let v ← evaluate d e c
    let vs ← evaluateAll d rest c
    return v :: vs

/-- The nodes that steps lead to from given ones. -/
def takeSteps (d : Document) : List Step → List Nat → Except Fault (List Nat)
  | [], is => .ok is
  | s :: rest, is => do
    let reached ← is.mapM fun i => takeStep d s i
    takeSteps d rest (documentOrder reached.flatten)

/-- The nodes that one step leads to from one node, the nearest first. -/
def takeStep (d : Document) : Step → Nat → Except Fault (List Nat)
  | .mk axis test ps, i => do
    test.checkSpace
    keepAll d ps ((axis.places d i).filter fun j => test.passes d axis j)

/-- The nodes that predicates keep, one predicate after another. -/
def keepAll (d : Document) : List Expr → List Nat → Except Fault (List Nat)
  | [], is => .ok is
  | p :: rest, is => do
    let kept ← keepNodes (fun c => evaluate d p c) is
    keepAll d rest kept
end

/-- **The text that an expression has for a document:** that of the first node of a set, or of the
value; nothing for a set without nodes. -/
def textAt? (d : Document) (expression : String) : Except Fault (Option String) := do
  let e ← Expr.ofText expression
  let v ← evaluate d e ⟨Document.root, 1, 1⟩
  return v.result? d

end SuiteRunner.XPath
