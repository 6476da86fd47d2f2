import SuiteRunner.JsonPath.Parser
import SuiteRunner.Json.Value

/-!
  SuiteRunner.JsonPath.Select
  ────────────────────────────────
  **WHAT A PATH FINDS.**

  A query is run on a machine that holds the nodes found so far, a stack of steps that wait for
  their part, and a stack of terms of the filter that is being read.  A path that starts at the
  root inside a filter runs on a machine of its own, which is put on top of the others until its
  term is complete.

  Not every path that can be read has a meaning: a range cannot go on in steps of zero, and a
  comparison needs its two terms.  A path that comes to such a part selects nothing and is refused.
-/

namespace SuiteRunner.JsonPath

/-! ## §1. Nodes. -/

/-- A node of a document: the way to it from the root, last step first, and its value. -/
structure Node where
  way : List Nat
  value : Json
  deriving Repr, Inhabited

namespace Node

/-- The nodes of values that are children, numbered from `i` on. -/
def number (way : List Nat) : Nat → List Json → List Node
  | _, [] => []
  | i, v :: rest => ⟨i :: way, v⟩ :: number way (i + 1) rest

/-- The children of a node. -/
def children (n : Node) : List Node :=
  match n.value with
  | .arr xs => number n.way 0 xs
  | .obj ms => number n.way 0 (ms.map Prod.snd)
  | _ => []

/-- The child under a key. -/
def child? (n : Node) (key : String) : Option Node :=
  match n.value with
  | .obj ms =>
    (ms.findIdx? fun m => m.1 == key).bind fun i => (ms[i]?).map fun m => ⟨i :: n.way, m.2⟩
  | _ => none

/-- Whether a node is an object with a key. -/
def hasKey (n : Node) (key : String) : Bool := (n.child? key).isSome

/-- The child at a position of an array. -/
def item? (n : Node) (i : Nat) : Option Node :=
  match n.value with
  | .arr xs => (xs[i]?).map fun v => ⟨i :: n.way, v⟩
  | _ => none

/-- The number of items of an array. -/
def length? (n : Node) : Option Nat :=
  match n.value with
  | .arr xs => some xs.length
  | _ => none

mutual
/-- A node and all nodes below it, parents first. -/
def walkFrom (way : List Nat) : Json → List Node
  | .arr xs => ⟨way, .arr xs⟩ :: walkItems way 0 xs
  | .obj ms => ⟨way, .obj ms⟩ :: walkMembers way 0 ms
  | v => [⟨way, v⟩]

/-- The nodes of items and all nodes below them. -/
def walkItems (way : List Nat) (i : Nat) : List Json → List Node
  | [] => []
  | v :: rest => walkFrom (i :: way) v ++ walkItems way (i + 1) rest

/-- The nodes of members and all nodes below them. -/
def walkMembers (way : List Nat) (i : Nat) : List (String × Json) → List Node
  | [] => []
  | (_, v) :: rest => walkFrom (i :: way) v ++ walkMembers way (i + 1) rest
end

/-- A node and all nodes below it, parents first. -/
def walk (n : Node) : List Node := walkFrom n.way n.value

mutual
/-- The objects with a key among a node and the nodes below it in arrays. -/
def holdersFrom (key : String) (way : List Nat) : Json → List Node
  | .obj ms => if (Json.lookup? key ms).isSome then [⟨way, .obj ms⟩] else []
  | .arr xs => holderItems key way 0 xs
  | _ => []

/-- The objects with a key among items and what is below them in arrays. -/
def holderItems (key : String) (way : List Nat) (i : Nat) : List Json → List Node
  | [] => []
  | v :: rest => holdersFrom key (i :: way) v ++ holderItems key way (i + 1) rest
end

/-- Whether two nodes are the same place of the document. -/
def sameAs (a b : Node) : Bool := a.way == b.way

/-- Nodes without those that stand earlier in the list. -/
def dedup (ns : List Node) : List Node :=
  ns.foldl (fun acc n => if acc.any (sameAs n) then acc else acc ++ [n]) []

end Node

/-! ## §2. Terms of filters. -/

/-- By what a term was last narrowed. -/
inductive Narrowing where
  | key (name : String)
  | below
  deriving DecidableEq, Repr

/-- A term: a scalar, or nodes with the elements they came from. -/
inductive Term where
  | text (s : String)
  | number (x : Binary64)
  | bool (b : Bool)
  | nodes (elements : Option (List Node)) (narrowing : Option Narrowing) (found : List Node)

/-- The term that the nodes of a path from the root make. -/
def Term.ofNodes (ns : List Node) : Term :=
  match ns with
  | [n] =>
    match n.value with
    | .num x => .number x.toDouble
    | .str s => .text s
    | .bool b => .bool b
    | _ => .nodes none none ns
  | _ => .nodes none none ns

namespace Operator

/-- What a comparison of things that cannot be compared says. -/
def unlike (op : Operator) : Bool := op == .notEqual

/-- The operator with its sides exchanged. -/
def swap : Operator → Operator
  | .less => .greater
  | .lessEq => .greaterEq
  | .greater => .less
  | .greaterEq => .lessEq
  | op => op

/-- What an order says about the comparisons; without an order only inequality holds. -/
def ofOrdering (op : Operator) (o : Option Ordering) : Bool :=
  match op with
  | .equal => o == some .eq
  | .notEqual => o != some .eq
  | .less => o == some .lt
  | .lessEq => o == some .lt || o == some .eq
  | .greater => o == some .gt
  | .greaterEq => o == some .gt || o == some .eq
  | _ => false

/-- Texts; for `&&` and `||` the empty text is false. -/
def texts (op : Operator) (a b : String) : Bool :=
  match op with
  | .and_ => !a.isEmpty && !b.isEmpty
  | .or_ => !a.isEmpty || !b.isEmpty
  | op => op.ofOrdering (some (Ord.compare a b))

/-- Numbers; for `&&` and `||` only positive numbers are true. -/
def numbers (op : Operator) (a b : Binary64) : Bool :=
  let positive (x : Binary64) : Bool := (Binary64.zero false).less x
  match op with
  | .and_ => positive a && positive b
  | .or_ => positive a || positive b
  | op => op.ofOrdering (Binary64.compare? a b)

/-- Truth values. -/
def bools (op : Operator) (a b : Bool) : Bool :=
  match op with
  | .and_ => a && b
  | .or_ => a || b
  | op => op.ofOrdering (some (Ord.compare a b))

/-- Remove from the first list one node for each equal one of the second. -/
def removeEach (left right : List Node) : List Node :=
  right.foldl (fun ns r => ns.eraseP fun n => n.value.same r.value) left

/-- Nodes against nodes. -/
def nodes (op : Operator) (left right : List Node) : List Node :=
  match op with
  | .equal | .and_ => left.flatMap fun n => (right.filter fun m => n.value.same m.value).map fun _ => n
  | .notEqual => removeEach left right
  | .or_ => left ++ right
  | _ => []

/-- A node against a scalar: the node's own value, or its member under the narrowing key. -/
def nodeScalar (op : Operator) (narrowing : Option Narrowing) (n : Node) (other : Term) : Bool :=
  let fits (v : Json) : Option Bool :=
    match v, other with
    | .str s, .text t => some (op.texts s t)
    | .num x, .number y => some (op.numbers x.toDouble y)
    | .bool a, .bool b => some (op.bools a b)
    | _, _ => none
  match fits n.value with
  | some b => b
  | none =>
    match n.value, narrowing with
    | .obj ms, some (.key k) => ((Json.lookup? k ms).bind fits).getD op.unlike
    | _, _ => op.unlike

end Operator

/-- The term that is left of nodes after a comparison kept `kept` of them. -/
def Term.afterTest (op : Operator) (elements : Option (List Node)) (otherNodes : Bool)
    (kept : List Node) : Term :=
  if kept.isEmpty then .bool op.unlike
  else match elements with
    | none => .nodes none none kept
    | some es =>
      if otherNodes then .nodes (some es) none kept
      else
        let isKept (e : Node) : Bool := kept.any e.sameAs
        .nodes (some (es.flatMap fun e =>
          match e.value with
          | .obj _ => (e.children.filter isKept).map fun _ => e
          | _ => [])) none kept

/-- A term on nodes against another term. -/
def Term.testNodes (op : Operator) (elements : Option (List Node))
    (narrowing : Option Narrowing) (found : List Node) (other : Term) : Term :=
  match other with
  | .nodes others _ found' =>
    .afterTest op elements true (op.nodes (elements.getD found) (others.getD found'))
  | scalar =>
    .afterTest op elements false (found.filter fun n => op.nodeScalar narrowing n scalar)

/-- A comparison or a combination of two terms. -/
def Term.test (op : Operator) (left right : Term) : Term :=
  match left, right with
  | .nodes es k found, other => .testNodes op es k found other
  | scalar, .nodes es k found => .testNodes op.swap es k found scalar
  | .text a, .text b => .bool (op.texts a b)
  | .number a, .number b => .bool (op.numbers a b)
  | .bool a, .bool b => .bool (op.bools a b)
  | _, _ => .bool op.unlike

/-! ## §3. The machine. -/

/-- A step that waits for its part. -/
inductive Waiting where
  | child
  | descend
  | bracket
  deriving DecidableEq, Repr

/-- A machine: the nodes found so far, the steps that wait and the terms, both with the latest
first.  A missing term stands for the elements under test. -/
structure Machine where
  current : Option (List Node)
  waiting : List Waiting
  terms : List (Option Term)

namespace Machine

/-- A machine that has found nothing yet. -/
def start : Machine := ⟨none, [], []⟩

/-- A machine at the root. -/
def atRoot (doc : Json) : Machine := ⟨some [⟨[], doc⟩], [], []⟩

/-- The nodes found so far. -/
def found (m : Machine) : List Node := m.current.getD []

/-- Go on to other nodes. -/
def goTo (m : Machine) (f : List Node → List Node) : Machine := { m with current := m.current.map f }

/-- Go on to other nodes; when there are none the last term is dropped. -/
def goToOrDrop (m : Machine) (f : List Node → List Node) : Machine :=
  match m.current with
  | none => m
  | some ns =>
    let next := f ns
    { m with current := some next, terms := if next.isEmpty then m.terms.drop 1 else m.terms }

/-- Put a term on top. -/
def push (m : Machine) (t : Option Term) : Machine := { m with terms := t :: m.terms }

/-- The children under keys. -/
def childrenUnder (keys : List String) (ns : List Node) : List Node :=
  ns.flatMap fun n => keys.filterMap n.child?

/-- All nodes below. -/
def allBelow (ns : List Node) : List Node := ns.flatMap fun n => n.walk.flatMap Node.children

/-- All children. -/
def allChildren (ns : List Node) : List Node := ns.flatMap Node.children

/-- A position of an array; from the end if it is negative, and never outside by more than one. -/
def absolute (i : Int) (length : Nat) : Nat :=
  if i < 0 then (i + length).toNat else min i.toNat length

/-- The items at a position, of arrays and of the arrays that are members of objects. -/
def itemsAt (i : Int) (ns : List Node) : List Node :=
  ns.flatMap fun n =>
    let item (a : Node) : List Node :=
      match a.length? with
      | some len => (a.item? (absolute i len)).toList
      | none => []
    match n.value with
    | .obj _ => n.children.flatMap item
    | _ => item n

/-- The children under a key of all nodes and the nodes below them. -/
def childrenBelow (key : String) (ns : List Node) : List Node :=
  ns.flatMap fun n => n.walk.filterMap fun d => d.child? key

/-- The items at a position of all nodes and the nodes below them. -/
def itemsBelow (i : Nat) (ns : List Node) : List Node :=
  ns.flatMap fun n => n.walk.filterMap fun d => d.item? i

/-- The integer that a number in brackets stands for. -/
def position (x : Binary64) : Int := x.trunc?.getD 0

/-- Every `step`-th of the numbers from `lo` on, below `hi`; there are no steps of zero. -/
def stepsBetween (lo hi step : Nat) : Option (List Nat) :=
  if step = 0 then none
  else some ((List.range (hi - lo)).filterMap fun i => if i % step = 0 then some (lo + i) else none)

/-- The items of a range of positions of an array. -/
def itemsOf (start stop : Option Int) (step : Option Nat) (n : Node) : Option (List Node) :=
  match n.length? with
  | none => some []
  | some len =>
    let lo := match start with
      | some i => absolute i len
      | none => 0
    let hi := match stop with
      | some i => absolute i len
      | none => len
    (stepsBetween lo hi (step.getD 1)).map fun is => is.filterMap n.item?

/-- The items of a range of positions. -/
def itemsBetween (start stop : Option Int) (step : Option Nat) (ns : List Node) :
    Option (List Node) :=
  (ns.mapM (itemsOf start stop step)).map List.flatten

/-- The items at several positions. -/
def itemsAmong (positions : List Int) (ns : List Node) : List Node :=
  ns.flatMap fun n =>
    match n.length? with
    | none => []
    | some len => positions.filterMap fun i => n.item? (absolute i len)

/-! ### Narrowing a term. -/

/-- The objects with a key, where arrays stand for what is in them; and which of the nodes are
objects with the key themselves. -/
def narrowToKey (key : String) (ns : List Node) : List Node × List Bool :=
  (Node.dedup (ns.flatMap fun n =>
      match n.value with
      | .obj _ => if n.hasKey key then [n] else []
      | .arr xs => Node.holderItems key n.way 0 xs
      | _ => []),
    ns.map fun n => n.hasKey key)

/-- The objects with a key among the nodes and all nodes below them. -/
def narrowBelow (key : String) (ns : List Node) : List Node × List Bool :=
  (ns.flatMap fun n => n.walk.filter fun d => d.hasKey key, ns.map fun _ => true)

/-- Narrow the last term, or the elements under test if they are the last term. -/
def narrow (m : Machine) (how : List Node → List Node × List Bool) (narrowing : Narrowing) :
    Machine :=
  match m.terms with
  | none :: rest =>
    match m.current with
    | some ns => { m with terms := some (.nodes none (some narrowing) (how ns).1) :: rest }
    | none => { m with terms := rest }
  | some (.nodes elements before found) :: rest =>
    let inner := match before with
      | some (.key k) => found.map fun n => (n.child? k).getD n
      | _ => found
    let (next, matched) := how inner
    let kept := match elements with
      | some es => es
      | none => (found.zip matched).filterMap fun (n, ok) => if ok then some n else none
    { m with terms := some (.nodes (some kept) (some narrowing) next) :: rest }
  | some scalar :: rest => { m with terms := some scalar :: rest }
  | [] => m

/-! ### Parts. -/

/-- A key. -/
def key (m : Machine) (name : String) : Machine :=
  match m.waiting with
  | .bracket :: _ => m.push (some (.text name))
  | [] => m
  | step :: rest =>
    let m := { m with waiting := rest }
    match m.terms, step with
    | [], .descend => m.goTo (childrenBelow name)
    | [], _ => m.goToOrDrop (childrenUnder [name])
    | _, .descend => m.narrow (narrowBelow name) .below
    | _, _ => m.narrow (narrowToKey name) (.key name)

/-- All children. -/
def all (m : Machine) : Machine :=
  let m := match m.waiting with
    | .bracket :: rest => { m with waiting := rest }
    | _ => m
  match m.waiting with
  | .descend :: rest => { m with waiting := rest }.goTo allBelow
  | .child :: rest => { m with waiting := rest }.goTo allChildren
  | _ => m.goTo allChildren

/-- A part in brackets that is not a term. -/
def inBrackets (m : Machine) (f : List Node → List Node) : Machine :=
  { m with waiting := m.waiting.drop 1 }.goTo f

/-- A range in brackets, which has to have a meaning. -/
def rangeInBrackets (m : Machine) (start stop : Option Int) (step : Option Nat) : Option Machine :=
  let m := { m with waiting := m.waiting.drop 1 }
  match m.current with
  | none => some m
  | some ns => (itemsBetween start stop step ns).map fun next => { m with current := some next }

/-- The element under test begins. -/
def element (m : Machine) : Machine :=
  let m := match m.waiting with
    | .bracket :: .descend :: rest => { m with waiting := .bracket :: rest }.goTo allBelow
    | _ => m
  m.push none

/-- The last term says what to go on with. -/
def useTerm (m : Machine) : Machine :=
  match m.terms with
  | [] => m
  | t :: terms =>
    let m := { m with terms := terms }
    match t with
    | none => m
    | some (.number x) => m.goToOrDrop (itemsAt (position x))
    | some (.text k) => m.goToOrDrop (childrenUnder [k])
    | some (.nodes elements _ found) =>
      { m with current := some (if found.isEmpty then [] else elements.getD found) }
    | some (.bool false) => { m with current := some [] }
    | some (.bool true) => m

/-- The terms without a missing one on top. -/
def dropMissing : List (Option Term) → List (Option Term)
  | none :: rest => rest
  | terms => terms

/-- The closing bracket.  Inside a filter a text narrows the term before it; after two dots a
number or a text is looked for everywhere below; else the last term decides. -/
def closeBracket (m : Machine) : Machine :=
  match m.waiting, m.terms with
  | _ :: .bracket :: rest, some (.text k) :: terms =>
    { m with waiting := .bracket :: rest, terms := terms }.narrow (narrowToKey k) (.key k)
  | _ :: .bracket :: rest, terms =>
    let m := { m with terms := dropMissing terms }.useTerm
    { m with waiting := .bracket :: rest }
  | _ :: .descend :: rest, some (.number x) :: terms =>
    { m with waiting := rest, terms := terms }.goTo (itemsBelow (position x).toNat)
  | _ :: .descend :: rest, some (.text k) :: terms =>
    { m with waiting := rest, terms := terms }.goTo (childrenBelow k)
  | _ :: .descend :: rest, terms =>
    let m := { m with terms := dropMissing terms }.useTerm
    { m with waiting := rest.drop 1 }
  | waiting, _ =>
    let m := m.useTerm
    { m with waiting := waiting.drop 1 }

/-- A term off the stack; a missing one stands for the nodes found so far. -/
def termOr (m : Machine) (t : Option Term) : Option Term :=
  t.orElse fun _ => m.current.map fun ns => .nodes none none ns

/-- A comparison or a combination of the last two terms, which have to be there. -/
def test (m : Machine) (op : Operator) : Option Machine :=
  match m.terms with
  | right :: left :: rest => do
    let right ← m.termOr right
    let left ← m.termOr left
    return { m with terms := some (Term.test op left right) :: rest }
  | _ => none

end Machine

/-! ## §4. Running a query. -/

/-- The machines at work, the latest first; there is always one. -/
structure Machines where
  top : Machine
  below : List Machine

namespace Machines

/-- Work on the latest machine. -/
def onTop (ms : Machines) (f : Machine → Machine) : Machines := { ms with top := f ms.top }

/-- Do on the latest machine what may have no meaning there. -/
def onTop? (ms : Machines) (f : Machine → Option Machine) : Option Machines :=
  (f ms.top).map fun top => { ms with top }

/-- A path from the root begins. -/
def root (doc : Json) (ms : Machines) : Machines :=
  match ms.top.current with
  | none => ms.onTop fun m => { m with current := some [⟨[], doc⟩] }
  | some _ => ⟨Machine.atRoot doc, ms.top :: ms.below⟩

/-- A term is complete: a machine of its own gives its nodes to the one below. -/
def endTerm (ms : Machines) : Machines :=
  match ms.below with
  | [] => ms
  | m :: rest => ⟨m.push (some (Term.ofNodes ms.top.found)), rest⟩

end Machines

/-- Run a query, unless a part of it has no meaning. -/
def run (doc : Json) : Query → Machines → Option Machines
  | .root, ms => some (ms.root doc)
  | .element, ms => some (ms.onTop Machine.element)
  | .all, ms => some (ms.onTop Machine.all)
  | .key k, ms => some (ms.onTop fun m => m.key k)
  | .keys ks, ms => some (ms.onTop fun m => m.inBrackets (Machine.childrenUnder ks))
  | .number x, ms => some (ms.onTop fun m => m.push (some (.number x)))
  | .bool b, ms => some (ms.onTop fun m => m.push (some (.bool b)))
  | .range a b s, ms => ms.onTop? fun m => m.rangeInBrackets a b s
  | .positions ns, ms => some (ms.onTop fun m => m.inBrackets (Machine.itemsAmong ns))
  | .child before part, ms => do
    let ms ← run doc before ms
    run doc part (ms.onTop fun m => { m with waiting := .child :: m.waiting })
  | .descend before part, ms => do
    let ms ← run doc before ms
    let ms := ms.onTop fun m => { m with waiting := .descend :: m.waiting }
    match part with
    | some q => run doc q ms
    | none => some ms
  | .bracket before part, ms => do
    let ms ← run doc before ms
    let ms ← run doc part (ms.onTop fun m => { m with waiting := .bracket :: m.waiting })
    return ms.onTop Machine.closeBracket
  | .test op left right, ms => do
    let ms ← run doc left ms
    let ms ← run doc right ms.endTerm
    ms.endTerm.onTop? fun m => m.test op

/-- The nodes that a query finds in a document. -/
def Query.nodes? (q : Query) (doc : Json) : Option (List Node) :=
  (run doc q ⟨Machine.start, []⟩).map fun ms => ms.top.found

/-- **What a path selects:** nothing, the one value found, or an array of all values found. -/
def select (doc : Json) (path : String) : Except String (Option Json) :=
  match (parse? path).bind fun q => q.nodes? doc with
  | none => .error ("invalid JSONPath '" ++ path ++ "': path error")
  | some ns =>
    match ns.map Node.value with
    | [] => .ok none
    | [v] => .ok (some v)
    | vs => .ok (some (.arr vs))

end SuiteRunner.JsonPath
