import SuiteRunner.Xml.Token

/-!
  SuiteRunner.Xml.Document
  ────────────────────────────────
  **DOCUMENTS AS NUMBERED NODES.**

  The nodes of a document are listed in document order: the root first, an element before its
  attributes, these before its content.  A node is known by its place in the list, and its parent
  stands before it.  Reading a document is one pass over its tokens with a stack of the elements
  that are open.
-/

namespace SuiteRunner.Xml

/-- What a node is.  The name space of a name is the one its prefix stands for. -/
inductive NodeKind where
  | root
  | element (name : Name) (uri : Option String)
  | attribute (name : Name) (uri : Option String) (value : String)
  | text (value : String)
  | comment (value : String)
  | instruction (target : String) (value : String)
  deriving DecidableEq, Repr, Inhabited

/-- A node and the place of its parent. -/
structure Node where
  kind : NodeKind
  parent : Option Nat
  deriving DecidableEq, Repr, Inhabited

/-- The nodes in document order. -/
structure Document where
  nodes : Array Node
  deriving Repr, Inhabited

/-! ## §1. Name spaces. -/

/-- The name spaces in scope: what prefixes stand for, and what no prefix stands for. -/
structure SpaceScope where
  prefixes : List (String × String)
  default : Option String
  deriving DecidableEq, Repr

namespace SpaceScope

/-- The prefixes that are always there. -/
def initial : SpaceScope := ⟨[("xml", "http://www.w3.org/XML/1998/namespace")], none⟩

/-- Whether an attribute declares a name space. -/
def isDeclaration (name : Name) : Bool :=
  match name.space? with
  | some p => p == "xmlns"
  | none => name.localPart == "xmlns"

/-- The scope inside an element with certain attributes. -/
def enter (s : SpaceScope) : List (Name × String) → Option SpaceScope
  | [] => some s
  | (name, value) :: rest =>
    if isDeclaration name then
      match name.space? with
      | none => enter { s with default := if value.isEmpty then none else some value } rest
      | some _ =>
        if value.isEmpty then none
        else enter { s with prefixes := (name.localPart, value) :: s.prefixes } rest
    else enter s rest

/-- What the prefix of a name stands for; `fallback` is for names without one. -/
def resolve? (s : SpaceScope) (fallback : Option String) (name : Name) : Option (Option String) :=
  match name.space? with
  | none => some fallback
  | some p => (s.prefixes.lookup p).map some

end SpaceScope

/-! ## §2. Reading. -/

/-- An element that is open: its place, its name and the scope inside it. -/
structure OpenElement where
  place : Nat
  name : Name
  scope : SpaceScope

/-- A document being read. -/
structure Draft where
  nodes : Array Node
  openElements : List OpenElement
  typeSeen : Bool
  elementSeen : Bool

namespace Draft

/-- The document before its first token. -/
def start : Draft := ⟨#[⟨.root, none⟩], [], false, false⟩

/-- The place of the node that takes what is read next. -/
def holder (d : Draft) : Nat := (d.openElements.head?.map OpenElement.place).getD 0

/-- The scope in which the next tag is read. -/
def scope (d : Draft) : SpaceScope := (d.openElements.head?.map OpenElement.scope).getD .initial

/-- Append a node. -/
def append (d : Draft) (kind : NodeKind) : Draft :=
  { d with nodes := d.nodes.push ⟨kind, some d.holder⟩ }

/-- The attribute nodes of an element, those that declare name spaces left out. -/
def attributeNodes? (place : Nat) (s : SpaceScope) (as_ : List (Name × String)) :
    Option (List Node) :=
  (as_.filter fun a => !SpaceScope.isDeclaration a.1).mapM fun (name, value) =>
    (s.resolve? none name).map fun uri => ⟨.attribute name uri value, some place⟩

/-- Whether no attribute is given twice. -/
def allDistinct (as_ : List (Name × String)) : Bool := decide (as_.map Prod.fst).Nodup

/-- Read an opening tag. -/
def openTag? (d : Draft) (name : Name) (as_ : List (Name × String)) (closed : Bool) :
    Option Draft := do
  if d.openElements.isEmpty && d.elementSeen then none
  else if !allDistinct as_ then none
  else
    let s ← d.scope.enter as_
    let uri ← s.resolve? s.default name
    let place := d.nodes.size
    let attributes ← attributeNodes? place s as_
    some { d with
      nodes := (d.nodes.push ⟨.element name uri, some d.holder⟩) ++ attributes.toArray
      openElements := if closed then d.openElements else ⟨place, name, s⟩ :: d.openElements
      elementSeen := true }

/-- Read one token. -/
def step? (d : Draft) : Token → Option Draft
  | .openTag name as_ closed => d.openTag? name as_ closed
  | .closeTag name =>
    match d.openElements with
    | e :: rest => if e.name = name then some { d with openElements := rest } else none
    | [] => none
  | .chars text =>
    if d.openElements.isEmpty then
      if text.toList.all isSpace then some d else none
    else some (d.append (.text text))
  | .quotedChars text => if d.openElements.isEmpty then none else some (d.append (.text text))
  | .comment text => some (d.append (.comment text))
  | .instruction target value => some (d.append (.instruction target value))
  | .documentType =>
    if d.openElements.isEmpty && !d.elementSeen && !d.typeSeen then some { d with typeSeen := true }
    else none

/-- The document, if all elements are closed and there was one. -/
def finish? (d : Draft) : Option Document :=
  if d.openElements.isEmpty && d.elementSeen then some ⟨d.nodes⟩ else none

end Draft

/-- **The document that a text stands for,** if it is well-formed. -/
def Document.ofText? (text : String) : Option Document := do
  let tokens ← Token.ofText? text
  let d ← tokens.foldlM Draft.step? Draft.start
  d.finish?

/-! ## §3. Looking at nodes. -/

namespace Document

/-- The place of the root. -/
def root : Nat := 0

/-- The node at a place. -/
def node (d : Document) (i : Nat) : Node := d.nodes[i]?.getD ⟨.root, none⟩

/-- What the node at a place is. -/
def kind (d : Document) (i : Nat) : NodeKind := (d.node i).kind

/-- The place of the parent. -/
def parent? (d : Document) (i : Nat) : Option Nat := (d.node i).parent

/-- The first `fuel` ancestors, the nearest first. -/
def ancestorsWithin (d : Document) : Nat → Nat → List Nat
  | 0, _ => []
  | fuel + 1, i =>
    match d.parent? i with
    | none => []
    | some p => p :: ancestorsWithin d fuel p

/-- The ancestors, the nearest first; a node at place `i` has at most `i` of them. -/
def ancestors (d : Document) (i : Nat) : List Nat := d.ancestorsWithin i i

/-- Whether the node at a place is an attribute. -/
def isAttribute (d : Document) (i : Nat) : Bool :=
  match d.kind i with
  | .attribute _ _ _ => true
  | _ => false

/-- All places but those of attributes, in document order. -/
def content (d : Document) : List Nat :=
  (List.range d.nodes.size).filter fun j => !d.isAttribute j

/-- The children in document order. -/
def children (d : Document) (i : Nat) : List Nat := d.content.filter fun j => d.parent? j == some i

/-- The attributes of an element in document order. -/
def attributes (d : Document) (i : Nat) : List Nat :=
  (List.range d.nodes.size).filter fun j => d.isAttribute j && d.parent? j == some i

/-- The descendants in document order. -/
def descendants (d : Document) (i : Nat) : List Nat :=
  d.content.filter fun j => (d.ancestors j).contains i

/-- The text of a text node. -/
def ownText (d : Document) (i : Nat) : String :=
  match d.kind i with
  | .text s => s
  | _ => ""

/-- **The text value of a node:** that of the text inside an element or the root, and the value of
any other node. -/
def textValue (d : Document) (i : Nat) : String :=
  match d.kind i with
  | .attribute _ _ s | .text s | .comment s | .instruction _ s => s
  | _ => String.join ((d.descendants i).map d.ownText)

end Document

end SuiteRunner.Xml
