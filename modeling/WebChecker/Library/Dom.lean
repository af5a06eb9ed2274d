import Mathlib.Data.List.Basic

/-!
# Document trees

A document as a tree of elements and strings, with the queries that a reader of documents makes: the
elements below an element in document order, its children, its strings, and what follows an element
among its siblings.

Not every string of a document is text to be read.  A comment is not, and what stands in a script is
text of the script alone, so every string carries its kind.
-/

/-- The kinds of strings. -/
inductive TextKind where
  | content
  /-- The text of an element that holds something other than content. -/
  | heldBy (container : String)
  /-- A comment or a declaration. -/
  | markup
deriving DecidableEq, Repr

/-- A node of a document. -/
inductive DomNode where
  | text (kind : TextKind) (s : String)
  | element (name : String) (attributes : List (String × String)) (children : List DomNode)

namespace DomNode

/-- The name of an element; a string has none. -/
def name : DomNode → Option String
  | text .. => none
  | element name _ _ => some name

def children : DomNode → List DomNode
  | text .. => []
  | element _ _ children => children

/-- The value of an attribute. -/
def get (key : String) : DomNode → Option String
  | text .. => none
  | element _ attributes _ => attributes.lookup key

/-! ## Elements -/

mutual

/-- The element itself and the elements below it, in document order. -/
def elements : DomNode → List DomNode
  | text .. => []
  | element name attributes children =>
    element name attributes children :: elementsOf children

def elementsOf : List DomNode → List DomNode
  | [] => []
  | node :: nodes => node.elements ++ elementsOf nodes

end

/-- The elements below a node, in document order. -/
def descendants (node : DomNode) : List DomNode := elementsOf node.children

/-- The elements of a name below a node. -/
def findAll (name : String) (node : DomNode) : List DomNode :=
  node.descendants.filter fun n => n.name = some name

/-- The children of a node that are elements of one of the names. -/
def findChildren (names : List String) (node : DomNode) : List DomNode :=
  node.children.filter fun n => n.name.any (· ∈ names)

mutual

/-- The elements of a name below a node, each with the siblings after it. -/
def followed (name : String) : DomNode → List (DomNode × List DomNode)
  | text .. => []
  | element _ _ children => followedOf name children

def followedOf (name : String) : List DomNode → List (DomNode × List DomNode)
  | [] => []
  | node :: nodes =>
    (if node.name = some name then [(node, nodes)] else []) ++ node.followed name ++
      followedOf name nodes

end

/-! ## Strings -/

mutual

/-- The strings in a node with their kinds, in document order. -/
def strings : DomNode → List (TextKind × String)
  | text kind s => [(kind, s)]
  | element _ _ children => stringsOf children

def stringsOf : List DomNode → List (TextKind × String)
  | [] => []
  | node :: nodes => node.strings ++ stringsOf nodes

end

/-- The kind of strings a node is read for: its own, if it is one of the containers. -/
def textKind (containers : List String) (node : DomNode) : TextKind :=
  match node.name with
  | some name => if name ∈ containers then .heldBy name else .content
  | none => .content

/-- The strings of a node that are text to a reader of the node. -/
def texts (containers : List String) (node : DomNode) : List String :=
  (node.strings.filter fun s => s.1 = node.textKind containers).map Prod.snd

end DomNode
