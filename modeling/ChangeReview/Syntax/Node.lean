/-!
# Syntax trees

A node has a kind, a role in its parent if its parent tells its children apart, a start position,
and children in source order. Named nodes stand for constructs of the language, the others for its
punctuation and keywords. Tokens and string literals carry their source text.
-/

namespace ChangeReview.Syntax

/-- A position: row and byte column, both from zero. -/
structure Position where
  row : Nat
  column : Nat
  deriving DecidableEq, Repr, Inhabited

inductive Node where
  | mk (kind : String) (named : Bool) (role : Option String) (start : Position) (text : String)
      (children : List Node)
  deriving Repr, Inhabited

namespace Node

def kind : Node → String
  | mk kind _ _ _ _ _ => kind

def named : Node → Bool
  | mk _ named _ _ _ _ => named

/-- What the node is to its parent. -/
def role : Node → Option String
  | mk _ _ role _ _ _ => role

def start : Node → Position
  | mk _ _ _ start _ _ => start

/-- The source text of a token or string literal. -/
def text : Node → String
  | mk _ _ _ _ text _ => text

def children : Node → List Node
  | mk _ _ _ _ _ children => children

/-- The same node in another role. -/
def withRole (role : Option String) : Node → Node
  | mk kind named _ start text children => mk kind named role start text children

/-- The first child in a role. -/
def child? (n : Node) (role : String) : Option Node :=
  n.children.find? fun c => c.role == some role

/-- The children that stand for constructs. -/
def namedChildren (n : Node) : List Node := n.children.filter Node.named

/-- The first child that stands for a construct. -/
def firstNamed? (n : Node) : Option Node := n.children.find? Node.named

mutual

/-- The nodes of a tree, each before its children. -/
def preorder : Node → List Node
  | mk kind named role start text children =>
    mk kind named role start text children :: preorderAll children

/-- The nodes of trees that follow each other. -/
def preorderAll : List Node → List Node
  | [] => []
  | n :: rest => n.preorder ++ preorderAll rest

end

mutual

/-- Number of nodes of a tree. -/
def size : Node → Nat
  | mk _ _ _ _ _ children => 1 + sizeAll children

/-- Number of nodes of trees. -/
def sizeAll : List Node → Nat
  | [] => 0
  | n :: rest => n.size + sizeAll rest

end

theorem sizeAll_append (a b : List Node) : sizeAll (a ++ b) = sizeAll a + sizeAll b := by
  induction a with
  | nil => simp [sizeAll]
  | cons n rest ih => simp [sizeAll, ih, Nat.add_assoc]

theorem preorderAll_append (a b : List Node) :
    preorderAll (a ++ b) = preorderAll a ++ preorderAll b := by
  induction a with
  | nil => rfl
  | cons n rest ih => simp [preorderAll, ih]

theorem preorder_eq (n : Node) : n.preorder = n :: preorderAll n.children := by
  cases n
  rfl

theorem size_eq (n : Node) : n.size = 1 + sizeAll n.children := by
  cases n
  simp [size, children]

end Node

end ChangeReview.Syntax
