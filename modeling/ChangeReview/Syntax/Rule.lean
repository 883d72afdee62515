import ChangeReview.Syntax.Place
import Std.Data.HashMap

/-!
# Grammar rules

A grammar gives each of its symbols a rule. A rule reads tokens and builds nodes; of two
alternatives the second is tried only if the first does not match, so that a rule has at most one
reading at a place. Readings of symbols are remembered, which keeps the time in proportion to the
length of the text for any nesting.
-/

namespace ChangeReview.Syntax

/-- What the constructs around a place allow there. -/
structure Setting where
  /-- A statement may end without a semicolon. -/
  ends : Bool
  /-- A binary operator may follow. -/
  operators : Bool
  /-- An arrow function has no result type. -/
  plainArrows : Bool
  deriving DecidableEq, Repr

namespace Setting

/-- The setting in a list of statements. -/
def statements : Setting := ⟨true, true, false⟩

/-- The setting in brackets. -/
def brackets : Setting := ⟨false, true, false⟩

/-- The setting in a list of type members. -/
def members : Setting := ⟨true, false, false⟩

/-- A number for each setting, below eight. -/
def code (s : Setting) : Nat :=
  (if s.ends then 1 else 0) + (if s.operators then 2 else 0) + (if s.plainArrows then 4 else 0)

end Setting

/-- A grammar rule over symbols. -/
inductive Rule (Symbol : Type) where
  /-- Nothing, always. -/
  | empty
  /-- No match. -/
  | fail
  /-- A lexeme after blanks and comments: a named leaf, or a token whose kind is its text. -/
  | token (kind : Option String) (scan : List Char → Option Nat)
  /-- A word that passes a test: a named leaf, or a keyword whose kind is its text. -/
  | spelled (kind : Option String) (test : String → Bool)
  /-- A lexeme that no blank or comment may stand before. -/
  | close (kind : Option String) (scan : List Char → Option Nat)
  /-- Nothing, but comments in the form of markup are comments here. -/
  | settle
  /-- The comments before the next token. -/
  | comments
  /-- What a symbol reads. -/
  | call (symbol : Symbol)
  | seq (first second : Rule Symbol)
  | alt (first second : Rule Symbol)
  /-- A rule as often as it matches. -/
  | many (rule : Rule Symbol)
  /-- A construct. -/
  | node (kind : String) (rule : Rule Symbol)
  /-- A construct that begins with the node read last, in a role. -/
  | grow (kind : String) (left : Option String) (rule : Rule Symbol)
  /-- What a rule reads, in a role. -/
  | role (name : String) (rule : Rule Symbol)
  /-- A test of the node read last. -/
  | last (test : Node → Bool)
  /-- A rule matches here, and nothing is read. -/
  | ahead (rule : Rule Symbol)
  /-- A rule does not match here. -/
  | absent (rule : Rule Symbol)
  /-- A rule, then as often as it matches a second one that goes on where no statement ends. -/
  | chain (base suffix : Rule Symbol)
  /-- A statement ends here without a semicolon. -/
  | ended (body : Bool)
  /-- No statement ends here. -/
  | unbroken
  /-- A rule in another setting. -/
  | under (change : Setting → Setting) (rule : Rule Symbol)
  /-- A test of the setting. -/
  | provided (test : Setting → Bool)

/-- What the symbols of a grammar read. -/
structure Grammar (Symbol : Type) where
  hasTypes : Bool
  /-- A number for each symbol. -/
  index : Symbol → Nat
  /-- More than each number of a symbol. -/
  size : Nat
  /-- The rule of each symbol, by its number. -/
  rules : Array (Rule Symbol)

/-- Readings of symbols: by symbol, setting and place, the nodes, the last first, and the place after
them, or that there is no reading. -/
abbrev Memo := Std.HashMap Nat (Option (List Node × Place))

/-- The outcome of reading. -/
inductive Step where
  /-- The nodes so far, the last first, and the place after them. -/
  | found (nodes : List Node) (place : Place) (memo : Memo)
  | missed (memo : Memo)

namespace Step

/-- The outcome of reading a token, after the nodes so far. -/
def ofRead (read : Option (List Node × Place)) (nodes : List Node) (memo : Memo) : Step :=
  match read with
  | some (more, place) => .found (more ++ nodes) place memo
  | none => .missed memo

/-- Repeat a step as long as it moves on. -/
def repeated (step : List Node → Place → Memo → Step) :
    (fuel : Nat) → List Node → Place → Memo → Step
  | 0, nodes, place, memo => .found nodes place memo
  | fuel + 1, nodes, place, memo =>
    match step nodes place memo with
    | .missed memo => .found nodes place memo
    | .found nodes' place' memo =>
      if place'.point.left < place.point.left then repeated step fuel nodes' place' memo
      else .found nodes place memo

end Step

namespace Rule

variable {Symbol : Type}

/-- Read a rule at a place, with what its symbols read. -/
def read (hasTypes : Bool) (self : Symbol → Setting → Place → Memo → Step) (setting : Setting) :
    Rule Symbol → List Node → Place → Memo → Step
  | empty, nodes, place, memo => .found nodes place memo
  | fail, _, _, memo => .missed memo
  | token kind scan, nodes, place, memo => .ofRead (place.token? kind scan) nodes memo
  | spelled kind test, nodes, place, memo => .ofRead (place.word? kind test) nodes memo
  | close kind scan, nodes, place, memo => .ofRead (place.close? kind scan) nodes memo
  | settle, nodes, place, memo => .found nodes (place.settle (place.point.left + 1)) memo
  | comments, nodes, place, memo =>
    .found (place.comments ++ nodes) (.following [] place.next) memo
  | call symbol, nodes, place, memo =>
    match self symbol setting place memo with
    | .found more place memo => .found (more ++ nodes) place memo
    | .missed memo => .missed memo
  | seq first second, nodes, place, memo =>
    match first.read hasTypes self setting nodes place memo with
    | .found nodes place memo => second.read hasTypes self setting nodes place memo
    | .missed memo => .missed memo
  | alt first second, nodes, place, memo =>
    match first.read hasTypes self setting nodes place memo with
    | .found nodes place memo => .found nodes place memo
    | .missed memo => second.read hasTypes self setting nodes place memo
  | many rule, nodes, place, memo =>
    Step.repeated (fun nodes place memo => rule.read hasTypes self setting nodes place memo)
      (place.point.left + 1) nodes place memo
  | node kind rule, nodes, place, memo =>
    match rule.read hasTypes self setting [] place memo with
    | .found parts next memo =>
      .found (Node.build kind place.next.position parts.reverse ++ nodes) next memo
    | .missed memo => .missed memo
  | grow kind left rule, nodes, place, memo =>
    match nodes with
    | [] => .missed memo
    | head :: nodes =>
      match rule.read hasTypes self setting [] place memo with
      | .found parts place memo =>
        .found (.mk kind true none head.start "" (head.withRole left :: parts.reverse) :: nodes)
          place memo
      | .missed memo => .missed memo
  | role name rule, nodes, place, memo =>
    match rule.read hasTypes self setting [] place memo with
    | .found parts place memo =>
      .found (parts.map (fun n => if n.isComment then n else n.withRole (some name)) ++ nodes)
        place memo
    | .missed memo => .missed memo
  | last test, nodes, place, memo =>
    match nodes with
    | head :: _ => if test head then .found nodes place memo else .missed memo
    | [] => .missed memo
  | ahead rule, nodes, place, memo =>
    match rule.read hasTypes self setting [] place memo with
    | .found _ _ memo => .found nodes place memo
    | .missed memo => .missed memo
  | absent rule, nodes, place, memo =>
    match rule.read hasTypes self setting [] place memo with
    | .found _ _ memo => .missed memo
    | .missed memo => .found nodes place memo
  | chain base suffix, nodes, place, memo =>
    match base.read hasTypes self setting nodes place memo with
    | .missed memo => .missed memo
    | .found nodes place memo =>
      Step.repeated
        (fun nodes place memo =>
          if setting.ends && place.mayEnd hasTypes ⟨setting.operators, false⟩ then .missed memo
          else suffix.read hasTypes self setting nodes place memo)
        (place.point.left + 1) nodes place memo
  | ended body, nodes, place, memo =>
    if place.mayEnd hasTypes ⟨setting.operators, body⟩ then .found nodes place memo
    else .missed memo
  | unbroken, nodes, place, memo =>
    if setting.ends && place.mayEnd hasTypes ⟨setting.operators, false⟩ then .missed memo
    else .found nodes place memo
  | under change rule, nodes, place, memo =>
    rule.read hasTypes self (change setting) nodes place memo
  | provided test, nodes, place, memo =>
    if test setting then .found nodes place memo else .missed memo

end Rule

namespace Grammar

variable {Symbol : Type}

/-- The rule of a symbol. -/
def rule (g : Grammar Symbol) (symbol : Symbol) : Rule Symbol :=
  g.rules[g.index symbol]?.getD .fail

/-- Read a symbol, or recall what it reads. Each level of fuel is one symbol within another. -/
def read (g : Grammar Symbol) :
    (fuel : Nat) → Symbol → Setting → Place → Memo → Step
  | 0, _, _, _, memo => .missed memo
  | fuel + 1, symbol, setting, place, memo =>
    let key := (place.point.left * g.size + g.index symbol) * 8 + setting.code
    match memo[key]? with
    | some (some (nodes, place)) => .found nodes place memo
    | some none => .missed memo
    | none =>
      match (g.rule symbol).read g.hasTypes (g.read fuel) setting [] place memo with
      | .found nodes next memo => .found nodes next (memo.insert key (some (nodes, next)))
      | .missed memo => .missed (memo.insert key none)

/-- The tree of a text that a symbol reads as a whole. A symbol is within another at a place only if
they differ, which bounds the fuel. -/
def tree? (g : Grammar Symbol) (symbol : Symbol) (source : String) : Option Node :=
  match g.read ((source.length + 1) * g.size) symbol .statements (.ofSource source) ∅ with
  | .found nodes place _ => if place.atEnd then nodes.head? else none
  | .missed _ => none

end Grammar

end ChangeReview.Syntax
