import ChangeReview.Syntax.Dialect
import ChangeReview.Syntax.Rule

/-!
# The vocabulary of the grammars

The symbols of the grammars, and rules for tokens, words, names and lists that all parts share. A
word is a keyword only where the grammar asks for it, and a name everywhere else.
-/

namespace ChangeReview.Syntax

namespace Dialect

/-- Type annotations are part of the dialect. -/
def hasTypes (d : Dialect) : Bool := d != .javaScript

/-- Markup is part of the dialect. -/
def hasMarkup (d : Dialect) : Bool := d != .typeScript

end Dialect

/-- What is read as a unit, each with its own rule. -/
inductive Symbol where
  | program
  | statement
  | block
  | declaration
  | declarator
  | expressions
  | expression
  | disjunction
  | conjunction
  | bitOr
  | bitXor
  | bitAnd
  | equality
  | relation
  | shift
  | sum
  | product
  | power
  | awaited
  | operand
  | access
  | primary
  | constructed
  | newExpression
  | arrow
  | parenthesized
  | arguments
  | templateString
  | array
  | object
  | functionValue
  | classValue
  | classBody
  | decorator
  | method
  | propertyName
  | pattern
  | element
  | destructuring
  | parameters
  | parameter
  | signature
  | markup
  | tagHead
  | type
  | typePart
  | typeArguments
  | typeParameters
  | objectType
  | typeMember
  deriving DecidableEq, Repr

namespace Symbol

/-- The symbols, by number. -/
def all : List Symbol :=
  [program, statement, block, declaration, declarator, expressions, expression, disjunction,
    conjunction, bitOr, bitXor, bitAnd, equality, relation, shift, sum, product, power, awaited,
    operand, access, primary, constructed, newExpression, arrow, parenthesized, arguments,
    templateString, array, object, functionValue, classValue, classBody, decorator, method,
    propertyName, pattern, element, destructuring, parameters, parameter, signature, markup,
    tagHead, type, typePart, typeArguments, typeParameters, objectType, typeMember]

theorem getElem?_all (s : Symbol) : all[s.ctorIdx]? = some s := by cases s <;> rfl

end Symbol

/-- A rule of the grammars. -/
abbrev Phrase := Rule Symbol

namespace Phrase

/-- Rules one after the other. -/
def all : List Phrase → Phrase
  | [] => .empty
  | [r] => r
  | r :: rest => .seq r (all rest)

/-- The first rule that matches. -/
def any : List Phrase → Phrase
  | [] => .fail
  | [r] => r
  | r :: rest => .alt r (any rest)

/-- A rule, if it matches. -/
def opt (r : Phrase) : Phrase := .alt r .empty

/-- A rule only where a condition on the dialect holds. -/
def only (condition : Bool) (r : Phrase) : Phrase := if condition then r else .fail

/-! ## Tokens -/

/-- The length of a text, if another starts with it. -/
def exactly (text : List Char) (s : List Char) : Option Nat :=
  if text.isPrefixOf s then some text.length else none

/-- Punctuation that could be the start of longer punctuation. -/
def operators : List String :=
  ["...", "<=", ">=", "==", "===", "!=", "!==", "**", "++", "--", "<<", ">>", ">>>", "&&", "||",
    "??", "?.", "+=", "-=", "*=", "/=", "%=", "**=", "<<=", ">>=", ">>>=", "&=", "|=", "^=", "&&=",
    "||=", "??=", "=>"]

/-- The length of punctuation, unless longer punctuation stands there. -/
def punctuation (text : List Char) (longer : List (List Char)) (s : List Char) : Option Nat :=
  if text.isPrefixOf s && !longer.any (·.isPrefixOf s) then some text.length else none

/-- Punctuation, taken as long as possible. -/
def op (text : String) : Phrase :=
  .token none (punctuation text.toList
    ((operators.map String.toList).filter fun o => text.toList.isPrefixOf o && text.length < o.length))

/-- Punctuation where no longer one can stand. -/
def sign (text : String) : Phrase := .token none (exactly text.toList)

/-- Punctuation where no longer one can stand, and no blank before it. -/
def attached (text : String) : Phrase := .close none (exactly text.toList)

/-- One of some keywords. -/
def words (texts : List String) : Phrase := .spelled none texts.contains

/-- A keyword. -/
def word (text : String) : Phrase := .spelled none (· == text)

/-- A keyword that is a construct by itself. -/
def leafWord (text kind : String) : Phrase := .spelled (some kind) (· == text)

/-- A name other than some keywords. -/
def nameBut (kind : String) (keywords : List String) : Phrase :=
  .spelled (some kind) fun text => !keywords.contains text

/-- Any word as a name. -/
def name (kind : String) : Phrase := .spelled (some kind) fun _ => true

def string : Phrase := .token (some "string") Lexeme.string?

def number : Phrase := .token (some "number") Lexeme.number?

def privateName : Phrase := .token (some "private_property_identifier") Lexeme.privateName?

/-! ## Keywords -/

/-- Words that are not names where an expression may start. -/
def operandWords : List String :=
  ["function", "class", "new", "typeof", "void", "delete", "await", "yield", "this", "super", "true",
    "false", "null", "import", "undefined", "using"]

/-- Words that start a statement and nothing else. -/
def statementWords (d : Dialect) : List String :=
  ["if", "for", "while", "do", "switch", "try", "with", "return", "throw", "break", "continue",
    "debugger", "var", "const"] ++
    if d.hasTypes then ["interface", "enum", "abstract"] else []

/-- A name where an expression may start. -/
def operandName (kind : String) : Phrase := nameBut kind operandWords

/-! ## Settings -/

/-- In brackets. -/
def inside (r : Phrase) : Phrase := .under (fun _ => .brackets) r

/-- Where no binary operator may follow. -/
def bare (r : Phrase) : Phrase := .under (fun s => { s with operators := false }) r

/-- Where a binary operator may follow. -/
def operable (r : Phrase) : Phrase := .under (fun s => { s with operators := true }) r

/-- The end of a statement after an expression. -/
def semicolon : Phrase := any [op ";", .ended false]

/-- The end of a statement after anything else. -/
def bareSemicolon : Phrase := any [op ";", bare (.ended false)]

/-- The construct read last ends in an initial value. -/
def endsInValue (n : Node) : Bool := (n.child? "value").isSome

/-- The end of a list of declarations. -/
def semicolonByValue : Phrase :=
  any [op ";", .seq (.last endsInValue) (operable (.ended false)),
    .seq (.last fun n => !endsInValue n) (bare (.ended false))]

/-- A keyword that is a name by itself at the end of a statement. -/
def leading (text : String) : Phrase := all [word text, operable .unbroken]

/-! ## Lists -/

/-- One or more, with commas between them. -/
def separated (r : Phrase) : Phrase := .seq r (.many (.seq (op ",") r))

/-- Any number, with commas between them, and perhaps one after the last. -/
def trailing (r : Phrase) : Phrase := opt (.seq (separated r) (opt (op ",")))

/-- Any number, with commas between them, and perhaps nothing between two commas. -/
def sparse (r : Phrase) : Phrase := .seq (opt r) (.many (.seq (op ",") (opt r)))

end Phrase

end ChangeReview.Syntax
