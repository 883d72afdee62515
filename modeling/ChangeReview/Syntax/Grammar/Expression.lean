import ChangeReview.Syntax.Grammar.Literal
import ChangeReview.Syntax.Grammar.Operator

/-!
# Expressions

A primary expression is taken further by accesses to its parts and by calls. Prefix operators and
assignments make operands of these, and binary operators join operands.
-/

namespace ChangeReview.Syntax.Phrase

/-- A question mark and a point, of an access that may find nothing. -/
def optionalMark : List Char → Option Nat
  | '?' :: '.' :: c :: _ => if c.isDigit then none else some 2
  | ['?', '.'] => some 2
  | _ => none

def optionalChain : Phrase :=
  .role "optional_chain" (.token (some "optional_chain") optionalMark)

/-! ## Accesses and calls -/

def memberAccess : Phrase :=
  .grow "member_expression" (some "object")
    (.seq (any [op ".", optionalChain])
      (.role "property" (any [privateName, name "property_identifier"])))

def subscript : Phrase :=
  .grow "subscript_expression" (some "object")
    (all [opt optionalChain, op "[", .role "index" (inside (.call .expressions)), op "]"])

/-- Type arguments, where there are types. -/
def callTypes (d : Dialect) : Phrase :=
  opt (only d.hasTypes (.role "type_arguments" (.call .typeArguments)))

def callOf (d : Dialect) : Phrase :=
  .grow "call_expression" (some "function")
    (all [opt optionalChain, callTypes d, .role "arguments" (.call .arguments)])

def templateCall : Phrase :=
  .grow "call_expression" (some "function") (.role "arguments" (.call .templateString))

/-- Type arguments without a call. A statement ends after them or what follows is no operand, or they
would be comparisons, as they are when an equals sign makes the last bracket an operator. -/
def typesAlone : Phrase :=
  all [.role "type_arguments" (.call .typeArguments), .absent (attached "="),
    any [.absent .unbroken, .absent (.call .operand)]]

def instantiation : Phrase := .grow "instantiation_expression" none typesAlone

def step : Phrase := .grow "update_expression" (some "argument") stepOperator

/-- What takes an expression further. -/
def accesses (d : Dialect) : List Phrase :=
  [memberAccess, subscript, callOf d, templateCall, only d.hasTypes instantiation, step]

def access (d : Dialect) : Phrase := .chain (.call .primary) (any (accesses d))

/-- What is constructed by an expression: it holds no call. -/
def constructed : Phrase :=
  .chain (any [.call .newExpression, .call .primary])
    (any [memberAccess, subscript, templateCall])

def newExpression (d : Dialect) : Phrase :=
  .node "new_expression"
    (all [word "new", .role "constructor" (.call .constructed),
      opt (any [.seq (callTypes d) (.role "arguments" (.call .arguments)),
        only d.hasTypes typesAlone])])

/-! ## Primary expressions -/

def metaProperty : Phrase :=
  .node "meta_property"
    (any [all [word "new", op ".", word "target"], all [word "import", op ".", word "meta"]])

def regex : Phrase := .token (some "regex") Lexeme.regex?

def primary (d : Dialect) : Phrase :=
  any [
    leafWord "this" "this", leafWord "super" "super", leafWord "true" "true",
    leafWord "false" "false", leafWord "null" "null", string, number, .call .templateString,
    .call .functionValue,
    .call .arrow,
    leafWord "undefined" "undefined",
    operandName "identifier",
    .call .parenthesized, .call .array, .call .object, regex,
    .call .classValue,
    metaProperty,
    .seq (leafWord "import" "import") (.ahead (any [op "(", only d.hasTypes (sign "<")])),
    .call .newExpression,
    only d.hasMarkup (.call .markup),
    only d.hasTypes (leafWord "new" "identifier")]

/-! ## Operands -/

/-- The assertion that a value is there. -/
def bang : Phrase := .grow "non_null_expression" none (op "!")

/-- The assertion that a value has a type. -/
def ascriptions : List Phrase :=
  [.grow "as_expression" none (.seq (word "as") (any [word "const", .call .type])),
    .grow "satisfies_expression" none (.seq (word "satisfies") (.call .type))]

/-- A value may be assigned to an expression of this kind. -/
def isAssignable (d : Dialect) (n : Node) : Bool :=
  isTarget d n || n.kind == "parenthesized_expression"

/-- An assignment to the expression before it. -/
def assignments (d : Dialect) : List Phrase :=
  [.seq (.last (isAssignable d))
      (.grow "assignment_expression" (some "left")
        (.seq (op "=") (.role "right" (.call .expression)))),
    .seq (.last fun n => isAssignable d n && n.kind != "undefined")
      (.grow "augmented_assignment_expression" (some "left")
        (.seq (.role "operator" (any (assignmentOperators.map op)))
          (.role "right" (.call .expression))))]

def operand (d : Dialect) : Phrase :=
  .seq .settle (any [
    .node "await_expression" (.seq (word "await") (.call .awaited)),
    .node "unary_expression"
      (.seq (.role "operator" prefixOperator) (.role "argument" (.call .operand))),
    .node "update_expression" (.seq stepOperator (.role "argument" (.call .operand))),
    .node "yield_expression"
      (.seq (word "yield")
        (any [.seq (sign "*") (.call .expression), .seq .unbroken (.call .expression), .empty])),
    .node "assignment_expression"
      (all [opt (word "using"), .role "left" (.call .destructuring), op "=",
        .role "right" (.call .expression)]),
    .node "assignment_expression"
      (all [word "using", .role "left" (.seq (.call .access) (.last (isAssignable d))), op "=",
        .role "right" (.call .expression)]),
    .seq (.call .access) (opt (any (assignments d))),
    .seq privateName (.ahead (word "in")),
    only (d = .typeScript)
      (.node "type_assertion" (.seq (.call .typeArguments) (.call .operand)))])

/-- What takes an operand further, where there are types, once it is asserted to be there. -/
def assertions (d : Dialect) : List Phrase :=
  if d.hasTypes then bang :: accesses d ++ assignments d ++ ascriptions else []

def awaited (d : Dialect) : Phrase := .chain (.call .operand) (any (assertions d))

def expression (d : Dialect) : Phrase :=
  .chain (.call .operand) (any (assertions d ++ binaries levels ++ [conditional d]))

end ChangeReview.Syntax.Phrase
