import ChangeReview.Syntax.Grammar.Vocabulary

/-!
# Operators

Binary operators by how tightly they bind, the loosest first. The operand to the right of an operator
is read with the operators that bind more tightly; exponentiation alone groups to the right.
-/

namespace ChangeReview.Syntax.Phrase

/-- The binary operators of each level, with what stands to their right. -/
def levels : List (Phrase × Symbol) :=
  [(op "??", .disjunction),
    (op "||", .conjunction),
    (op "&&", .bitOr),
    (op "|", .bitXor),
    (op "^", .bitAnd),
    (op "&", .equality),
    (any [op "===", op "!==", op "==", op "!="], .relation),
    (any [op "<", op "<=", op ">", op ">=", words ["instanceof", "in"]], .shift),
    (any [op "<<", op ">>>", op ">>"], .sum),
    (any [op "+", op "-"], .product),
    (any [op "*", op "/", op "%"], .power),
    (op "**", .power)]

/-- Operators of some levels, each with the operand to its right. -/
def binaries (levels : List (Phrase × Symbol)) : List Phrase :=
  levels.map fun level =>
    .grow "binary_expression" (some "left")
      (.seq (.role "operator" level.1) (.role "right" (.call level.2)))

/-- An expression of operators from a level on. -/
def operatorsFrom (level : Nat) : Phrase :=
  .chain (.call .operand) (any (binaries (levels.drop level)))

/-- The length of the mark of a condition: a question mark that starts no other operator. -/
def questionMark : List Char → Option Nat
  | '?' :: '?' :: _ => none
  | '?' :: '.' :: c :: _ => if c.isDigit then some 1 else none
  | ['?', '.'] => none
  | '?' :: _ => some 1
  | _ => none

/-- A choice between two values by a condition. -/
def conditional (d : Dialect) : Phrase :=
  let branches := fun consequence =>
    all [.token none questionMark, .role "consequence" consequence, op ":",
      .role "alternative" (.call .expression)]
  .grow "ternary_expression" (some "condition")
    (any [branches (inside (.call .expression)),
      only d.hasTypes
        (branches (.under (fun _ => { Setting.brackets with plainArrows := true })
          (.call .expression)))])

def assignmentOperators : List String :=
  ["+=", "-=", "*=", "/=", "%=", "^=", "&=", "|=", ">>=", ">>>=", "<<=", "**=", "&&=", "||=", "??="]

/-- Prefix operators. -/
def prefixOperator : Phrase :=
  any [op "!", op "~", op "-", op "+", words ["typeof", "void", "delete"]]

def stepOperator : Phrase := .role "operator" (any [op "++", op "--"])

end ChangeReview.Syntax.Phrase
