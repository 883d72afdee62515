import ChangeReview.Syntax.Grammar.Declarations

/-!
# Statements

Where braces could hold statements or the members of an object, members are tried first unless the
braces start like statements.
-/

namespace ChangeReview.Syntax.Phrase

def body : Phrase := .role "body" (.call .statement)

def condition : Phrase := .role "condition" (.call .parenthesized)

def block : Phrase :=
  .node "statement_block"
    (all [op "\x7b", .under (fun _ => .statements) (.seq (.many (.call .statement)) .settle),
      op "\x7d"])

/-- A word that is also a name, before something that could take the name further: the word begins
a declaration. -/
def startsDeclaration (d : Dialect) : Phrase :=
  any [.seq (word "export") (any [op "*", only d.hasTypes (word "as")]), .seq (word "let") (op "[")]

def expressionStatement (d : Dialect) : Phrase :=
  .node "expression_statement"
    (all [.absent (words (statementWords d)), .absent (startsDeclaration d), .call .expressions,
      semicolon])

/-- A clause that a word begins, or none. The word is a keyword here, even before something else. -/
def clause (text kind role : String) (r : Phrase) : Phrase :=
  any [.role role (.node kind (.seq (word text) r)), .absent (word text)]

/-- A declaration, unless what follows makes it the start of an expression. -/
def declarationStatement : Phrase :=
  .seq (.call .declaration)
    (.absent (any [op ".", sign "?", op "*", op "%", op ">", op ">=", op "==", op "===", op "!=",
      op "!==", op "&&", op "||", op "|", op "^", op "&", op ",", op "=", op "=>",
      words ["in", "instanceof"]]))

/-! ## Branches and loops -/

def ifStatement : Phrase :=
  .node "if_statement"
    (all [word "if", condition, .role "consequence" (.call .statement),
      clause "else" "else_clause" "alternative" (.call .statement)])

def switchStatement : Phrase :=
  let bodies := .many (.seq (.absent (words ["case", "default"])) body)
  .node "switch_statement"
    (all [word "switch", .role "value" (.call .parenthesized),
      .role "body" (.node "switch_body"
        (all [op "\x7b",
          .many (any [
            .node "switch_case"
              (all [word "case", .role "value" (inside (.call .expressions)), op ":", bodies]),
            .node "switch_default" (all [word "default", op ":", bodies])]),
          op "\x7d"]))])

def emptyStatement : Phrase := .token (some "empty_statement") (exactly [';'])

/-- The head of a loop does not begin with a name that could only begin a declaration. -/
def noDeclaration : Phrase := .absent (words ["var", "const"])

/-- A loop with an initial part, a condition and a step. -/
def forStatement : Phrase :=
  let part := .seq (inside (.call .expressions)) (op ";")
  .node "for_statement"
    (all [word "for", op "(",
      .role "initializer"
        (any [lexical, variableDeclaration, .seq noDeclaration part, emptyStatement]),
      .role "condition" (any [part, emptyStatement]),
      opt (.role "increment" (inside (.call .expressions))), op ")", body])

/-- What the members or values of a loop are bound to. -/
def loopTarget (d : Dialect) : Phrase :=
  let bound := .role "left" (any [.call .destructuring, name "identifier"])
  let follows := .ahead (words ["in", "of"])
  any [
    all [.role "kind" (word "var"), bound,
      opt (.seq (op "=") (.role "value" (.call .shift))), follows],
    all [.role "kind" (words ["let", "const"]), bound, follows],
    all [noDeclaration,
      .role "left" (any [.seq (inside (target d)) follows, .call .parenthesized]), follows]]

/-- A loop over the members or values of something. -/
def forIn (d : Dialect) : Phrase :=
  .node "for_in_statement"
    (all [word "for", opt (word "await"), op "(", inside (loopTarget d),
      .role "operator" (words ["in", "of"]), .role "right" (inside (.call .expressions)), op ")",
      body])

def whileStatement : Phrase := .node "while_statement" (all [word "while", condition, body])

def doStatement : Phrase :=
  .node "do_statement" (all [word "do", body, word "while", condition, opt (op ";")])

/-! ## Other statements -/

def tryStatement (d : Dialect) : Phrase :=
  let parameter := all [op "(",
    .role "parameter" (any [.call .destructuring, name "identifier"]),
    if d.hasTypes then inside annotated else .empty, op ")"]
  .node "try_statement"
    (all [word "try", .role "body" (.call .block),
      clause "catch" "catch_clause" "handler" (.seq (opt parameter) (.role "body" (.call .block))),
      clause "finally" "finally_clause" "finalizer" (.role "body" (.call .block))])

def withStatement : Phrase :=
  .node "with_statement" (all [word "with", .role "object" (.call .parenthesized), body])

/-- A jump, perhaps to a label on the same line. -/
def jump (text kind : String) : Phrase :=
  .node kind
    (all [word text, opt (.seq (bare .unbroken) (.role "label" (name "statement_identifier"))),
      bareSemicolon])

def returnStatement : Phrase :=
  .node "return_statement"
    (.seq (word "return")
      (any [all [bare .unbroken, .call .expressions, semicolon], bareSemicolon]))

def labeledStatement (d : Dialect) : Phrase :=
  .node "labeled_statement"
    (all [.role "label" (nameBut "statement_identifier" (statementWords d ++ operandWords)), op ":",
      body])

/-- A statement that begins with a word of its own, or is a single token. -/
def wordStatements (d : Dialect) : List Phrase :=
  [returnStatement, ifStatement, forIn d, forStatement, whileStatement, doStatement,
    switchStatement, tryStatement d, jump "break" "break_statement",
    jump "continue" "continue_statement",
    .node "throw_statement" (all [word "throw", .call .expressions, semicolon]),
    .node "debugger_statement" (.seq (word "debugger") bareSemicolon),
    withStatement, emptyStatement]

def statement (d : Dialect) : Phrase :=
  .under (fun _ => .statements)
    (.seq .settle
      (any ([
        all [.ahead (op "\x7b"), .absent (startsBlock d), expressionStatement d],
        .call .block,
        exportStatement d,
        importStatement d,
        declarationStatement] ++ wordStatements d ++
        [labeledStatement d, expressionStatement d])))

def program : Phrase :=
  .node "program"
    (all [opt (.token (some "hash_bang_line") Lexeme.hashBang?), .many (.call .statement), .settle,
      .comments])

end ChangeReview.Syntax.Phrase
