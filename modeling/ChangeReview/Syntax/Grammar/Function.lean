import ChangeReview.Syntax.Grammar.Pattern

/-!
# Functions

Functions with a name or without, methods, and arrow functions, whose body is an expression or a
block.
-/

namespace ChangeReview.Syntax.Phrase

/-- The type of a result, which may also be an assertion or a test of a parameter. -/
def resultType : Phrase :=
  bare (any [
    .node "asserts_annotation"
      (all [op ":", .node "asserts" (all [word "asserts",
        any [.node "type_predicate" (all [.role "name" (name "identifier"), word "is",
            .role "type" (.call .type)]),
          leafWord "this" "this", name "identifier"]]),
        .absent (word "is")]),
    .node "type_predicate_annotation"
      (all [op ":", .node "type_predicate" (all [.role "name" (name "identifier"), word "is",
        .role "type" (.call .type)])]),
    annotation])

/-- The parameters of a function and the types around them. -/
def signature (d : Dialect) : Phrase :=
  all [opt (only d.hasTypes (.role "type_parameters" (.call .typeParameters))),
    .role "parameters" (.call .parameters),
    opt (only d.hasTypes (.role "return_type" resultType))]

/-- The parameters and body of a function. -/
def functionTail : Phrase := all [inside (.call .signature), .role "body" (.call .block)]

/-- A function, by the kinds of the construct and of a generator. -/
def function (kind generator : String) (title : Phrase) : Phrase :=
  all [.ahead (words ["async", "function"]),
    any [
      .node kind (all [opt (leading "async"), word "function", title, functionTail]),
      .node generator
        (all [opt (leading "async"), word "function", sign "*", title, functionTail])]]

/-- A function that is a value. -/
def functionValue : Phrase :=
  function "function_expression" "generator_function" (opt (.role "name" (name "identifier")))

/-- A function that is declared by name. -/
def functionDeclaration : Phrase :=
  function "function_declaration" "generator_function_declaration" (.role "name" (name "identifier"))

/-- The length of two words that modify a member, at the end of a line. -/
def staticGetter (s : List Char) : Option Nat :=
  match exactly "static".toList s with
  | none => none
  | some n =>
    let blanks := Lexeme.run isPlainSpace (s.drop n)
    let rest := s.drop (n + blanks)
    match exactly "get".toList rest with
    | none => none
    | some m =>
      let after := (rest.drop m).takeWhile isPlainSpace
      if 0 < blanks ∧ after.contains '\n' then
        some (n + blanks + m + (after.reverse.dropWhile (· != '\n')).length)
      else none

/-- What a method is before its name. -/
def methodModifiers (d : Dialect) : Phrase :=
  all [
    if d.hasTypes then
      all [opt accessibility, opt (modifier "static"), opt overriding, opt (modifier "readonly")]
    else opt (any [.token none staticGetter, modifier "static"]),
    opt (modifier "async"),
    opt (any [modifier "get", modifier "set", sign "*"])]

/-- The name of a method, after which its parameters follow. -/
def methodName (d : Dialect) : Phrase :=
  .seq (.role "name" (.call .propertyName))
    (if d.hasTypes then .seq (opt (op "?")) (bare .unbroken) else .empty)

def method (d : Dialect) : Phrase :=
  .node "method_definition"
    (all [if d.hasTypes then .empty else .many (.role "decorator" (.call .decorator)),
      methodModifiers d, methodName d, functionTail])

/-! ## Arrow functions -/

/-- Braces hold statements rather than members: they are empty, or start with a name alone or with a
word that only statements start with. -/
def startsBlock (d : Dialect) : Phrase :=
  .ahead (all [op "\x7b",
    any [op "\x7d",
      .seq (name "identifier") (any [op ",", op "\x7d"]),
      words (statementWords d ++ operandWords)]])

/-- The body of an arrow function. -/
def arrowBody (d : Dialect) : Phrase :=
  .role "body"
    (any [all [.ahead (op "\x7b"), .absent (startsBlock d), .call .expression],
      .call .block, .call .expression])

/-- The parameters of an arrow function. -/
def arrowParameters (d : Dialect) : Phrase :=
  any [.seq (.role "parameter" (operandName "identifier")) (.ahead (op "=>")),
    inside (all [opt (only d.hasTypes (.role "type_parameters" (.call .typeParameters))),
      .role "parameters" (.call .parameters)])]

def arrow (d : Dialect) : Phrase :=
  let result := opt (only d.hasTypes
    (.seq (.provided fun s => !s.plainArrows) (.role "return_type" (inside resultType))))
  let tail := all [arrowParameters d, result, op "=>", arrowBody d]
  any [.node "arrow_function" (.seq (leading "async") tail), .node "arrow_function" tail]

end ChangeReview.Syntax.Phrase
