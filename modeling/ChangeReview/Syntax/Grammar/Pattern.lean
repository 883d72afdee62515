import ChangeReview.Syntax.Grammar.Vocabulary

/-!
# Patterns

What a value is taken apart by or bound to, the names of properties, and parameters.
-/

namespace ChangeReview.Syntax.Phrase

/-- A value may be assigned to a construct of this kind. -/
def isTarget (d : Dialect) (n : Node) : Bool :=
  ["member_expression", "subscript_expression", "identifier", "undefined"].contains n.kind ||
    d.hasTypes && n.kind == "non_null_expression"

/-- A construct goes on as an access to a part of it. -/
def goesOn : Phrase := any [op ".", sign "?.", op "[", op "(", sign "\x60"]

/-- The value of a default. -/
def default : Phrase :=
  .grow "assignment_pattern" (some "left") (all [op "=", .role "right" (.call .expression)])

/-- An initial value. -/
def initializer : Phrase := all [op "=", .role "value" (operable (.call .expression))]

/-- What an element may be bound to. -/
def target (d : Dialect) : Phrase :=
  any [.seq (.call .destructuring) (.absent goesOn), .seq (.call .access) (.last (isTarget d))]

def rest (d : Dialect) : Phrase := .node "rest_pattern" (all [op "...", target d])

def pattern (d : Dialect) : Phrase := any [rest d, target d]

/-- A pattern, perhaps with a default. -/
def element : Phrase := .seq (.call .pattern) (opt default)

def shorthandPattern : Phrase := name "shorthand_property_identifier_pattern"

/-- A part of a pattern in braces. -/
def patternMember (d : Dialect) : Phrase :=
  any [
    .node "pair_pattern"
      (all [.role "key" (.call .propertyName), op ":", .role "value" (.call .element)]),
    rest d,
    .node "object_assignment_pattern"
      (all [.role "left" (any [shorthandPattern, .call .destructuring]), op "=",
        .role "right" (.call .expression)]),
    shorthandPattern]

/-- A pattern in braces or square brackets. -/
def destructuring (d : Dialect) : Phrase :=
  any [
    .node "object_pattern" (all [op "\x7b", inside (sparse (patternMember d)), op "\x7d"]),
    .node "array_pattern" (all [op "[", inside (sparse (.call .element)), op "]"])]

/-- The name of a property: a word, a private name, a literal, or a computed name in brackets. -/
def propertyName : Phrase :=
  any [name "property_identifier", privateName, string, number,
    .node "computed_property_name" (all [op "[", inside (.call .expression), op "]"])]

/-- The name of a property stands here, or the star of a generator. -/
def namesMember : Phrase :=
  .ahead (any [name "property_identifier", privateName, string, number, op "[", sign "*"])

/-- A word that modifies a member whose name follows. -/
def modifier (text : String) : Phrase := all [word text, bare .unbroken, namesMember]

def accessibilityWords : List String := ["public", "private", "protected"]

/-- Whether a member can be seen from outside, before its name. -/
def accessibility : Phrase :=
  all [.node "accessibility_modifier" (words accessibilityWords), bare .unbroken, namesMember]

def overriding : Phrase :=
  all [.node "override_modifier" (word "override"), bare .unbroken, namesMember]

/-! ## Parameters -/

/-- A parameter may start here. -/
def startsParameter : Phrase :=
  .ahead (any [nameBut "identifier" ["function", "class", "new", "typeof", "void", "delete", "await",
      "yield", "true", "false", "null"],
    op "\x7b", op "[", op "...", sign "@"])

/-- A word that modifies a parameter. -/
def parameterModifier (r : Phrase) : Phrase :=
  opt (all [r, .ahead (any [name "identifier", op "\x7b", op "[", op "..."])])

/-- The pattern of a parameter with its modifiers. -/
def parameterName : Phrase :=
  all [.many (.role "decorator" (.call .decorator)),
    parameterModifier (.node "accessibility_modifier" (words accessibilityWords)),
    parameterModifier (.node "override_modifier" (word "override")),
    parameterModifier (word "readonly"),
    .role "pattern" (any [.call .pattern, leafWord "this" "this"])]

/-- A type annotation. -/
def annotation : Phrase := .node "type_annotation" (all [op ":", bare (.call .type)])

def annotated : Phrase := opt (.role "type" annotation)

def parameter (d : Dialect) : Phrase :=
  if d.hasTypes then
    .seq startsParameter
      (any [
        .node "optional_parameter" (all [parameterName, op "?", annotated, opt initializer]),
        .node "required_parameter" (all [parameterName, annotated, opt initializer])])
  else .seq startsParameter (.call .element)

def parameters : Phrase :=
  .node "formal_parameters" (all [op "(", inside (trailing (.call .parameter)), op ")"])

end ChangeReview.Syntax.Phrase
