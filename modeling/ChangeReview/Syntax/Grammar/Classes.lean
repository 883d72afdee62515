import ChangeReview.Syntax.Grammar.Types

/-!
# Classes

Classes with their heritage, members and decorators.
-/

namespace ChangeReview.Syntax.Phrase

/-- The name of a decorator, perhaps within others. -/
def decoratorName : Phrase :=
  .chain (name "identifier")
    (.grow "member_expression" (some "object")
      (all [op ".", .role "property" (name "property_identifier")]))

/-- The name of a decorator, perhaps with arguments. -/
def decoratorCall (d : Dialect) : Phrase :=
  .seq decoratorName
    (opt (.grow "call_expression" (some "function")
      (all [opt (only d.hasTypes (.role "type_arguments" (.call .typeArguments))),
        .role "arguments" (.call .arguments)])))

def decorator (d : Dialect) : Phrase :=
  .node "decorator"
    (.seq (sign "@")
      (any [decoratorCall d,
        only d.hasTypes (.node "parenthesized_expression"
          (all [op "(", inside (decoratorCall d), op ")"]))]))

def decorators : Phrase := .many (.role "decorator" (.call .decorator))

/-! ## Members -/

/-- A block that runs when the class is made. -/
def staticBlock : Phrase :=
  .node "class_static_block" (.seq (word "static") (.role "body" (.call .block)))

/-- A field, where there are no types. -/
def field : Phrase :=
  .node "field_definition"
    (all [decorators, opt (modifier "static"), .role "property" (.call .propertyName),
      opt initializer])

/-- A field, where there are types. -/
def typedField : Phrase :=
  let declared := modifier "declare"
  .node "public_field_definition"
    (all [decorators,
      opt (any [.seq declared (opt accessibility), .seq accessibility (opt declared)]),
      any [
        .seq (modifier "abstract") (opt (modifier "readonly")),
        .seq (modifier "readonly") (modifier "abstract"),
        modifier "accessor",
        all [opt (modifier "static"), opt overriding, opt (modifier "readonly")]],
      .role "name" (.call .propertyName), opt (any [op "?", op "!"]), annotated, opt initializer])

/-- A method that is left to other classes. -/
def abstractMethod : Phrase :=
  .node "abstract_method_signature"
    (all [opt accessibility, modifier "abstract", opt overriding,
      opt (any [modifier "get", modifier "set", sign "*"]), .role "name" (.call .propertyName),
      opt (op "?"), .call .signature])

/-- The end of a member, where there are types. -/
def memberEnd : Phrase := any [op ",", semicolonByValue]

def classMember (d : Dialect) : Phrase :=
  if d.hasTypes then
    any [
      all [decorators, .call .method, opt (op ";")],
      .seq indexSignature (any [op ",", op ";", .ended false]),
      .seq abstractMethod (any [op ",", op ";", .ended true]),
      .seq methodSignature (any [op ",", op ";", .ended true]),
      .seq typedField memberEnd,
      staticBlock,
      op ";"]
  else
    any [
      .seq (.call .method) (opt (op ";")),
      .seq field semicolonByValue,
      staticBlock,
      op ";"]

def classBody (d : Dialect) : Phrase :=
  .under (fun _ => .members)
    (.node "class_body" (all [op "\x7b", .many (classMember d), op "\x7d"]))

/-! ## Classes -/

/-- What a class extends and implements. -/
def heritage (d : Dialect) : Phrase :=
  let implemented := .node "implements_clause" (.seq (word "implements") (separated (.call .type)))
  if d.hasTypes then
    .node "class_heritage"
      (any [
        .seq
          (.node "extends_clause"
            (.seq (word "extends")
              (separated (.seq (.role "value" (.call .access))
                (opt (.role "type_arguments" (.call .typeArguments)))))))
          (opt implemented),
        implemented])
  else .node "class_heritage" (.seq (word "extends") (.call .expression))

/-- What follows the name of a class. -/
def classTail (d : Dialect) : Phrase :=
  all [opt (only d.hasTypes (.role "type_parameters" (.call .typeParameters))),
    opt (inside (heritage d)), .role "body" (.call .classBody)]

/-- The name of a class. -/
def className (d : Dialect) : Phrase :=
  .role "name" (nameBut (if d.hasTypes then "type_identifier" else "identifier")
    (if d.hasTypes then ["extends", "implements"] else ["extends"]))

/-- A class that is a value. -/
def classValue (d : Dialect) : Phrase :=
  .node "class" (all [decorators, word "class", opt (className d), classTail d])

/-- A class that is declared by name. -/
def classDeclaration (d : Dialect) : Phrase :=
  .node "class_declaration" (all [decorators, word "class", className d, classTail d])

/-- A class that is left to other classes to finish. -/
def abstractClass (d : Dialect) : Phrase :=
  .node "abstract_class_declaration"
    (all [decorators, word "abstract", word "class", className d, classTail d])

end ChangeReview.Syntax.Phrase
