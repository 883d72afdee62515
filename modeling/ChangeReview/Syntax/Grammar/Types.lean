import ChangeReview.Syntax.Grammar.Function

/-!
# Types

The types of the dialects that have them. A type is a part followed by brackets, operators and
conditions; how these nest is not told apart.
-/

namespace ChangeReview.Syntax.Phrase

def typeName : Phrase := name "type_identifier"

/-- Words that are types by themselves. -/
def predefinedTypes : List String :=
  ["any", "number", "boolean", "string", "symbol", "void", "unknown", "never", "object"]

/-- Words that are not names where a type may start. -/
def typeWords : List String :=
  predefinedTypes ++ ["unique", "const", "this", "typeof", "keyof", "readonly", "infer", "new",
    "abstract", "import", "true", "false", "null", "undefined"]

/-- A name within the name read last, before another name within it. -/
def outerName (kind : String) (follows : Phrase) : Phrase :=
  .grow kind (some "object")
    (all [op ".", .role "property" (name "property_identifier"), .ahead follows])

/-- A name within others. The construct of all names but the last is a member of a member. -/
def nestedName : Phrase :=
  .chain (name "identifier")
    (any [outerName "member_expression" (op "."), outerName "nested_identifier" .empty])

/-- A name of a type other than some keywords, perhaps within modules, perhaps with arguments. -/
def namedType (keywords : List String) : Phrase :=
  .seq
    (.chain
      (any [.seq (nameBut "identifier" keywords) (.ahead (op ".")),
        nameBut "type_identifier" keywords])
      (any [
        outerName "member_expression" (all [op ".", name "identifier", op "."]),
        outerName "nested_identifier" (op "."),
        .grow "nested_type_identifier" (some "module") (all [op ".", .role "name" typeName])]))
    (opt (.grow "generic_type" (some "name") (.role "type_arguments" (.call .typeArguments))))

def typeArguments : Phrase :=
  .node "type_arguments"
    (all [sign "<", inside (bare (all [separated (.call .type), opt (op ",")])), sign ">"])

def typeParameter : Phrase :=
  .node "type_parameter"
    (all [opt (.seq (word "const") (.ahead (name "identifier"))), .role "name" typeName,
      opt (.role "constraint"
        (.node "constraint" (all [any [word "extends", op ":"], .call .type]))),
      opt (.role "value" (.node "default_type" (all [sign "=", .call .type])))])

def typeParameters : Phrase :=
  .node "type_parameters"
    (all [sign "<", inside (bare (all [separated typeParameter, opt (op ",")])), sign ">"])

/-! ## Members of object types -/

/-- A blank annotation that adds or removes the possibility to be absent. -/
def mappedAnnotation : Phrase :=
  .role "type" (any [
    .node "omitting_type_annotation" (all [sign "-?:", .call .type]),
    .node "adding_type_annotation" (all [sign "+?:", .call .type]),
    .node "opting_type_annotation" (all [sign "?:", .call .type]),
    annotation])

def indexSignature : Phrase :=
  .node "index_signature"
    (all [opt (all [opt (.role "sign" (any [sign "-", sign "+"])), word "readonly"]), op "[",
      inside (any [
        all [.role "name" (name "identifier"), op ":", .role "index_type" (bare (.call .type))],
        .node "mapped_type_clause"
          (all [.role "name" typeName, word "in", bare (all [.role "type" (.call .type),
            opt (all [word "as", .role "alias" (.call .type)])])])]),
      op "]", bare mappedAnnotation])

/-- What a member of a type is before its name. -/
def memberModifiers : Phrase :=
  all [opt accessibility, opt (modifier "static"), opt overriding, opt (modifier "readonly")]

/-- A method without a body. -/
def methodSignature : Phrase :=
  .node "method_signature"
    (all [memberModifiers, opt (modifier "async"),
      opt (any [modifier "get", modifier "set", sign "*"]), .role "name" (.call .propertyName),
      opt (op "?"), bare .unbroken, .call .signature])

def propertySignature : Phrase :=
  .node "property_signature"
    (all [memberModifiers, .role "name" (.call .propertyName), opt (op "?"), annotated])

def constructSignature : Phrase :=
  .node "construct_signature"
    (all [opt (word "abstract"), word "new", bare .unbroken,
      opt (.role "type_parameters" (.call .typeParameters)), .role "parameters" (.call .parameters),
      annotated])

def typeMember : Phrase :=
  any [indexSignature, constructSignature, .node "call_signature" (.call .signature),
    methodSignature, propertySignature]

/-- A type in braces, as a construct of some kind. -/
def objectType (kind : String) : Phrase :=
  let separator := any [op ",", op ";", .ended true]
  .under (fun _ => .members)
    (.node kind
      (all [any [sign "\x7b|", op "\x7b"],
        opt (any [op ",", op ";"]),
        opt (all [.call .typeMember, .many (.seq separator (.call .typeMember)),
          opt separator]),
        any [sign "|\x7d", op "\x7d"]]))

/-! ## Types -/

def tupleMember : Phrase :=
  any [
    .node "optional_parameter"
      (all [.role "name" (name "identifier"), op "?", .role "type" annotation]),
    .node "required_parameter"
      (all [.role "name" (any [name "identifier",
          .node "rest_pattern" (all [op "...", name "identifier"])]),
        .role "type" annotation]),
    .node "rest_type" (all [op "...", .call .type]),
    .seq (.call .type) (opt (.grow "optional_type" none (sign "?")))]

def functionType : Phrase :=
  .node "function_type"
    (all [opt (.role "type_parameters" (.call .typeParameters)),
      .role "parameters" (.call .parameters), op "=>",
      .role "return_type" (any [
        .node "asserts" (all [word "asserts", any [name "identifier", leafWord "this" "this"],
          opt (.seq (word "is") (.call .type))]),
        .node "type_predicate" (all [.role "name" (name "identifier"), word "is",
          .role "type" (.call .type)]),
        .call .type])])

def constructorType : Phrase :=
  .node "constructor_type"
    (all [opt (word "abstract"), word "new", opt (.role "type_parameters" (.call .typeParameters)),
      .role "parameters" (.call .parameters), op "=>", .role "type" (.call .type)])

/-- The type of an expression: a name with parts and calls. -/
def typeQuery : Phrase :=
  .node "type_query"
    (.seq (word "typeof")
      (.chain
        (any [.seq (leafWord "import" "import") (.ahead (op "(")), leafWord "this" "this",
          name "identifier"])
        (any [
          .grow "member_expression" (some "object")
            (all [any [op ".", sign "?."],
              .role "property" (any [privateName, name "property_identifier"])]),
          .grow "subscript_expression" (some "object")
            (all [opt (sign "?."), op "[",
              .role "index" (any [string, number,
                .node "predefined_type" (words predefinedTypes)]), op "]"]),
          .grow "call_expression" (some "function") (.role "arguments" (.call .arguments)),
          .grow "instantiation_expression" (some "function")
            (.role "type_arguments" (.call .typeArguments))])))

/-- A type of a module that is named by its path. -/
def importType : Phrase :=
  .chain (.seq (leafWord "import" "import") (.ahead (any [op "(", op "."])))
    (any [
      .grow "member_expression" (some "object")
        (all [op ".", .role "property" (any [privateName, name "property_identifier"])]),
      .grow "call_expression" (some "function") (.role "arguments" (.call .arguments))])

def templateType : Phrase :=
  .node "template_literal_type"
    (all [sign "\x60",
      .many (any [
        .close (some "string_fragment") Lexeme.templateText?,
        .node "template_type"
          (all [attached "$\x7b", inside (bare (.call .type)), op "\x7d"])]),
      attached "\x60"])

def literalType : Phrase :=
  .node "literal_type"
    (any [
      .node "unary_expression"
        (all [.role "operator" (any [sign "-", sign "+"]), .role "argument" number]),
      number, string, leafWord "true" "true", leafWord "false" "false", leafWord "null" "null",
      leafWord "undefined" "undefined"])

def typePart : Phrase :=
  any [
    namedType typeWords,
    .node "predefined_type"
      (any [words predefinedTypes, .seq (word "unique") (word "symbol")]),
    functionType,
    .node "parenthesized_type" (all [op "(", inside (bare (.call .type)), op ")"]),
    .call .objectType,
    literalType,
    .node "tuple_type"
      (all [op "[", inside (bare (trailing tupleMember)), op "]"]),
    .node "index_type_query" (.seq (word "keyof") (.call .typePart)),
    .node "readonly_type" (.seq (word "readonly") (.call .typePart)),
    .node "infer_type"
      (all [word "infer", typeName, opt (all [word "extends", .call .type])]),
    typeQuery,
    constructorType,
    importType,
    templateType,
    leafWord "this" "this_type",
    word "const",
    .node "existential_type" (sign "*"),
    .node "flow_maybe_type" (.seq (sign "?") (.call .typePart)),
    .node "union_type" (.seq (op "|") (.call .typePart)),
    .node "intersection_type" (.seq (op "&") (.call .typePart))]

def type : Phrase :=
  .chain (.call .typePart)
    (any [
      .grow "array_type" none (.seq (op "[") (op "]")),
      .grow "lookup_type" none (all [op "[", inside (bare (.call .type)), op "]"]),
      .grow "union_type" none (.seq (op "|") (.call .typePart)),
      .grow "intersection_type" none (.seq (op "&") (.call .typePart)),
      .grow "conditional_type" (some "left")
        (all [word "extends", .role "right" (.call .type), sign "?",
          .role "consequence" (inside (bare (.call .type))), op ":",
          .role "alternative" (.call .type)])])

end ChangeReview.Syntax.Phrase
