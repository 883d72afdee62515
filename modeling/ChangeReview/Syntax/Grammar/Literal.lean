import ChangeReview.Syntax.Grammar.Function

/-!
# Literals

Templates, arrays, objects, arguments and parentheses.
-/

namespace ChangeReview.Syntax.Phrase

def templateString : Phrase :=
  .node "template_string"
    (all [sign "\x60",
      .many (any [
        .close (some "string_fragment") Lexeme.templateText?,
        .close (some "escape_sequence") Lexeme.templateEscape?,
        .node "template_substitution"
          (all [attached "$\x7b", inside (.call .expressions), op "\x7d"])]),
      attached "\x60"])

def spread : Phrase := .node "spread_element" (.seq (op "...") (.call .expression))

def arguments : Phrase :=
  .node "arguments" (all [op "(", inside (sparse (any [spread, .call .expression])), op ")"])

def array : Phrase :=
  .node "array" (all [op "[", inside (sparse (any [spread, .call .expression])), op "]"])

def object : Phrase :=
  .node "object"
    (all [op "\x7b",
      inside (sparse (any [
        .node "pair"
          (all [.role "key" (.call .propertyName), op ":", .role "value" (.call .expression)]),
        spread,
        .call .method,
        name "shorthand_property_identifier"])),
      op "\x7d"])

/-- One expression, or several with commas between them. -/
def expressions : Phrase :=
  .seq (.call .expression)
    (opt (.grow "sequence_expression" none
      (all [op ",", .call .expression, .many (.seq (op ",") (.call .expression))])))

def parenthesized (d : Dialect) : Phrase :=
  .node "parenthesized_expression"
    (all [op "(",
      inside (any [
        only d.hasTypes
          (all [.call .expression, .role "type" annotation, .ahead (op ")")]),
        .call .expressions]),
      op ")"])

end ChangeReview.Syntax.Phrase
