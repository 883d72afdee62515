import ChangeReview.Syntax.Grammar.Literal

/-!
# Markup

Elements with attributes and children. The names of an opening and a closing tag need not agree.
-/

namespace ChangeReview.Syntax.Phrase

def tagWord (kind : String) : Phrase := .token (some kind) Lexeme.markupName?

/-- A name within a namespace. -/
def qualifiedTagWord : Phrase :=
  .node "jsx_namespace_name" (all [tagWord "identifier", op ":", tagWord "identifier"])

/-- The name of an element. -/
def tagName (d : Dialect) : Phrase :=
  any [
    .role "name" qualifiedTagWord,
    all [
      .role "name"
        (.chain (tagWord "identifier")
          (.grow "member_expression" (some "object")
            (all [op ".", .role "property" (name "property_identifier")]))),
      opt (only d.hasTypes (.role "type_arguments" (.call .typeArguments)))]]

/-- An expression within markup. -/
def embedded : Phrase :=
  .node "jsx_expression"
    (all [op "\x7b", inside (opt (any [spread, .call .expressions])), op "\x7d"])

def tagAttribute : Phrase :=
  .role "attribute"
    (any [
      .node "jsx_attribute"
        (all [any [qualifiedTagWord, tagWord "property_identifier"],
          opt (all [sign "=",
            any [.token (some "string") Lexeme.markupString?, embedded, .call .markup]])]),
      embedded])

/-- A tag up to its end. -/
def tagHead (d : Dialect) : Phrase := all [sign "<", tagName d, .many tagAttribute]

def markupChild : Phrase :=
  any [
    .close (some "jsx_text") Lexeme.markupText?,
    .token (some "html_character_reference") Lexeme.reference?,
    .call .markup,
    embedded]

/-- An element. -/
def markup (d : Dialect) : Phrase :=
  any [
    .node "jsx_self_closing_element" (.seq (.call .tagHead) (sign "/>")),
    .node "jsx_element"
      (all [
        .role "open_tag"
          (.node "jsx_opening_element" (.seq (any [.call .tagHead, sign "<"]) (sign ">"))),
        .many markupChild,
        .role "close_tag"
          (.node "jsx_closing_element" (all [sign "</", opt (tagName d), sign ">"]))])]

end ChangeReview.Syntax.Phrase
