import ChangeReview.Syntax.Grammar.Classes

/-!
# Declarations

Variables, functions, classes and, where there are types, the declarations of types and modules; and
what a module imports and exports.
-/

namespace ChangeReview.Syntax.Phrase

/-! ## Variables -/

def declarator (d : Dialect) : Phrase :=
  .node "variable_declarator"
    (any [
      only d.hasTypes
        (all [.role "name" (name "identifier"), op "!", .role "type" annotation]),
      all [.role "name" (any [.call .destructuring, name "identifier"]),
        if d.hasTypes then annotated else .empty, opt initializer]])

def declarators : Phrase := .seq (separated (.call .declarator)) semicolonByValue

/-- The word that begins a lexical declaration. After the word that is also a name, an operator makes
it one. -/
def lexicalWord : Phrase :=
  any [word "const", all [leading "let", .absent (words ["in", "instanceof"])]]

def lexical : Phrase :=
  .node "lexical_declaration" (.seq (.role "kind" lexicalWord) declarators)

def variableDeclaration : Phrase := .node "variable_declaration" (.seq (word "var") declarators)

/-! ## Modules -/

def fromSource : Phrase := .seq (word "from") (.role "source" string)

/-- A name by which a module gives something away. -/
def exportName : Phrase := any [string, name "identifier"]

def exportSpecifier (d : Dialect) : Phrase :=
  let renamed := .seq (.role "name" exportName)
    (opt (.seq (word "as") (.role "alias" exportName)))
  .node "export_specifier"
    (if d.hasTypes then
      any [all [words ["type", "typeof"], renamed, .ahead (any [op ",", op "\x7d"])], renamed]
    else renamed)

def exportClause (d : Dialect) : Phrase :=
  .node "export_clause" (all [op "\x7b", inside (trailing (exportSpecifier d)), op "\x7d"])

def namespaceImport : Phrase :=
  .node "namespace_import" (all [sign "*", word "as", name "identifier"])

def importSpecifier (d : Dialect) : Phrase :=
  let renamed := any [
    all [.role "name" exportName, word "as", .role "alias" (name "identifier")],
    .role "name" (name "identifier")]
  .node "import_specifier"
    (if d.hasTypes then
      any [all [words ["type", "typeof"], renamed, .ahead (any [op ",", op "\x7d"])], renamed]
    else renamed)

def importClause (d : Dialect) : Phrase :=
  let named := .node "named_imports"
    (all [op "\x7b", inside (trailing (importSpecifier d)), op "\x7d"])
  .node "import_clause"
    (any [namespaceImport, named,
      .seq (name "identifier") (opt (.seq (op ",") (any [namespaceImport, named])))])

def importStatement (d : Dialect) : Phrase :=
  let clause := any [
    .seq (importClause d) fromSource,
    only d.hasTypes
      (.node "import_require_clause"
        (all [name "identifier", op "=", word "require", op "(", .role "source" string, op ")"])),
    .role "source" string]
  .node "import_statement"
    (all [word "import",
      any [only d.hasTypes (.seq (words ["type", "typeof"]) clause), clause],
      opt (.node "import_attribute" (.seq (word "with") (.call .object))),
      bareSemicolon])

/-- A name for a part of a module. -/
def importAlias : Phrase :=
  .node "import_alias"
    (all [word "import", name "identifier", op "=", nestedName, bareSemicolon])

def exportStatement (d : Dialect) : Phrase :=
  .node "export_statement"
    (any [
      all [leading "export",
        any [
          all [sign "*", fromSource, bareSemicolon],
          all [.node "namespace_export" (all [sign "*", word "as", exportName]), fromSource,
            bareSemicolon],
          all [exportClause d, opt fromSource, bareSemicolon],
          only d.hasTypes
            (any [
              all [word "type", exportClause d, opt fromSource, bareSemicolon],
              .seq (.ahead (word "import")) importAlias,
              all [op "=", .call .expression, semicolon],
              all [word "as", word "namespace", name "identifier", bareSemicolon]])]],
      all [decorators, leading "export",
        any [
          .role "declaration" (.call .declaration),
          .seq (word "default")
            (any [
              .role "declaration" (.call .declaration),
              .seq (.role "value" (.call .expression)) semicolon])]]])

/-! ## Types and namespaces -/

def functionSignature : Phrase :=
  .node "function_signature"
    (all [opt (leading "async"), word "function", .role "name" (name "identifier"),
      .call .signature, any [op ";", bare (.ended true)]])

def interfaceDeclaration : Phrase :=
  .node "interface_declaration"
    (all [word "interface", .role "name" typeName,
      opt (.role "type_parameters" (.call .typeParameters)),
      opt (.node "extends_type_clause"
        (.seq (word "extends") (separated (.role "type" (inside (namedType [])))))),
      .role "body" (objectType "interface_body")])

def typeAlias : Phrase :=
  .node "type_alias_declaration"
    (all [leading "type", .role "name" typeName,
      opt (.role "type_parameters" (.call .typeParameters)), op "=",
      bare (.role "value" (.call .type)), bareSemicolon])

def enumeration : Phrase :=
  let title := .role "name" (.call .propertyName)
  .node "enum_declaration"
    (all [opt (word "const"), word "enum", .role "name" (name "identifier"),
      .role "body" (.node "enum_body"
        (all [op "\x7b",
          inside (trailing (any [.node "enum_assignment" (.seq title initializer), title])),
          op "\x7d"]))])

def namespaceDeclaration : Phrase :=
  let tail := .seq (.role "name" (any [string, nestedName])) (opt (.role "body" (.call .block)))
  any [.node "internal_module" (.seq (leading "namespace") tail),
    .node "module" (.seq (leading "module") tail)]

/-- What is declared to be there. -/
def ambient : Phrase :=
  .node "ambient_declaration"
    (.seq (leading "declare")
      (any [
        .call .declaration,
        .seq (word "global") (.call .block),
        all [word "module", op ".", name "property_identifier", op ":", bare (.call .type),
          bareSemicolon]]))

/-! ## All declarations -/

def declaration (d : Dialect) : Phrase :=
  any [
    functionDeclaration,
    classDeclaration d,
    only d.hasTypes (any [enumeration, abstractClass d, interfaceDeclaration, typeAlias,
      namespaceDeclaration, ambient, importAlias, functionSignature]),
    lexical,
    variableDeclaration]

end ChangeReview.Syntax.Phrase
