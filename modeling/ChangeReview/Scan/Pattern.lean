import ChangeReview.Scan.Catalog
import ChangeReview.Text.Folding
import ChangeReview.Text.Search

/-!
# The default catalog

What dangerous code looks like in a tree: calls and properties by name, secrets by the name they
are given to. Names count as they are written in the source. Parentheses, casts and the like are
nodes of their own and are never looked through.
-/

namespace ChangeReview.Scan

open Syntax

namespace Pattern

/-! ## Parts of nodes -/

def callee? (call : Node) : Option Node := call.child? "function"

/-- Object and property of a member access. -/
def memberParts? (n : Node) : Option (Node × Node) :=
  if n.kind = "member_expression" then
    match n.child? "object", n.child? "property" with
    | some object, some property => some (object, property)
    | _, _ => none
  else none

/-- The first argument of a call in parentheses. A comment counts as an argument. -/
def firstArgument? (call : Node) : Option Node :=
  match call.child? "arguments" with
  | some args => if args.kind = "arguments" then args.firstNamed? else none
  | none => none

def isIdentifier (name : String) (n : Node) : Bool := n.kind == "identifier" && n.text == name

/-- A call of a method by name, on an object of the given name or on any. -/
def callsMethod (object : Option String) (method : String) (call : Node) : Bool :=
  match (callee? call).bind memberParts? with
  | some (receiver, property) =>
    property.text == method &&
      match object with
      | some name => isIdentifier name receiver
      | none => true
  | none => false

/-- A call of a function by name. -/
def callsFunction (name : String) (call : Node) : Bool := (callee? call).any (isIdentifier name)

/-- A member access with a property of the given name. -/
def hasProperty (name : String) (n : Node) : Bool := (memberParts? n).any fun p => p.2.text == name

/-- A string, or a template without substitutions. -/
def isStringLiteral (n : Node) : Bool :=
  n.kind == "string" ||
    (n.kind == "template_string" &&
      !n.namedChildren.any fun c => c.kind == "template_substitution")

/-- The words that make a name the name of a secret. -/
def secretWords : List (List Char) :=
  ["key".toList, "token".toList, "secret".toList, "password".toList]

def isSecretName (name : String) : Bool :=
  Text.someSuffix (fun s => secretWords.any fun w => Text.startsFolded w s) name.toList

/-- A text without the quotes at its ends. -/
def withoutQuotes (s : String) : String :=
  let isQuote := fun c => c == '"' || c == '\''
  String.ofList ((s.toList.dropWhile isQuote).reverse.dropWhile isQuote).reverse

/-- The name that a property key spells. -/
def keyName? (key : Node) : Option String :=
  if key.kind = "property_identifier" ∨ key.kind = "identifier" then some key.text
  else if key.kind = "string" then some (withoutQuotes key.text)
  else none

/-! ## Tests -/

/-- A call of a method whose first argument is a template. -/
def passesTemplate (method : String) (call : Node) : Bool :=
  callsMethod none method call &&
    (firstArgument? call).any fun arg => arg.kind == "template_string"

/-- The property that sets markup. -/
def dangerousMarkup : String := "dangerouslySetInnerHTML"

def setsMarkupProperty (pair : Node) : Bool :=
  (pair.child? "key").any fun key =>
    key.kind == "property_identifier" && key.text == dangerousMarkup

def setsMarkupAttribute (markup : Node) : Bool :=
  markup.firstNamed?.any fun name => name.text == dangerousMarkup

def assignsMarkup (assignment : Node) : Bool :=
  (assignment.child? "left").any (hasProperty "innerHTML")

def declaresSecret (declarator : Node) : Bool :=
  match declarator.child? "name", declarator.child? "value" with
  | some name, some value =>
    name.kind == "identifier" && isSecretName name.text && isStringLiteral value
  | _, _ => false

def keepsSecret (pair : Node) : Bool :=
  match pair.child? "key", pair.child? "value" with
  | some key, some value => (keyName? key).any isSecretName && isStringLiteral value
  | _, _ => false

/-- The name that an assignment writes to. -/
def targetName? (left : Node) : Option String :=
  if left.kind = "identifier" then some left.text
  else (memberParts? left).map fun p => p.2.text

def assignsSecret (assignment : Node) : Bool :=
  match assignment.child? "left", assignment.child? "right" with
  | some left, some right => (targetName? left).any isSecretName && isStringLiteral right
  | _, _ => false

def readsObjectPrototype (member : Node) : Bool :=
  (memberParts? member).any fun p => isIdentifier "Object" p.1 && p.2.text == "prototype"

/-- A pattern whose test looks at nothing but the node and always answers. -/
def onNode (kind : String) (test : Node → Bool) : NodePattern := ⟨kind, fun n _ => .ok (test n)⟩

def onCall (test : Node → Bool) : NodePattern := onNode "call_expression" test

end Pattern

open Pattern

/-- The catalog used unless another is given. -/
def defaultCatalog : Catalog := [
  { key := "sqlInjection"
    vulnerability := .sqlInjection
    severity := .critical
    cwe := "CWE-89"
    patterns := [
      onCall (passesTemplate "query"),
      onCall (passesTemplate "execute"),
      onCall (callsMethod (some "mysql") "query")] },
  { key := "commandInjection"
    vulnerability := .commandInjection
    severity := .critical
    cwe := "CWE-78"
    patterns := [
      onCall (callsMethod (some "child_process") "exec"),
      onCall (callsFunction "exec"),
      onCall (callsFunction "spawn")] },
  { key := "xss"
    vulnerability := .crossSiteScripting
    severity := .high
    cwe := "CWE-79"
    patterns := [
      onNode "pair" setsMarkupProperty,
      onNode "jsx_attribute" setsMarkupAttribute,
      onCall (callsMethod none "innerHTML"),
      onNode "assignment_expression" assignsMarkup] },
  { key := "hardcodedSecrets"
    vulnerability := .hardcodedCredentials
    severity := .high
    cwe := "CWE-798"
    patterns := [
      onNode "variable_declarator" declaresSecret,
      onNode "pair" keepsSecret,
      onNode "assignment_expression" assignsSecret] },
  { key := "insecureRandom"
    vulnerability := .weakRandomness
    severity := .medium
    cwe := "CWE-338"
    patterns := [onCall (callsMethod (some "Math") "random")] },
  { key := "prototypePollution"
    vulnerability := .prototypePollution
    severity := .high
    cwe := "CWE-1321"
    patterns := [
      onNode "member_expression" readsObjectPrototype,
      onNode "member_expression" (hasProperty "__proto__"),
      onNode "member_expression" (hasProperty "constructor")] },
  { key := "insecureDeserialization"
    vulnerability := .insecureDeserialization
    severity := .high
    cwe := "CWE-502"
    patterns := [
      onCall (callsMethod (some "JSON") "parse"),
      onCall (callsFunction "eval")] }]

end ChangeReview.Scan
