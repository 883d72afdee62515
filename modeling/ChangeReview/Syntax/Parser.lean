import ChangeReview.Syntax.Grammar.Expression
import ChangeReview.Syntax.Grammar.Markup
import ChangeReview.Syntax.Grammar.Statement

/-!
# Parsing

The grammar of each dialect, and the parsers that read whole texts with them.
-/

namespace ChangeReview.Syntax

namespace Symbol

/-- What a symbol reads in a dialect. -/
def rule (d : Dialect) : Symbol → Phrase
  | program => Phrase.program
  | statement => Phrase.statement d
  | block => Phrase.block
  | declaration => Phrase.declaration d
  | declarator => Phrase.declarator d
  | expressions => Phrase.expressions
  | expression => Phrase.expression d
  | disjunction => Phrase.operatorsFrom 1
  | conjunction => Phrase.operatorsFrom 2
  | bitOr => Phrase.operatorsFrom 3
  | bitXor => Phrase.operatorsFrom 4
  | bitAnd => Phrase.operatorsFrom 5
  | equality => Phrase.operatorsFrom 6
  | relation => Phrase.operatorsFrom 7
  | shift => Phrase.operatorsFrom 8
  | sum => Phrase.operatorsFrom 9
  | product => Phrase.operatorsFrom 10
  | power => Phrase.operatorsFrom 11
  | awaited => Phrase.awaited d
  | operand => Phrase.operand d
  | access => Phrase.access d
  | primary => Phrase.primary d
  | constructed => Phrase.constructed
  | newExpression => Phrase.newExpression d
  | arrow => Phrase.arrow d
  | parenthesized => Phrase.parenthesized d
  | arguments => Phrase.arguments
  | templateString => Phrase.templateString
  | array => Phrase.array
  | object => Phrase.object
  | functionValue => Phrase.functionValue
  | classValue => Phrase.classValue d
  | classBody => Phrase.classBody d
  | decorator => Phrase.decorator d
  | method => Phrase.method d
  | propertyName => Phrase.propertyName
  | pattern => Phrase.pattern d
  | element => Phrase.element
  | destructuring => Phrase.destructuring d
  | parameters => Phrase.parameters
  | parameter => Phrase.parameter d
  | signature => Phrase.signature d
  | markup => Phrase.markup d
  | tagHead => Phrase.tagHead d
  | type => Phrase.type
  | typePart => Phrase.typePart
  | typeArguments => Phrase.typeArguments
  | typeParameters => Phrase.typeParameters
  | objectType => Phrase.objectType "object_type"
  | typeMember => Phrase.typeMember

end Symbol

namespace Grammar

/-- The grammar of a dialect. -/
def ofDialect (d : Dialect) : Grammar Symbol :=
  ⟨d.hasTypes, Symbol.ctorIdx, Symbol.all.length, (Symbol.all.map (Symbol.rule d)).toArray⟩

def javaScript : Grammar Symbol := ofDialect .javaScript

def typeScript : Grammar Symbol := ofDialect .typeScript

def tsx : Grammar Symbol := ofDialect .tsx

theorem rule_ofDialect (d : Dialect) (s : Symbol) : (ofDialect d).rule s = s.rule d := by
  simp [rule, ofDialect, Symbol.getElem?_all]

end Grammar

/-- The parser of each dialect. -/
def grammars : Grammars
  | .javaScript => Grammar.javaScript.tree? .program
  | .typeScript => Grammar.typeScript.tree? .program
  | .tsx => Grammar.tsx.tree? .program

end ChangeReview.Syntax
