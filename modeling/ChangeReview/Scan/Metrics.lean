import ChangeReview.Finding
import ChangeReview.Number.Binary64
import ChangeReview.Syntax.Node
import ChangeReview.Text.Lines

/-!
# Measures of a syntax tree

Counts of functions, loops and branches, the depth of nesting, and the complexity per function.
The complexity is a quotient of doubles rounded to an integer, halves up.
-/

namespace ChangeReview.Scan

open Syntax

/-- The kinds that are functions. -/
def functionKinds : List String := [
  "function_declaration", "function_expression", "arrow_function", "method_definition",
  "generator_function_declaration", "generator_function"]

/-- The kinds that are loops. -/
def loopKinds : List String :=
  ["for_statement", "for_in_statement", "while_statement", "do_statement"]

/-- The kinds that are branches. -/
def branchKinds : List String := ["if_statement", "switch_case"]

/-- The kind of a conditional expression. -/
def conditionalKind : String := "ternary_expression"

/-- The kinds whose children are nested one level deeper. -/
def nestingKinds : List String := [
  "if_statement", "for_statement", "for_in_statement", "while_statement", "do_statement",
  "switch_statement", "try_statement", "catch_clause"]

def opensNesting (kind : String) : Bool := nestingKinds.contains kind

/-- What has been counted. Units are what complexity is made of. -/
structure Tally where
  units : Nat
  functions : Nat
  loops : Nat
  branches : Nat
  nestingDepth : Nat
  deriving DecidableEq, Repr

namespace Tally

def zero : Tally := ⟨0, 0, 0, 0, 0⟩

/-- Count the kind of a named node. -/
def count (t : Tally) (kind : String) : Tally :=
  if functionKinds.contains kind then
    { t with functions := t.functions + 1, units := t.units + 1 }
  else if loopKinds.contains kind then { t with loops := t.loops + 1, units := t.units + 1 }
  else if branchKinds.contains kind then
    { t with branches := t.branches + 1, units := t.units + 1 }
  else if kind = conditionalKind then { t with units := t.units + 1 }
  else t

/-- Take a nesting construct below `depth` others into account. -/
def deepen (t : Tally) (kind : String) (depth : Nat) : Tally :=
  if opensNesting kind then { t with nestingDepth := max t.nestingDepth (depth + 1) } else t

/-- Count one node below `depth` nesting constructs. -/
def visit (t : Tally) (n : Node) (depth : Nat) : Tally :=
  if n.named then (t.count n.kind).deepen n.kind depth else t

/-- A quotient of natural numbers: divided as doubles, then rounded with halves up. -/
def roundedQuotient (num den : Nat) : Nat :=
  match (Binary64.ofNat num).div? (Binary64.ofNat den) with
  | some q => q.round.toNat
  | none => 0

/-- The complexity per function. -/
def complexity (t : Tally) : Nat := roundedQuotient t.units (max 1 t.functions)

/-- The measures of a file with this text. -/
def metrics (t : Tally) (content : String) : CodeMetrics :=
  ⟨t.functions, t.loops, t.branches, t.nestingDepth, Text.lineCount content⟩

end Tally

end ChangeReview.Scan
