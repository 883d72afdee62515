import Mathlib.Data.List.Forall2
import Mathlib.Data.Option.Basic
import ChangeReview.Proofs.Syntax.Address
import ChangeReview.Syntax.Place

/-!
# Comments put into a tree

A tree with comments put anywhere among the children of its nodes. Comments have no role, so what
a role leads to stays, and the nodes of the tree keep their order. Only the first named child can
change, and only to a comment.
-/

namespace ChangeReview.Syntax

namespace Node

/-- The texts that open a comment. -/
def commentMarks : List String := ["//", "/*", "<!", "--"]

/-- A comment as a reader puts it into a tree: a named leaf in no role. -/
structure IsComment (n : Node) : Prop where
  kind : n.isComment
  named : n.named
  role : n.role = none
  leaf : n.children = []
  opens : ∃ mark ∈ commentMarks, mark.toList <+: n.text.toList

theorem IsComment.kind_beq {c : Node} (h : c.IsComment) {kind : String} (hline : kind ≠ "comment")
    (hmarkup : kind ≠ "html_comment") : (c.kind == kind) = false := by
  have hkind := h.kind
  simp only [isComment, Bool.or_eq_true, beq_iff_eq] at hkind
  rw [beq_eq_false_iff_ne]
  rcases hkind with hkind | hkind
  · exact hkind ▸ hline.symm
  · exact hkind ▸ hmarkup.symm

/-- Trees with comments put between them, every tree replaced by a related one. -/
inductive Interspersed (R : Node → Node → Prop) : List Node → List Node → Prop
  | nil : Interspersed R [] []
  | cons {n n' : Node} {ns ns' : List Node} (related : R n n') (rest : Interspersed R ns ns') :
      Interspersed R (n :: ns) (n' :: ns')
  | comment {c : Node} {ns ns' : List Node} (isComment : c.IsComment)
      (rest : Interspersed R ns ns') : Interspersed R ns (c :: ns')

/-- A tree with comments put anywhere among the children of its nodes. Positions may move. -/
inductive Commented : Node → Node → Prop
  | mk {kind : String} {named : Bool} {role : Option String} {start start' : Position}
      {text : String} {children children' : List Node}
      (interspersed : Interspersed Commented children children') :
      Commented (.mk kind named role start text children) (.mk kind named role start' text children')

namespace Commented

variable {n n' : Node} (h : Commented n n')

include h

theorem kind_eq : n'.kind = n.kind := by
  cases h
  rfl

theorem named_eq : n'.named = n.named := by
  cases h
  rfl

theorem role_eq : n'.role = n.role := by
  cases h
  rfl

theorem text_eq : n'.text = n.text := by
  cases h
  rfl

theorem children : Interspersed Commented n.children n'.children := by
  cases h with
  | mk interspersed => exact interspersed

end Commented

namespace Interspersed

variable {R : Node → Node → Prop} {ns ns' ms ms' : List Node} {p : Node → Bool}

theorem append (h : Interspersed R ns ns') (h' : Interspersed R ms ms') :
    Interspersed R (ns ++ ms) (ns' ++ ms') := by
  induction h with
  | nil => exact h'
  | cons related rest ih => exact .cons related ih
  | comment isComment rest ih => exact .comment isComment ih

/-- A search that passes over comments finds related nodes. -/
theorem find? (h : Interspersed R ns ns') (hR : ∀ n n', R n n' → p n' = p n)
    (hp : ∀ c : Node, c.IsComment → p c = false) : Option.Rel R (ns.find? p) (ns'.find? p) := by
  induction h with
  | nil => exact .none
  | @cons n n' ns ns' related rest ih =>
    rw [List.find?_cons, List.find?_cons, hR n n' related]
    cases p n with
    | true => exact .some related
    | false => exact ih
  | comment isComment rest ih =>
    rw [List.find?_cons_of_neg (by rw [hp _ isComment]; decide)]
    exact ih

/-- A search that may stop at comments finds related nodes, or a comment. -/
theorem find?_or (h : Interspersed R ns ns') (hR : ∀ n n', R n n' → p n' = p n) :
    Option.Rel R (ns.find? p) (ns'.find? p) ∨ ∃ c : Node, c.IsComment ∧ ns'.find? p = some c := by
  induction h with
  | nil => exact .inl .none
  | @cons n n' ns ns' related rest ih =>
    rw [List.find?_cons, List.find?_cons, hR n n' related]
    cases p n with
    | true => exact .inl (.some related)
    | false => exact ih
  | @comment c ns ns' isComment rest ih =>
    rw [List.find?_cons]
    cases hc : p c with
    | true => exact .inr ⟨c, isComment, rfl⟩
    | false => exact ih

/-- What no comment has, some of the nodes have if some of the related ones have it. -/
theorem any_eq (h : Interspersed R ns ns') (hR : ∀ n n', R n n' → p n' = p n)
    (hp : ∀ c : Node, c.IsComment → p c = false) : ns'.any p = ns.any p := by
  induction h with
  | nil => rfl
  | @cons n n' ns ns' related rest ih => rw [List.any_cons, List.any_cons, hR n n' related, ih]
  | comment isComment rest ih => rw [List.any_cons, hp _ isComment, Bool.false_or, ih]

/-- What is gathered from related nodes is related as a whole, when a comment gives nothing. -/
theorem flatMap {α : Type} {rel : List α → List α → Prop} {f : Node → List α}
    (h : Interspersed R ns ns') (hnil : rel [] [])
    (happend : ∀ a a' b b', rel a a' → rel b b' → rel (a ++ b) (a' ++ b'))
    (hR : ∀ n n', R n n' → n' ∈ ns' → rel (f n) (f n'))
    (hf : ∀ c : Node, c.IsComment → f c = []) : rel (ns.flatMap f) (ns'.flatMap f) := by
  induction h with
  | nil => exact hnil
  | @cons n n' ns ns' related rest ih =>
    rw [List.flatMap_cons, List.flatMap_cons]
    exact happend _ _ _ _ (hR n n' related List.mem_cons_self)
      (ih fun m m' hm hmem ↦ hR m m' hm (List.mem_cons_of_mem n' hmem))
  | @comment c ns ns' isComment rest ih =>
    rw [List.flatMap_cons, hf c isComment, List.nil_append]
    exact ih fun m m' hm hmem ↦ hR m m' hm (List.mem_cons_of_mem c hmem)

theorem preorderAll (h : Interspersed R ns ns')
    (hR : ∀ n ∈ ns, ∀ n', R n n' → Interspersed R n.preorder n'.preorder) :
    Interspersed R (preorderAll ns) (preorderAll ns') := by
  induction h with
  | nil => exact .nil
  | @cons n n' ns ns' related rest ih =>
    rw [Node.preorderAll, Node.preorderAll]
    exact (hR n List.mem_cons_self n' related).append
      (ih fun m hm ↦ hR m (List.mem_cons_of_mem n hm))
  | @comment c ns ns' isComment rest ih =>
    rw [Node.preorderAll, preorder_eq c, isComment.leaf, Node.preorderAll]
    exact .comment isComment (ih hR)

end Interspersed

/-- The nodes of a tree with comments put into it are those of the tree, in their order, with
comments between them. -/
theorem Commented.preorder {n n' : Node} (h : Commented n n') :
    Interspersed Commented n.preorder n'.preorder := by
  induction n using induction_children generalizing n' with
  | step n ih =>
    rw [preorder_eq, preorder_eq n']
    exact .cons h (h.children.preorderAll fun c hc c' hcommented ↦ ih c hc hcommented)

/-- A role leads to the same child. -/
theorem Commented.child? {n n' : Node} (h : Commented n n') (role : String) :
    Option.Rel Commented (n.child? role) (n'.child? role) := by
  refine h.children.find? (fun c c' hc ↦ by rw [hc.role_eq]) fun c hc ↦ ?_
  rw [hc.role]
  rfl

/-- The first named child is the same, or a comment has come before it. -/
theorem Commented.firstNamed? {n n' : Node} (h : Commented n n') :
    Option.Rel Commented n.firstNamed? n'.firstNamed? ∨
      ∃ c : Node, c.IsComment ∧ n'.firstNamed? = some c :=
  h.children.find?_or fun _ _ hc ↦ hc.named_eq

end Node

end ChangeReview.Syntax
