import ChangeReview.Proofs.Scan.Evaluation
import ChangeReview.Proofs.Syntax.Comment
import ChangeReview.Scan.Pattern

/-!
# The default catalog on trees with comments put into them

Most patterns of the default catalog look at children by their roles, which comments do not have, so
they report the same nodes. Three look at the first named child, and a comment there silences them.
-/

namespace ChangeReview.Scan

open Syntax Pattern

section

variable {n n' : Node}

/-! ## Parts of nodes -/

/-- What is made of the children in two roles is made of the same children. -/
theorem rel_of_children {β : Type} {rel : β → β → Prop} {absent : β} {f : Node → Node → β}
    (h : n.Commented n') (role role' : String) (habsent : rel absent absent)
    (hf : ∀ a a' b b', a.Commented a' → b.Commented b' → rel (f a b) (f a' b')) :
    rel (match n.child? role, n.child? role' with | some a, some b => f a b | _, _ => absent)
      (match n'.child? role, n'.child? role' with | some a, some b => f a b | _, _ => absent) := by
  have hfirst := h.child? role
  have hsecond := h.child? role'
  generalize n.child? role = a, n'.child? role = a' at hfirst
  generalize n.child? role' = b, n'.child? role' = b' at hsecond
  cases hfirst with
  | none => exact habsent
  | some ha =>
    cases hsecond with
    | none => exact habsent
    | some hb => exact hf _ _ _ _ ha hb

theorem any_eq_of_rel {α : Type} {R : α → α → Prop} {o o' : Option α} {p : α → Bool}
    (h : Option.Rel R o o') (hp : ∀ a a', R a a' → p a' = p a) : o'.any p = o.any p := by
  cases h with
  | none => rfl
  | some h => exact hp _ _ h

/-- The same object and the same property, perhaps with comments in them. -/
def SameParts (p p' : Node × Node) : Prop := p.1.Commented p'.1 ∧ p.2.Commented p'.2

theorem memberParts?_commented (h : n.Commented n') :
    Option.Rel SameParts (memberParts? n) (memberParts? n') := by
  unfold memberParts?
  rw [h.kind_eq]
  split
  · exact rel_of_children h "object" "property" .none fun a a' b b' ha hb ↦ .some ⟨ha, hb⟩
  · exact .none

theorem isIdentifier_commented (name : String) (h : n.Commented n') :
    isIdentifier name n' = isIdentifier name n := by
  rw [isIdentifier, isIdentifier, h.kind_eq, h.text_eq]

theorem hasProperty_commented (name : String) (h : n.Commented n') :
    hasProperty name n' = hasProperty name n :=
  any_eq_of_rel (memberParts?_commented h) fun p p' hp ↦ by rw [hp.2.text_eq]

theorem isStringLiteral_commented (h : n.Commented n') :
    isStringLiteral n' = isStringLiteral n := by
  have hsubstitutions :
      (n'.namedChildren.any fun c ↦ c.kind == "template_substitution") =
        n.namedChildren.any fun c ↦ c.kind == "template_substitution" := by
    rw [Node.namedChildren, Node.namedChildren, List.any_filter, List.any_filter]
    refine h.children.any_eq (fun c c' hc ↦ by rw [hc.named_eq, hc.kind_eq]) fun c hc ↦ ?_
    rw [hc.kind_beq (by decide) (by decide), Bool.and_false]
  rw [isStringLiteral, isStringLiteral, h.kind_eq, hsubstitutions]

/-! ## Tests that look at roles -/

theorem callsFunction_commented (name : String) (h : n.Commented n') :
    callsFunction name n' = callsFunction name n :=
  any_eq_of_rel (h.child? "function") fun _ _ hf ↦ isIdentifier_commented name hf

theorem callsMethod_commented (object : Option String) (method : String) (h : n.Commented n') :
    callsMethod object method n' = callsMethod object method n := by
  have hparts : Option.Rel SameParts ((callee? n).bind memberParts?)
      ((callee? n').bind memberParts?) := by
    have hcallee : Option.Rel Node.Commented (callee? n) (callee? n') := h.child? "function"
    generalize callee? n = f, callee? n' = f' at hcallee
    cases hcallee with
    | none => exact .none
    | some hf => exact memberParts?_commented hf
  unfold callsMethod
  generalize (callee? n).bind memberParts? = p, (callee? n').bind memberParts? = p' at hparts
  cases hparts with
  | none => rfl
  | some hp =>
    cases object with
    | none => simp only [hp.2.text_eq]
    | some name => simp only [hp.2.text_eq, isIdentifier_commented name hp.1]

theorem setsMarkupProperty_commented (h : n.Commented n') :
    setsMarkupProperty n' = setsMarkupProperty n :=
  any_eq_of_rel (h.child? "key") fun _ _ hkey ↦ by rw [hkey.kind_eq, hkey.text_eq]

theorem assignsMarkup_commented (h : n.Commented n') : assignsMarkup n' = assignsMarkup n :=
  any_eq_of_rel (h.child? "left") fun _ _ hleft ↦ hasProperty_commented "innerHTML" hleft

theorem declaresSecret_commented (h : n.Commented n') : declaresSecret n' = declaresSecret n := by
  refine (rel_of_children h "name" "value" rfl fun a a' b b' ha hb ↦ ?_).symm
  rw [ha.kind_eq, ha.text_eq, isStringLiteral_commented hb]

theorem keepsSecret_commented (h : n.Commented n') : keepsSecret n' = keepsSecret n := by
  refine (rel_of_children h "key" "value" rfl fun a a' b b' ha hb ↦ ?_).symm
  rw [keyName?, keyName?, ha.kind_eq, ha.text_eq, isStringLiteral_commented hb]

theorem targetName?_commented (h : n.Commented n') : targetName? n' = targetName? n := by
  have hproperty : (memberParts? n').map (·.2.text) = (memberParts? n).map (·.2.text) := by
    have hparts := memberParts?_commented h
    generalize memberParts? n = p, memberParts? n' = p' at hparts
    cases hparts with
    | none => rfl
    | some hp => exact congrArg some hp.2.text_eq
  rw [targetName?, targetName?, h.kind_eq, h.text_eq, hproperty]

theorem assignsSecret_commented (h : n.Commented n') : assignsSecret n' = assignsSecret n := by
  refine (rel_of_children h "left" "right" rfl fun a a' b b' ha hb ↦ ?_).symm
  rw [targetName?_commented ha, isStringLiteral_commented hb]

theorem readsObjectPrototype_commented (h : n.Commented n') :
    readsObjectPrototype n' = readsObjectPrototype n :=
  any_eq_of_rel (memberParts?_commented h) fun p p' hp ↦ by
    rw [isIdentifier_commented "Object" hp.1, hp.2.text_eq]

/-! ## Tests that look at the first named child -/

/-- A comment is the first argument of a call of a member named `query` or `execute`, or stands
first in a markup attribute. -/
def isVeiled (n : Node) : Bool :=
  (callsMethod none "query" n || callsMethod none "execute" n) &&
      (firstArgument? n).any Node.isComment ||
    n.kind == "jsx_attribute" && n.firstNamed?.any Node.isComment

theorem firstArgument?_commented (h : n.Commented n') :
    Option.Rel Node.Commented (firstArgument? n) (firstArgument? n') ∨
      ∃ c : Node, c.IsComment ∧ firstArgument? n' = some c := by
  have harguments := h.child? "arguments"
  unfold firstArgument?
  generalize n.child? "arguments" = a, n'.child? "arguments" = a' at harguments
  cases harguments with
  | none => exact .inl .none
  | @some a a' ha =>
    simp only [ha.kind_eq]
    split
    · exact ha.firstNamed?
    · exact .inl .none

theorem passesTemplate_commented {method : String} (hmethod : method = "query" ∨ method = "execute")
    (h : n.Commented n') :
    passesTemplate method n' = passesTemplate method n ∨
      isVeiled n' ∧ passesTemplate method n' = false := by
  have hcalls := callsMethod_commented none method h
  rcases firstArgument?_commented h with hargument | ⟨c, hc, hargument⟩
  · left
    rw [passesTemplate, passesTemplate, hcalls,
      any_eq_of_rel hargument fun a a' ha ↦ by rw [ha.kind_eq]]
  · cases hmember : callsMethod none method n with
    | false =>
      left
      rw [passesTemplate, passesTemplate, hcalls, hmember, Bool.false_and, Bool.false_and]
    | true =>
      right
      constructor
      · rw [hmember] at hcalls
        rcases hmethod with rfl | rfl <;>
          simp [isVeiled, hcalls, hargument, hc.kind]
      · rw [passesTemplate, hargument, Option.any_some, hc.kind_beq (by decide) (by decide),
          Bool.and_false]

/-- No comment reads like the property that sets markup. -/
theorem text_ne_dangerousMarkup {c : Node} (hc : c.IsComment) :
    (c.text == dangerousMarkup) = false := by
  have hmarks : ∀ mark ∈ Node.commentMarks, ¬ mark.toList <+: dangerousMarkup.toList := by decide
  obtain ⟨mark, hmark, hprefix⟩ := hc.opens
  rw [beq_eq_false_iff_ne]
  intro htext
  exact hmarks mark hmark (htext ▸ hprefix)

theorem setsMarkupAttribute_commented (hkind : n.kind = "jsx_attribute") (h : n.Commented n') :
    setsMarkupAttribute n' = setsMarkupAttribute n ∨
      isVeiled n' ∧ setsMarkupAttribute n' = false := by
  rcases h.firstNamed? with hname | ⟨c, hc, hname⟩
  · exact .inl (any_eq_of_rel hname fun a a' ha ↦ by rw [ha.text_eq])
  · right
    constructor
    · simp [isVeiled, h.kind_eq, hkind, hname, hc.kind]
    · rw [setsMarkupAttribute, hname, Option.any_some, text_ne_dangerousMarkup hc]

end

/-! ## The patterns of the catalog -/

theorem holds_onNode (kind : String) (test : Node → Bool) (source : String) (n : Node) :
    (onNode kind test).holds source n = .ok (decide (kind = n.kind) && test n) := by
  by_cases hkind : kind = n.kind
  · rw [decide_eq_true hkind, Bool.true_and]
    exact if_pos hkind
  · rw [decide_eq_false hkind, Bool.false_and]
    exact if_neg hkind

theorem accepts_onNode (kind : String) (test : Node → Bool) (source : String) (n : Node) :
    (onNode kind test).accepts source n = (decide (kind = n.kind) && test n) := by
  rw [NodePattern.accepts, holds_onNode]

theorem answers_onNode (kind : String) (test : Node → Bool) (source : String) (n : Node) :
    (onNode kind test).Answers source n := by
  rw [NodePattern.Answers, accepts_onNode, holds_onNode]

/-- A pattern that comments do not change. -/
def NodePattern.IsSteady (p : NodePattern) : Prop :=
  ∀ source source' n n', Node.Commented n n' → p.accepts source' n' = p.accepts source n

/-- A pattern that comments change at veiled nodes only, and there to silence. -/
def NodePattern.IsVeilable (p : NodePattern) : Prop :=
  ∀ source source' n n', Node.Commented n n' →
    p.accepts source' n' = p.accepts source n ∨ isVeiled n' ∧ p.accepts source' n' = false

/-- The entries with patterns that look at the first named child. -/
def veilableKeys : List String := ["sqlInjection", "xss"]

/-- Comments leave a pattern of the default catalog alone, or it belongs to an entry with patterns
that look at the first named child. -/
structure Settled (r : CatalogEntry × NodePattern) : Prop where
  answers : ∀ source n, r.2.Answers source n
  veilable : r.2.IsVeilable
  steady : r.1.key ∉ veilableKeys → r.2.IsSteady

theorem settled_of_steady (e : CatalogEntry) (kind : String) {test : Node → Bool}
    (h : ∀ n n', Node.Commented n n' → test n' = test n) : Settled (e, onNode kind test) := by
  have hsteady : (onNode kind test).IsSteady := by
    intro source source' n n' hcommented
    rw [accepts_onNode, accepts_onNode, hcommented.kind_eq, h n n' hcommented]
  exact ⟨answers_onNode kind test,
    fun source source' n n' hcommented ↦ .inl (hsteady source source' n n' hcommented),
    fun _ ↦ hsteady⟩

theorem settled_of_veilable {e : CatalogEntry} (he : e.key ∈ veilableKeys) {kind : String}
    {test : Node → Bool} (h : ∀ n n', n.kind = kind → Node.Commented n n' →
      test n' = test n ∨ isVeiled n' ∧ test n' = false) : Settled (e, onNode kind test) := by
  refine ⟨answers_onNode kind test, fun source source' n n' hcommented ↦ ?_,
    fun hkey ↦ absurd he hkey⟩
  rw [accepts_onNode, accepts_onNode, hcommented.kind_eq]
  by_cases hkind : kind = n.kind
  · rcases h n n' hkind.symm hcommented with htest | ⟨hveiled, htest⟩
    · exact .inl (by rw [htest])
    · exact .inr ⟨hveiled, by rw [htest, Bool.and_false]⟩
  · exact .inl (by rw [decide_eq_false hkind, Bool.false_and, Bool.false_and])

theorem settled_default : ∀ r ∈ defaultCatalog.rows, Settled r := by
  simp only [Catalog.rows, defaultCatalog, List.flatMap_cons, List.flatMap_nil, List.map_cons,
    List.map_nil, List.cons_append, List.nil_append, List.forall_mem_cons]
  have hcall (e : CatalogEntry) (object : Option String) (method : String) :
      Settled (e, onCall (callsMethod object method)) :=
    settled_of_steady e _ fun n n' ↦ callsMethod_commented object method
  have hfunction (e : CatalogEntry) (name : String) : Settled (e, onCall (callsFunction name)) :=
    settled_of_steady e _ fun n n' ↦ callsFunction_commented name
  have hmember (e : CatalogEntry) (name : String) :
      Settled (e, onNode "member_expression" (hasProperty name)) :=
    settled_of_steady e _ fun n n' ↦ hasProperty_commented name
  exact ⟨
    settled_of_veilable (by decide) fun n n' _ ↦ passesTemplate_commented (.inl rfl),
    settled_of_veilable (by decide) fun n n' _ ↦ passesTemplate_commented (.inr rfl),
    hcall _ _ _, hcall _ _ _, hfunction _ _, hfunction _ _,
    settled_of_steady _ _ fun n n' ↦ setsMarkupProperty_commented,
    settled_of_veilable (by decide) fun n n' ↦ setsMarkupAttribute_commented,
    hcall _ _ _,
    settled_of_steady _ _ fun n n' ↦ assignsMarkup_commented,
    settled_of_steady _ _ fun n n' ↦ declaresSecret_commented,
    settled_of_steady _ _ fun n n' ↦ keepsSecret_commented,
    settled_of_steady _ _ fun n n' ↦ assignsSecret_commented,
    hcall _ _ _,
    settled_of_steady _ _ fun n n' ↦ readsObjectPrototype_commented,
    hmember _ _, hmember _ _, hcall _ _ _, hfunction _ _, List.forall_mem_nil _⟩

/-! ## Reports on the two trees -/

/-- The same key at the same node, perhaps with comments in it. -/
def SameReport (p p' : String × Node) : Prop := p'.1 = p.1 ∧ p.2.Commented p'.2

theorem reportsAt_comment {c : Node} (hc : c.IsComment) (source : String) :
    defaultCatalog.reportsAt source c = [] := by
  have hkinds : ∀ r ∈ defaultCatalog.rows, r.2.kind ≠ "comment" ∧ r.2.kind ≠ "html_comment" := by
    decide
  rw [Catalog.reportsAt, List.map_eq_nil_iff, List.filter_eq_nil_iff]
  intro r hr haccepts
  obtain ⟨hline, hmarkup⟩ := hkinds r hr
  have hkind := hc.kind_beq hline hmarkup
  rw [NodePattern.kind_of_accepts haccepts, beq_self_eq_true] at hkind
  exact absurd hkind (by decide)

/-- Reports that are there after comments have come into the nodes of a tree. Some of those with
veilable keys may be gone, each from a node that is now veiled and among the given ones. -/
inductive Remains (nodes : List Node) : List (String × Node) → List (String × Node) → Prop
  | nil : Remains nodes [] []
  | kept {p p' : String × Node} {ps ps' : List (String × Node)} (same : SameReport p p')
      (rest : Remains nodes ps ps') : Remains nodes (p :: ps) (p' :: ps')
  | lost {p : String × Node} {n' : Node} {ps ps' : List (String × Node)}
      (veilable : p.1 ∈ veilableKeys) (commented : p.2.Commented n') (veiled : isVeiled n')
      (mem : n' ∈ nodes) (rest : Remains nodes ps ps') : Remains nodes (p :: ps) ps'

namespace Remains

variable {nodes : List Node} {a a' b b' : List (String × Node)}

theorem append (ha : Remains nodes a a') (hb : Remains nodes b b') :
    Remains nodes (a ++ b) (a' ++ b') := by
  induction ha with
  | nil => exact hb
  | kept same rest ih => exact .kept same ih
  | lost veilable commented veiled mem rest ih => exact .lost veilable commented veiled mem ih

/-- Where no node is veiled, no report is gone. -/
theorem forall₂_of_unveiled (h : Remains nodes a a') (hnodes : ∀ n ∈ nodes, isVeiled n = false) :
    List.Forall₂ SameReport a a' := by
  induction h with
  | nil => exact .nil
  | kept same rest ih => exact .cons same ih
  | lost veilable commented veiled mem rest ih =>
    rw [hnodes _ mem] at veiled
    exact absurd veiled (by decide)

/-- No report is gone that belongs to an entry with patterns that look at roles only. -/
theorem forall₂_filter (h : Remains nodes a a') :
    List.Forall₂ SameReport (a.filter fun p ↦ p.1 ∉ veilableKeys)
      (a'.filter fun p ↦ p.1 ∉ veilableKeys) := by
  induction h with
  | nil => exact .nil
  | @kept p p' ps ps' same rest ih =>
    rw [List.filter_cons, List.filter_cons, same.1]
    split
    · exact .cons same ih
    · exact ih
  | lost veilable commented veiled mem rest ih =>
    rw [List.filter_cons_of_neg (by simpa using veilable)]
    exact ih

end Remains

section

variable {n n' : Node} (h : n.Commented n') (source source' : String)

include h

/-- Comments put into a node lose it no report but those of patterns that they veil. -/
theorem remains_filter {nodes : List Node} (hmem : n' ∈ nodes)
    {rows : List (CatalogEntry × NodePattern)} (hrows : ∀ r ∈ rows, Settled r) :
    Remains nodes ((rows.filter (·.2.accepts source n)).map fun r ↦ (r.1.key, n))
      ((rows.filter (·.2.accepts source' n')).map fun r ↦ (r.1.key, n')) := by
  induction rows with
  | nil => exact .nil
  | cons r rows ih =>
    obtain ⟨hr, hrest⟩ := List.forall_mem_cons.mp hrows
    have hremains := ih hrest
    rcases hr.veilable source source' n n' h with heq | ⟨hveiled, hsilent⟩
    · rw [List.filter_cons, List.filter_cons, heq]
      split
      · exact .kept ⟨rfl, h⟩ hremains
      · exact hremains
    · have hgone : (r :: rows).filter (·.2.accepts source' n') =
          rows.filter (·.2.accepts source' n') := List.filter_cons_of_neg (by rw [hsilent]; decide)
      rw [hgone, List.filter_cons]
      split
      · next haccepts =>
        -- the patterns of the other entries answer as before
        have hkey : r.1.key ∈ veilableKeys := by
          by_contra hkey
          have hsame := hr.steady hkey source source' n n' h
          rw [haccepts, hsilent] at hsame
          exact absurd hsame (by decide)
        exact .lost (p := (r.1.key, n)) hkey h hveiled hmem hremains
      · exact hremains

end

/-! ## Calls with a template -/

/-- The first argument of a call in parentheses, comments set aside. -/
def plainArgument? (call : Node) : Option Node :=
  match call.child? "arguments" with
  | some args =>
    if args.kind = "arguments" then args.namedChildren.find? (!·.isComment) else none
  | none => none

/-- The template patterns see the first argument that is no comment, or a comment before it. -/
theorem firstArgument?_of_plainArgument? {call first : Node}
    (h : plainArgument? call = some first) :
    firstArgument? call = some first ∨ (firstArgument? call).any Node.isComment := by
  have hfirst (n : Node) : n.firstNamed? = n.namedChildren.head? := List.head?_filter.symm
  unfold plainArgument? at h
  unfold firstArgument?
  generalize call.child? "arguments" = arguments at h ⊢
  cases arguments with
  | none => cases h
  | some args =>
    by_cases hkind : args.kind = "arguments"
    · simp only [hkind, if_true, hfirst] at h ⊢
      generalize args.namedChildren = children at h ⊢
      cases children with
      | nil => cases h
      | cons c cs =>
        rw [List.find?_cons] at h
        rw [List.head?_cons, Option.any_some]
        cases hc : c.isComment with
        | true => exact .inr rfl
        | false => rw [hc] at h; exact .inl h
    · simp only [hkind, if_false] at h
      cases h

theorem any_isTemplate_eq {call first : Node} (h : plainArgument? call = some first)
    (htemplate : first.kind = "template_string") :
    ((firstArgument? call).any fun arg ↦ arg.kind == "template_string") =
      !(firstArgument? call).any Node.isComment := by
  rcases firstArgument?_of_plainArgument? h with hargument | hcomment
  · rw [hargument, Option.any_some, Option.any_some, Node.isComment, htemplate]
    decide
  · cases hargument : firstArgument? call with
    | none => rw [hargument] at hcomment; cases hcomment
    | some c =>
      rw [hargument, Option.any_some] at hcomment
      rw [Option.any_some, Option.any_some, hcomment, Bool.not_true, beq_eq_false_iff_ne]
      rintro hkind
      rw [Node.isComment, hkind] at hcomment
      exact absurd hcomment (by decide)

/-- An entry is among the reports at a node of a tree when it has a pattern that accepts it. -/
theorem Catalog.mem_reports {c : Catalog} {source key : String} {root n : Node} :
    (key, n) ∈ root.preorder.flatMap (c.reportsAt source) ↔
      n ∈ root.preorder ∧ ∃ r ∈ c.rows, r.1.key = key ∧ r.2.accepts source n := by
  simp only [reportsAt, List.mem_flatMap, List.mem_map, List.mem_filter, Prod.mk.injEq]
  constructor
  · rintro ⟨m, hm, r, ⟨hr, haccepts⟩, hkey, rfl⟩
    exact ⟨hm, r, hr, hkey, haccepts⟩
  · rintro ⟨hn, r, hr, hkey, haccepts⟩
    exact ⟨n, hn, r, ⟨hr, haccepts⟩, hkey, rfl⟩

/-- What the injection entry accepts. -/
theorem accepts_sqlInjection {source : String} {call : Node}
    (hkind : call.kind = "call_expression") :
    (∃ r ∈ defaultCatalog.rows, r.1.key = "sqlInjection" ∧ r.2.accepts source call) ↔
      passesTemplate "query" call ∨ passesTemplate "execute" call ∨
        callsMethod (some "mysql") "query" call := by
  simp [Catalog.rows, defaultCatalog, onCall, accepts_onNode, hkind]

/-- Whether a call of a member named `query` or `execute` with a template for its first argument is
reported as an injection depends on whether a comment is before that argument. -/
theorem sqlInjection_mem_reports {call first : Node} (hkind : call.kind = "call_expression")
    (hmember : callsMethod none "query" call ∨ callsMethod none "execute" call)
    (hfirst : plainArgument? call = some first) (htemplate : first.kind = "template_string")
    {source : String} {n : Node} (hn : call ∈ n.preorder) :
    ("sqlInjection", call) ∈ n.preorder.flatMap (defaultCatalog.reportsAt source) ↔
      isVeiled call = false ∨ callsMethod (some "mysql") "query" call := by
  have hcalls : (callsMethod none "query" call || callsMethod none "execute" call) = true := by
    simpa using hmember
  have hmarkup : (call.kind == "jsx_attribute") = false := by
    rw [hkind]
    decide
  have hveiled : isVeiled call = (firstArgument? call).any Node.isComment := by
    rw [isVeiled, hcalls, hmarkup, Bool.true_and, Bool.false_and, Bool.or_false]
  have hpasses : passesTemplate "query" call ∨ passesTemplate "execute" call ↔
      isVeiled call = false := by
    simp only [passesTemplate, Bool.and_eq_true, ← or_and_right, hmember, true_and]
    rw [hveiled, any_isTemplate_eq hfirst htemplate, Bool.not_eq_true']
  rw [Catalog.mem_reports, accepts_sqlInjection hkind, ← or_assoc, hpasses, and_iff_right hn]

/-! ## Reports on whole trees -/

/-- Comments put into a tree add no report. Those they take away are of the entries with patterns
that look at the first named child, at nodes where a comment has come first, and in particular a
call with a template for its first argument is reported unless a comment is before the template.
The findings of the two walks tell the reports. -/
theorem reports_of_commented {tree commented : Node} (h : tree.Commented commented)
    (source source' filename filename' : String) :
    ∃ pairs pairs',
      defaultCatalog.reports source filename tree = .ok pairs ∧
      defaultCatalog.reports source' filename' commented = .ok pairs' ∧
      (∃ findings tally, walk defaultCatalog source filename tree = .ok (findings, tally) ∧
        findings.map (fun f ↦ (f.pattern, f.location)) = pairs.map told) ∧
      (∃ findings tally, walk defaultCatalog source' filename' commented = .ok (findings, tally) ∧
        findings.map (fun f ↦ (f.pattern, f.location)) = pairs'.map told) ∧
      Remains commented.preorder pairs pairs' ∧
      List.Forall₂ SameReport (pairs.filter fun p ↦ p.1 ∉ veilableKeys)
        (pairs'.filter fun p ↦ p.1 ∉ veilableKeys) ∧
      ((∀ n ∈ commented.preorder, isVeiled n = false) → List.Forall₂ SameReport pairs pairs') ∧
      ∀ call ∈ commented.preorder, call.kind = "call_expression" →
        callsMethod none "query" call ∨ callsMethod none "execute" call →
        ∀ first, plainArgument? call = some first → first.kind = "template_string" →
          (("sqlInjection", call) ∈ pairs' ↔
            isVeiled call = false ∨ callsMethod (some "mysql") "query" call) := by
  have hanswers : ∀ r ∈ defaultCatalog.rows, ∀ (source : String) n, r.2.Answers source n :=
    fun r hr source n ↦ (settled_default r hr).answers source n
  have hremains : Remains commented.preorder
      (tree.preorder.flatMap (defaultCatalog.reportsAt source))
      (commented.preorder.flatMap (defaultCatalog.reportsAt source')) :=
    h.preorder.flatMap .nil (fun _ _ _ _ ↦ Remains.append)
      (fun n n' hn hmem ↦ remains_filter hn source source' hmem settled_default)
      (fun c hc ↦ reportsAt_comment hc source')
  exact ⟨_, _, Catalog.reports_eq_ok fun r hr ↦ hanswers r hr source,
    Catalog.reports_eq_ok fun r hr ↦ hanswers r hr source',
    Catalog.walk_tells fun r hr ↦ hanswers r hr source,
    Catalog.walk_tells fun r hr ↦ hanswers r hr source',
    hremains, hremains.forall₂_filter, hremains.forall₂_of_unveiled,
    fun call hcall hkind hmember first hfirst htemplate ↦
      sqlInjection_mem_reports hkind hmember hfirst htemplate hcall⟩

/-! ## A call and a comment -/

/-- A call `db.query(…)` with the given nodes between its parentheses. -/
def queryCall (arguments : List Node) : Node :=
  let token (kind : String) (named : Bool) (role : Option String) (text : String) : Node :=
    .mk kind named role ⟨0, 0⟩ text []
  .mk "call_expression" true none ⟨0, 0⟩ "" [
    .mk "member_expression" true (some "function") ⟨0, 0⟩ "" [
      token "identifier" true (some "object") "db", token "." false none ".",
      token "property_identifier" true (some "property") "query"],
    .mk "arguments" true (some "arguments") ⟨0, 8⟩ "" (
      token "(" false none "(" :: arguments ++ [token ")" false none ")"])]

def template : Node := .mk "template_string" true none ⟨0, 9⟩ "" []

def remark : Node := .mk "comment" true none ⟨0, 9⟩ "/* rows */" []

theorem isComment_remark : remark.IsComment :=
  ⟨rfl, rfl, rfl, rfl, "/*", by decide, by decide⟩

theorem queryCall_commented {arguments arguments' : List Node}
    (h : Node.Interspersed Node.Commented arguments arguments') :
    (queryCall arguments).Commented (queryCall arguments') := by
  have hleaf (kind : String) (named : Bool) (role : Option String) (text : String) :
      Node.Commented (.mk kind named role ⟨0, 0⟩ text []) (.mk kind named role ⟨0, 0⟩ text []) :=
    .mk .nil
  have hmember := Node.Interspersed.cons (hleaf "identifier" true (some "object") "db")
    (.cons (hleaf "." false none ".")
      (.cons (hleaf "property_identifier" true (some "property") "query") .nil))
  have harguments := Node.Interspersed.cons (hleaf "(" false none "(")
    (h.append (.cons (hleaf ")" false none ")") .nil))
  exact .mk (.cons (.mk hmember) (.cons (.mk harguments) .nil))

/-- A comment after the template leaves the report of the injection. -/
theorem reports_comment_after_template :
    (queryCall [template]).Commented (queryCall [template, remark]) ∧
      ∃ pairs pairs',
        defaultCatalog.reports "" "a.js" (queryCall [template]) = .ok pairs ∧
        defaultCatalog.reports "" "a.js" (queryCall [template, remark]) = .ok pairs' ∧
        List.Forall₂ SameReport pairs pairs' ∧
        ("sqlInjection", queryCall [template, remark]) ∈ pairs' := by
  have hcommented : (queryCall [template]).Commented (queryCall [template, remark]) :=
    queryCall_commented (.cons (.mk .nil) (.comment isComment_remark .nil))
  obtain ⟨pairs, pairs', hpairs, hpairs', -, -, -, -, hsame, hcalls⟩ :=
    reports_of_commented hcommented "" "" "a.js" "a.js"
  refine ⟨hcommented, pairs, pairs', hpairs, hpairs', hsame (by decide), ?_⟩
  have hmem : queryCall [template, remark] ∈ (queryCall [template, remark]).preorder := by
    rw [Node.preorder_eq]
    exact List.mem_cons_self
  exact (hcalls _ hmem rfl (.inl rfl) template rfl rfl).mpr (.inl rfl)

/-- A comment before the template silences the report. -/
theorem reports_comment_before_template :
    (queryCall [template]).Commented (queryCall [remark, template]) ∧
      plainArgument? (queryCall [remark, template]) = some template ∧
      defaultCatalog.reports "" "a.js" (queryCall [template]) =
        .ok [("sqlInjection", queryCall [template])] ∧
      defaultCatalog.reports "" "a.js" (queryCall [remark, template]) = .ok [] := by
  refine ⟨queryCall_commented (.comment isComment_remark (.cons (.mk .nil) .nil)), rfl, rfl, rfl⟩

end ChangeReview.Scan
