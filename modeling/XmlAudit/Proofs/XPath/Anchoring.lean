import XmlAudit.Proofs.XPath.Faults
import XmlAudit.Proofs.XPath.Validity
import XmlAudit.Proofs.XPath.Walking

/-!
# What patterns select from the root

* `CanWalk`, `Reaches`: whether steps can be taken from a node, and where they lead.
* `exists_walk_iff`, `mem_walk`: a walk from several nodes goes wherever one from each of them does.
* `Expr.fixed`, `Expr.eval_eq_of_fixed`: expressions that have one value at all nodes.
* `Expr.branches`, `Expr.Matches`: of what a pattern is the union, and which nodes match it.
* `Expr.anchor?_selects`: what each branch adds to what a pattern selects from the root.
* `compilePattern_selects`: what a compiled pattern selects from the root, and when these are all
  matching nodes.

A filtered expression such as `(b)/c` is evaluated at the root only, and so finds a matching node that
is further down just if the expression in parentheses does not depend on where it is evaluated.
-/

namespace XmlAudit.XPath

open Xml (Document)
open Xml.Document (root)

variable {c : Context} {n m : Node}

/-! ## Walks -/

/-- Steps can be taken from a node, and from all nodes on the way. -/
def CanWalk (c : Context) : List Step → Node → Prop
  | [], _ => True
  | s :: rest, n => ∃ reached, s.from c n = .ok reached ∧ ∀ k ∈ reached, CanWalk c rest k

/-- Steps lead from one node to another. -/
def Reaches (c : Context) : List Step → Node → Node → Prop
  | [], n, m => m = n
  | s :: rest, n, m => ∃ reached, s.from c n = .ok reached ∧ ∃ k ∈ reached, Reaches c rest k m

/-- **A walk succeeds if it does from each node** where it starts. -/
theorem exists_walk_iff {steps : List Step} {ns : List Node} :
    (∃ out, walk c steps ns = .ok out) ↔ ∀ n ∈ ns, CanWalk c steps n := by
  -- behind each step the walk goes on from all nodes reached, whichever node they were reached from
  induction steps generalizing ns with
  | nil =>
    rw [walk]
    exact ⟨fun _ _ _ => trivial, fun _ => ⟨ns, rfl⟩⟩
  | cons s rest ih =>
    rw [walk]
    constructor
    · rintro ⟨out, h⟩ n hn
      obtain ⟨groups, hgroups, h⟩ := bind_eq_ok.1 h
      obtain ⟨reached, hreached, hfrom⟩ := exists_right_of_forall₂ (mapM_eq_ok.1 hgroups) hn
      refine ⟨reached, hfrom, fun k hk => ih.1 ⟨out, h⟩ k ?_⟩
      exact mem_inOrder.2 (List.mem_flatten.2 ⟨reached, hreached, hk⟩)
    · intro h
      obtain ⟨groups, hgroups⟩ := exists_mapM_iff.2 fun n hn =>
        (h n hn).imp fun _ hreached => hreached.1
      obtain ⟨out, hout⟩ := ih.2 fun k hk => by
        obtain ⟨group, hgroup, hk⟩ := List.mem_flatten.1 (mem_inOrder.1 hk)
        obtain ⟨n, hn, hfrom⟩ := exists_left_of_forall₂ (mapM_eq_ok.1 hgroups) hgroup
        obtain ⟨reached, hreached, hwalk⟩ := h n hn
        obtain rfl : reached = group := Except.ok.inj (hreached.symm.trans hfrom)
        exact hwalk k hk
      exact ⟨out, bind_eq_ok.2 ⟨groups, hgroups, hout⟩⟩

/-- **A walk leads wherever it does from one of the nodes** where it starts. -/
theorem mem_walk {steps : List Step} {ns out : List Node} (h : walk c steps ns = .ok out) :
    m ∈ out ↔ ∃ n ∈ ns, Reaches c steps n m := by
  induction steps generalizing ns with
  | nil =>
    rw [walk] at h
    cases h
    exact ⟨fun hm => ⟨m, hm, rfl⟩, fun ⟨n, hn, hnm⟩ => hnm ▸ hn⟩
  | cons s rest ih =>
    rw [walk] at h
    obtain ⟨groups, hgroups, h⟩ := bind_eq_ok.1 h
    have hall := mapM_eq_ok.1 hgroups
    rw [ih h]
    constructor
    · rintro ⟨k, hk, hreach⟩
      obtain ⟨group, hgroup, hk⟩ := List.mem_flatten.1 (mem_inOrder.1 hk)
      obtain ⟨n, hn, hfrom⟩ := exists_left_of_forall₂ hall hgroup
      exact ⟨n, hn, group, hfrom, k, hk, hreach⟩
    · rintro ⟨n, hn, reached, hreached, k, hk, hreach⟩
      obtain ⟨group, hgroup, hfrom⟩ := exists_right_of_forall₂ hall hn
      obtain rfl : reached = group := Except.ok.inj (hreached.symm.trans hfrom)
      exact ⟨k, mem_inOrder.2 (List.mem_flatten.2 ⟨reached, hgroup, hk⟩), hreach⟩

/-- From the root, the step between two slashes leads to every node of the tree. -/
theorem anyDepth_from_root (hd : c.document.Sound) :
    Step.anyDepth.from c rootNode = .ok ((List.range c.document.size).map .tree) := by
  -- the numbers of the nodes are those of a walk over the tree
  have hall : root :: c.document.descendants root = List.range c.document.size :=
    (hd.preorderWithin_eq (rootNode_inside hd) (Nat.le_add_right _ _)).symm.trans hd.preorder_root
  have halong : rootNode.along c.document .descendantOrSelf =
      (List.range c.document.size).map .tree := by
    rw [← hall]
    rfl
  have hpasses : ∀ k ∈ (List.range c.document.size).map Node.tree,
      k.satisfies c.document c.namespaces .descendantOrSelf .node = .ok true := by
    intro k hk
    obtain ⟨a, -, rfl⟩ := List.mem_map.1 hk
    rfl
  rw [Step.anyDepth, Step.from, candidates, halong, filterM_eq_ok hpasses, List.filter_true]
  exact bind_eq_ok.2 ⟨_, rfl, by rw [keepAll]⟩

theorem canWalk_anyDepth (hd : c.document.Sound) {steps : List Step} :
    CanWalk c (.anyDepth :: steps) rootNode ↔ ∀ a < c.document.size, CanWalk c steps (.tree a) := by
  rw [CanWalk]
  simp [anyDepth_from_root hd]

theorem reaches_anyDepth (hd : c.document.Sound) {steps : List Step} :
    Reaches c (.anyDepth :: steps) rootNode m ↔
      ∃ a < c.document.size, Reaches c steps (.tree a) m := by
  rw [Reaches]
  simp [anyDepth_from_root hd]

/-! ## Expressions that look at no node -/

/-- Whether a function with a number of arguments looks at the focus. -/
def Function.readsFocus (count : Nat) : Function → Bool
  | last | position => Bool.true
  | localName | namespaceUri | name | string | stringLength | normalizeSpace | number =>
    decide (count = 0)
  | _ => Bool.false

mutual

/-- Whether an expression has one value at all nodes: it has no relative path and no function that
looks at the focus, but in predicates and on from nodes that do not depend on it. -/
def Expr.fixed : Expr → Bool
  | .or left right => left.fixed && right.fixed
  | .and left right => left.fixed && right.fixed
  | .compare _ left right => left.fixed && right.fixed
  | .arithmetic _ left right => left.fixed && right.fixed
  | .negate operand => operand.fixed
  | .union left right => left.fixed && right.fixed
  | .path absolute _ => absolute
  | .filter primary _ _ => primary.fixed
  | .literal _ => true
  | .number _ => true
  | .variable _ => true
  | .call f arguments => !f.readsFocus arguments.length && allFixed arguments

/-- Whether expressions have one value at all nodes. -/
def allFixed : List Expr → Bool
  | [] => true
  | e :: es => e.fixed && allFixed es

end

theorem Function.apply_eq_of_not_readsFocus {f : Function} {args : List Value}
    (h : f.readsFocus args.length = Bool.false) (focus focus' : Focus) :
    f.apply c focus args = f.apply c focus' args := by
  cases f with
  | last | position => cases h
  | localName | namespaceUri | name | string | stringLength | normalizeSpace | number =>
    cases args with
    | nil => cases h
    | cons v later => rfl
  | _ =>
    -- no function looks behind its third argument
    rcases args with _ | ⟨v, _ | ⟨w, _ | ⟨x, later⟩⟩⟩ <;> rfl

mutual

/-- **An expression that looks at no node** has one value at all nodes. -/
theorem Expr.eval_eq_of_fixed : ∀ (e : Expr), e.fixed → ∀ focus focus' : Focus,
    e.eval c focus = e.eval c focus'
  | .or left right, h, focus, focus' | .and left right, h, focus, focus'
  | .compare _ left right, h, focus, focus' | .arithmetic _ left right, h, focus, focus'
  | .union left right, h, focus, focus' => by
    rw [Expr.fixed, Bool.and_eq_true] at h
    rw [Expr.eval, Expr.eval, left.eval_eq_of_fixed h.1 focus focus',
      right.eval_eq_of_fixed h.2 focus focus']
  | .negate operand, h, focus, focus' => by
    rw [Expr.fixed] at h
    rw [Expr.eval, Expr.eval, operand.eval_eq_of_fixed h focus focus']
  | .path absolute steps, h, focus, focus' => by
    obtain rfl : absolute = true := h
    rw [Expr.eval, Expr.eval]
    rfl
  | .filter primary predicates steps, h, focus, focus' => by
    rw [Expr.fixed] at h
    rw [Expr.eval, Expr.eval, primary.eval_eq_of_fixed h focus focus']
  | .literal _, _, focus, focus' | .number _, _, focus, focus' | .variable _, _, focus, focus' => by
    rw [Expr.eval, Expr.eval]
  | .call f arguments, h, focus, focus' => by
    rw [Expr.fixed, Bool.and_eq_true, Bool.not_eq_true'] at h
    rw [Expr.eval, Expr.eval, evalEach_eq_of_fixed arguments h.2 focus focus']
    cases hvalues : f.collect (evalEach c arguments focus') with
    | error fault => rfl
    | ok values =>
      -- there are as many values as arguments, and so some if the function needs one in place of the focus
      have hlength := (Function.collect_eq_ok hvalues).length_eq
      exact Function.apply_eq_of_not_readsFocus (hlength ▸ h.1) focus focus'

theorem evalEach_eq_of_fixed : ∀ (es : List Expr), allFixed es → ∀ focus focus' : Focus,
    evalEach c es focus = evalEach c es focus'
  | [], _, _, _ => by rw [evalEach, evalEach]
  | e :: es, h, focus, focus' => by
    rw [allFixed, Bool.and_eq_true] at h
    rw [evalEach, evalEach, e.eval_eq_of_fixed h.1 focus focus',
      evalEach_eq_of_fixed es h.2 focus focus']

end

/-! ## Unions -/

namespace Expr

/-- An expression selects one node from another. -/
def Selects (c : Context) (e : Expr) (n m : Node) : Prop :=
  ∃ ns, e.eval c (.on n) = .ok (.nodes ns) ∧ m ∈ ns

/-- **A node matches a pattern** if that selects it from some node of the tree. -/
def Matches (c : Context) (p : Expr) (m : Node) : Prop :=
  ∃ a < c.document.size, p.Selects c (.tree a) m

/-- The expressions whose union an expression is. -/
def branches : Expr → List Expr
  | .union left right => left.branches ++ right.branches
  | e => [e]

/-- Whether an expression filters, or walks on from, the nodes of another one. -/
def isFilter : Expr → Bool
  | .filter .. => true
  | _ => false

theorem selects_iff {e : Expr} {ns : List Node} (h : e.eval c (.on n) = .ok (.nodes ns)) :
    e.Selects c n m ↔ m ∈ ns := by
  constructor
  · rintro ⟨ns', h', hm⟩
    obtain rfl : ns = ns' := Value.nodes.inj (Except.ok.inj (h.symm.trans h'))
    exact hm
  · exact fun hm => ⟨ns, h, hm⟩

theorem eval_union_eq_ok {left right : Expr} {focus : Focus} {v : Value} :
    (union left right).eval c focus = .ok v ↔ ∃ as bs, left.eval c focus = .ok (.nodes as) ∧
      right.eval c focus = .ok (.nodes bs) ∧ v = .nodes (inOrder (as ++ bs)) := by
  rw [eval]
  constructor
  · intro h
    obtain ⟨a, ha, h⟩ := bind_eq_ok.1 h
    obtain ⟨as, has, h⟩ := bind_eq_ok.1 h
    obtain ⟨b, hb, h⟩ := bind_eq_ok.1 h
    obtain ⟨bs, hbs, h⟩ := bind_eq_ok.1 h
    cases h
    rw [toNodes_eq_ok.1 has] at ha
    rw [toNodes_eq_ok.1 hbs] at hb
    exact ⟨as, bs, ha, hb, rfl⟩
  · rintro ⟨as, bs, ha, hb, rfl⟩
    rw [ha, hb]
    rfl

/-- A union selects what one of its branches does. -/
theorem selects_iff_branches (p : Expr) (h : ∃ v, p.eval c (.on n) = .ok v) :
    p.Selects c n m ↔ ∃ b ∈ p.branches, b.Selects c n m := by
  fun_induction branches p with
  | case1 left right ihl ihr =>
    obtain ⟨v, hv⟩ := h
    obtain ⟨as, bs, ha, hb, rfl⟩ := eval_union_eq_ok.1 hv
    have hl := ihl ⟨_, ha⟩
    have hr := ihr ⟨_, hb⟩
    rw [selects_iff ha] at hl
    rw [selects_iff hb] at hr
    rw [selects_iff hv, mem_inOrder, List.mem_append, hl, hr]
    simp only [List.mem_append, or_and_right, exists_or]
  | case2 e _ => simp

/-! ## Patterns -/

/-- What a branch adds to what a pattern selects from the root: the nodes that match it, or those
that it selects from the root if it filters. -/
def Adds (c : Context) (b : Expr) (m : Node) : Prop :=
  ∃ a < c.document.size, (b.isFilter → a = root) ∧ b.Selects c (.tree a) m

theorem eval_path {absolute : Bool} {steps : List Step} {focus : Focus} {v : Value} :
    (path absolute steps).eval c focus = .ok v ↔
      ∃ ns, walk c steps [if absolute then rootNode else focus.node] = .ok ns ∧ v = .nodes ns := by
  rw [eval, bind_eq_ok]
  refine exists_congr fun ns => and_congr_right fun _ => ?_
  exact ⟨fun h => (Except.ok.inj h).symm, fun h => h ▸ rfl⟩

theorem eval_filter {primary : Expr} {predicates : List Expr} {steps : List Step} {focus : Focus}
    {v : Value} (h : (filter primary predicates steps).eval c focus = .ok v) :
    ∃ ns, v = .nodes ns := by
  rw [eval] at h
  obtain ⟨p, -, h⟩ := bind_eq_ok.1 h
  obtain ⟨found, -, h⟩ := bind_eq_ok.1 h
  obtain ⟨kept, -, h⟩ := bind_eq_ok.1 h
  obtain ⟨reached, -, h⟩ := bind_eq_ok.1 h
  cases h
  exact ⟨reached, rfl⟩

/-- A relative path that is anchored selects what it does from every node of the tree. -/
theorem anchored_relative (hd : c.document.Sound) {steps : List Step}
    (heval : ∀ a < c.document.size, ∃ v, (path false steps).eval c (.on (.tree a)) = .ok v) :
    ∃ ns, (path true (.anyDepth :: steps)).eval c (.on rootNode) = .ok (.nodes ns) ∧
      ∀ m, m ∈ ns ↔ (path false steps).Adds c m := by
  have hwalks : ∀ a < c.document.size, ∃ ns, walk c steps [.tree a] = .ok ns := by
    intro a ha
    obtain ⟨v, hv⟩ := heval a ha
    obtain ⟨ns, hns, -⟩ := eval_path.1 hv
    exact ⟨ns, hns⟩
  -- a walk from the root that starts at any depth is one from every node of the tree
  have hcan : CanWalk c (.anyDepth :: steps) rootNode := by
    refine (canWalk_anyDepth hd).2 fun a ha => ?_
    exact List.forall_mem_singleton.1 (exists_walk_iff.1 (hwalks a ha))
  obtain ⟨ns, hns⟩ := exists_walk_iff.2 (List.forall_mem_singleton.2 hcan)
  refine ⟨ns, eval_path.2 ⟨ns, hns, rfl⟩, fun m => ?_⟩
  simp only [mem_walk hns, List.mem_singleton, exists_eq_left, reaches_anyDepth hd, Adds, isFilter,
    Bool.false_eq_true, false_implies, true_and]
  refine exists_congr fun a => and_congr_right fun ha => ?_
  obtain ⟨reached, hreached⟩ := hwalks a ha
  rw [selects_iff (eval_path.2 ⟨reached, hreached, rfl⟩), mem_walk hreached]
  simp

/-- An absolute path selects from the root what it does from every node. -/
theorem anchored_absolute (hd : c.document.Sound) {steps : List Step} {v : Value}
    (hv : (path true steps).eval c (.on rootNode) = .ok v) :
    ∃ ns, (path true steps).eval c (.on rootNode) = .ok (.nodes ns) ∧
      ∀ m, m ∈ ns ↔ (path true steps).Adds c m := by
  obtain ⟨ns, hns, rfl⟩ := eval_path.1 hv
  have hevery : ∀ a : Nat, (path true steps).eval c (.on (.tree a)) = .ok (.nodes ns) :=
    fun a => eval_path.2 ⟨ns, hns, rfl⟩
  refine ⟨ns, hv, fun m => ?_⟩
  constructor
  · intro hm
    exact ⟨root, rootNode_inside hd, fun _ => rfl, ns, hv, hm⟩
  · rintro ⟨a, -, -, hselects⟩
    exact (selects_iff (hevery a)).1 hselects

/-- A filtered expression is left as it is, and so adds what it selects from the root. -/
theorem anchored_filter (hd : c.document.Sound) {e : Expr} {ns : List Node}
    (hfilter : e.isFilter = true) (hns : e.eval c (.on rootNode) = .ok (.nodes ns)) :
    m ∈ ns ↔ e.Adds c m := by
  constructor
  · intro hm
    exact ⟨root, rootNode_inside hd, fun _ => rfl, ns, hns, hm⟩
  · rintro ⟨a, -, hroot, hselects⟩
    obtain rfl := hroot hfilter
    exact (selects_iff hns).1 hselects

/-- **What each branch adds to what a pattern selects from the root.** -/
theorem anchor?_selects (hd : c.document.Sound) : ∀ {p e : Expr}, p.anchor? = some e →
    (∀ a < c.document.size, ∃ v, p.eval c (.on (.tree a)) = .ok v) →
      ∃ ns, e.eval c (.on rootNode) = .ok (.nodes ns) ∧ ∀ m, m ∈ ns ↔ ∃ b ∈ p.branches, b.Adds c m
  | .union left right, e, h, heval => by
    rw [anchor?] at h
    split at h
    · next l r hleft hright =>
      cases h
      have hparts := fun a ha => (heval a ha).imp fun _ hv => eval_union_eq_ok.1 hv
      obtain ⟨as, has, hl⟩ := anchor?_selects hd hleft fun a ha => by
        obtain ⟨_, as, _, h, -⟩ := hparts a ha
        exact ⟨_, h⟩
      obtain ⟨bs, hbs, hr⟩ := anchor?_selects hd hright fun a ha => by
        obtain ⟨_, _, bs, -, h, -⟩ := hparts a ha
        exact ⟨_, h⟩
      refine ⟨_, eval_union_eq_ok.2 ⟨as, bs, has, hbs, rfl⟩, fun m => ?_⟩
      rw [mem_inOrder, List.mem_append, hl, hr, branches]
      simp only [List.mem_append, or_and_right, exists_or]
    · cases h
  | .path false steps, e, h, heval => by
    cases h
    simpa [branches] using anchored_relative hd heval
  | .path true steps, e, h, heval => by
    cases h
    obtain ⟨v, hv⟩ := heval root (rootNode_inside hd)
    simpa [branches] using anchored_absolute hd hv
  | .filter primary predicates steps, e, h, heval => by
    cases h
    obtain ⟨v, hv⟩ := heval root (rootNode_inside hd)
    obtain ⟨ns, rfl⟩ := eval_filter hv
    refine ⟨ns, hv, fun m => ?_⟩
    simpa [branches] using anchored_filter hd rfl hv

/-- A pattern is matched by what matches one of its branches. -/
theorem matches_iff_branches {p : Expr}
    (heval : ∀ a < c.document.size, ∃ v, p.eval c (.on (.tree a)) = .ok v) :
    p.Matches c m ↔ ∃ b ∈ p.branches, b.Matches c m := by
  constructor
  · rintro ⟨a, ha, h⟩
    obtain ⟨b, hb, h⟩ := (selects_iff_branches p (heval a ha)).1 h
    exact ⟨b, hb, a, ha, h⟩
  · rintro ⟨b, hb, a, ha, h⟩
    exact ⟨a, ha, (selects_iff_branches p (heval a ha)).2 ⟨b, hb, h⟩⟩

theorem Adds.matches {b : Expr} (h : b.Adds c m) : b.Matches c m :=
  h.imp fun _ ha => ⟨ha.1, ha.2.2⟩

/-- A branch that looks at no node selects from the root whatever it does from others. -/
theorem adds_of_fixed (hd : c.document.Sound) {b : Expr} (hfixed : b.isFilter → b.fixed)
    (h : b.Matches c m) : b.Adds c m := by
  obtain ⟨a, ha, ns, hns, hm⟩ := h
  cases hfilter : b.isFilter with
  | false =>
    refine ⟨a, ha, fun htrue => ?_, ns, hns, hm⟩
    rw [hfilter] at htrue
    cases htrue
  | true =>
    have hsame := b.eval_eq_of_fixed (c := c) (hfixed hfilter) (.on (.tree a)) (.on rootNode)
    exact ⟨root, rootNode_inside hd, fun _ => rfl, ns, hsame ▸ hns, hm⟩

/-- **What a pattern selects from the root** are matching nodes, and how far all of them. -/
structure SelectsFromRoot (c : Context) (p : Expr) (ns : List Node) : Prop where
  /-- It is what the branches add: those that filter only from the root, the others from every node
  of the tree. -/
  mem_iff : ∀ m, m ∈ ns ↔ ∃ b ∈ p.branches, b.Adds c m
  /-- Whatever is selected matches the pattern. -/
  matching : ∀ m ∈ ns, p.Matches c m
  /-- All matching nodes are selected exactly if no branch that filters finds more elsewhere. -/
  complete_iff : (∀ m, m ∈ ns ↔ p.Matches c m) ↔
    ∀ b ∈ p.branches, b.isFilter → ∀ m, b.Matches c m → m ∈ ns
  /-- So it is where such branches look at no node, and where there are none. -/
  complete : (∀ b ∈ p.branches, b.isFilter → b.fixed) → ∀ m, m ∈ ns ↔ p.Matches c m

end Expr

/-- **What a compiled pattern selects from the root** of a document, if its expression can be evaluated
at every node of the tree: a relative path selects whatever it does from some node, also in a union
and in parentheses; with a predicate or a step behind the parentheses, only what it does from the
root. -/
theorem compilePattern_selects {bytes : List UInt8} {source : String} {p : Expr} {q : Query}
    (hd : Document.parse bytes = .ok c.document) (hp : Expr.parse source = .ok p)
    (hq : Query.compilePattern source = .ok q)
    (heval : ∀ a < c.document.size, ∃ v, p.eval c (.on (.tree a)) = .ok v) :
    ∃ ns, q.select c rootNode = .ok ns ∧ p.SelectsFromRoot c ns := by
  have hsound := Document.parse_sound hd
  have hanchored : p.anchor? = some q.expr := by
    rw [Query.compilePattern, Query.compile, hp] at hq
    obtain ⟨query, hquery, hq⟩ := bind_eq_ok.1 hq
    cases hquery
    split at hq
    · next e he =>
      cases hq
      exact he
    · cases hq
  obtain ⟨ns, hns, hmem⟩ := Expr.anchor?_selects hsound hanchored heval
  have hmatching : ∀ m ∈ ns, p.Matches c m := by
    intro m hm
    obtain ⟨b, hb, hadds⟩ := (hmem m).1 hm
    exact (Expr.matches_iff_branches heval).2 ⟨b, hb, hadds.matches⟩
  have hcomplete_iff : (∀ m, m ∈ ns ↔ p.Matches c m) ↔
      ∀ b ∈ p.branches, b.isFilter → ∀ m, b.Matches c m → m ∈ ns := by
    constructor
    · intro h b hb _ m hm
      exact (h m).2 ((Expr.matches_iff_branches heval).2 ⟨b, hb, hm⟩)
    · refine fun h m => ⟨hmatching m, fun hm => ?_⟩
      obtain ⟨b, hb, hm⟩ := (Expr.matches_iff_branches heval).1 hm
      cases hfilter : b.isFilter with
      | true => exact h b hb hfilter m hm
      | false =>
        refine (hmem m).2 ⟨b, hb, Expr.adds_of_fixed hsound (fun htrue => ?_) hm⟩
        rw [hfilter] at htrue
        cases htrue
  refine ⟨ns, Query.select_eq_ok.2 hns, hmem, hmatching, hcomplete_iff, fun hfixed => ?_⟩
  refine hcomplete_iff.2 fun b hb _ m hm => ?_
  exact (hmem m).2 ⟨b, hb, Expr.adds_of_fixed hsound (hfixed b hb) hm⟩

set_option maxRecDepth 4000 in
/-- In the document `<a><b><c/></b></a>`, the last element matches the pattern `(b)/c`, which selects
nothing from the root. -/
theorem compilePattern_selects_parenthesized : ∃ (c : Context) (p : Expr) (q : Query),
    Document.parse "<a><b><c/></b></a>".toUTF8.toList = .ok c.document ∧
      Expr.parse "(b)/c" = .ok p ∧ Query.compilePattern "(b)/c" = .ok q ∧
      q.select c rootNode = .ok [] ∧ p.SelectsFromRoot c [] ∧ p.Matches c (.tree 3) := by
  let d : Document := .ofTree (.element 1 ⟨⟨none, "a"⟩, none, [], []⟩
    [.element 1 ⟨⟨none, "b"⟩, none, [], []⟩ [.element 1 ⟨⟨none, "c"⟩, none, [], []⟩ []]])
  let c : Context := ⟨d, .empty, [], rootNode⟩
  let p : Expr := .filter (.path false [.mk .child (.named (.name none "b")) []]) []
    [.mk .child (.named (.name none "c")) []]
  have hd : Document.parse "<a><b><c/></b></a>".toUTF8.toList = .ok d :=
    Document.parse_eq_ok_of_nodes (by decide +kernel)
  have hp : Expr.parse "(b)/c" = .ok p := by cbv
  have hq : Query.compilePattern "(b)/c" = .ok ⟨"(b)/c", p⟩ := by
    rw [Query.compilePattern, Query.compile, hp]
    rfl
  have hselect : ∀ a < 4, (⟨"(b)/c", p⟩ : Query).select c (.tree a) =
      .ok (if a = 1 then [.tree 3] else []) := by decide +kernel
  have heval : ∀ a < d.size, ∃ v, p.eval c (.on (.tree a)) = .ok v :=
    fun a ha => ⟨_, Query.select_eq_ok.1 (hselect a ha)⟩
  obtain ⟨ns, hns, hselects⟩ := compilePattern_selects (c := c) hd hp hq heval
  have hroot := hselect 0 (by decide)
  obtain rfl : [] = ns := Except.ok.inj (hroot.symm.trans hns)
  have helement := Query.select_eq_ok.1 (hselect 1 (by decide))
  have hmatches : p.Matches c (.tree 3) :=
    ⟨1, (by decide : 1 < 4), _, helement, List.mem_singleton_self _⟩
  exact ⟨c, p, _, hd, hp, hq, hroot, hselects, hmatches⟩

end XmlAudit.XPath
