import XmlAudit.Proofs.Schematron.Items

/-!
# Inclusion

A rule file whose inclusions can be followed is read as the one tree in which each of them has given
way to the root element of the file that it includes, and no walk over rule files goes on forever.

* `Reader.StandsFor`: what an element stands for, following inclusions.
* `Reader.SingleTree`: a rule file with all the files that it includes, as one tree.
* `Visit`, `Reader.Enters`, `Reader.Visits`: the way of a walk, with what it reads before it gets
  somewhere.
* `include_transparent`: what a rule file with inclusions amounts to, and where its walk ends.
-/

namespace XmlAudit.Schematron

open Files (Path)
open Xml (Tree Element)

/-! ## Inclusions -/

/-- An element has one name. -/
theorem isNamed_ne {a b : String} {e : Element} (h : isNamed a e = true) (hab : a ≠ b) :
    isNamed b e = false := by
  simp only [isNamed, Bool.and_eq_true, decide_eq_true_eq, Bool.and_eq_false_iff] at h ⊢
  exact .inl (decide_eq_false fun hb => hab (h.1.symm.trans hb))

namespace Reader

variable {r : Reader}

/-- An element of a file includes another file, which is the one that its reference resolves to and
has a tree. -/
def Includes (r : Reader) (file : Path) (e : Element) (path : Path) (tree : Tree) : Prop :=
  ∃ href source, attr? e "href" = some href ∧
    r.search.resolve? r.files (systemId file href) = some path ∧
    r.files.read path = .ok source ∧ Tree.parse source = .ok tree

theorem included_eq_ok {file path : Path} {href : String} {tree : Tree} :
    r.included file href = .ok (path, tree) ↔
      r.search.resolve? r.files (systemId file href) = some path ∧
        ∃ source, r.files.read path = .ok source ∧ Tree.parse source = .ok tree := by
  unfold included
  dsimp only
  generalize r.search.resolve? r.files (systemId file href) = found
  cases found with
  | none => simp [throw, throwThe, MonadExceptOf.throw]
  | some found =>
    simp only [bind_eq_ok, mapError_eq_ok, Option.some.injEq]
    constructor
    · rintro ⟨source, hread, tree', htree, h⟩
      obtain ⟨rfl, rfl⟩ := Prod.mk.inj (Except.ok.inj h)
      exact ⟨rfl, source, hread, htree⟩
    · rintro ⟨rfl, source, hread, htree⟩
      exact ⟨source, hread, tree, htree, rfl⟩

theorem includes_iff {file path : Path} {e : Element} {tree : Tree} :
    r.Includes file e path tree ↔
      ∃ href, attr? e "href" = some href ∧ r.included file href = .ok (path, tree) := by
  simp only [Includes, included_eq_ok]
  exact ⟨fun ⟨href, source, h, hres, hread⟩ => ⟨href, h, hres, source, hread⟩,
    fun ⟨href, h, hres, source, hread⟩ => ⟨href, source, h, hres, hread⟩⟩

theorem Includes.unique {file path path' : Path} {e : Element} {tree tree' : Tree}
    (h : r.Includes file e path tree) (h' : r.Includes file e path' tree') :
    path = path' ∧ tree = tree' := by
  obtain ⟨href, hattr, hinc⟩ := includes_iff.1 h
  obtain ⟨href', hattr', hinc'⟩ := includes_iff.1 h'
  obtain rfl : href = href' := Option.some.inj (hattr.symm.trans hattr')
  exact Prod.mk.inj (Except.ok.inj (hinc.symm.trans hinc'))

end Reader

/-- Whether a node is an inclusion. -/
def isInclusion : Tree → Bool
  | .text _ _ => false
  | .element _ e _ => isNamed "include" e

namespace Reader

variable {r : Reader}

/-- What a node of a file stands for: itself, or the root element of the file that it includes, in
which inclusions are followed in turn. -/
inductive StandsFor (r : Reader) : Path → Tree → Path → Tree → Prop
  | itself {file : Path} {t : Tree} (h : isInclusion t = false) : StandsFor r file t file t
  | included {file path file' : Path} {line : Nat} {e : Element} {children : List Tree}
      {tree t' : Tree} (h : isNamed "include" e) (hfile : r.Includes file e path tree)
      (hrest : StandsFor r path tree file' t') :
      StandsFor r file (.element line e children) file' t'

/-- A child of a pattern, with its inclusions replaced. -/
def InPattern (r : Reader) (file : Path) (t t' : Tree) : Prop :=
  ∃ file', r.StandsFor file t file' t'

/-- A child of a schema that is not an inclusion, with those in it replaced. -/
def Inside (r : Reader) (file : Path) : Tree → Tree → Prop
  | .text line s, t' => t' = .text line s
  | .element line e children, t' =>
    if isNamed "pattern" e then
      ∃ children', t' = .element line e children' ∧
        List.Forall₂ (r.InPattern file) children children'
    else t' = .element line e children

/-- A child of a schema, with its inclusions replaced. -/
def InSchema (r : Reader) (file : Path) (t t' : Tree) : Prop :=
  ∃ file' u, r.StandsFor file t file' u ∧ r.Inside file' u t'

/-- **The tree of a rule file with the root elements of included files in place** of the elements that
include them, in its schema and in the patterns there. -/
def SingleTree (r : Reader) (path : Path) (tree : Tree) : Prop :=
  ∃ source line e children children', r.files.read path = .ok source ∧
    Tree.parse source = .ok (.element line e children) ∧ isNamed "schema" e ∧
    tree = .element line e children' ∧ List.Forall₂ (r.InSchema path) children children'

/-! ### Replacing is a function -/

theorem StandsFor.unique {file file' file'' : Path} {t t' t'' : Tree}
    (h : r.StandsFor file t file' t') (h' : r.StandsFor file t file'' t'') :
    file' = file'' ∧ t' = t'' := by
  induction h with
  | itself hself =>
    cases h' with
    | itself => exact ⟨rfl, rfl⟩
    | included hinc => exact absurd hinc (by simpa [isInclusion] using hself)
  | included hinc hfile _ ih =>
    cases h' with
    | itself hself => exact absurd hinc (by simpa [isInclusion] using hself)
    | included _ hfile' hrest' =>
      obtain ⟨rfl, rfl⟩ := hfile.unique hfile'
      exact ih hrest'

theorem rightUnique_inPattern (file : Path) : Relator.RightUnique (r.InPattern file) := by
  rintro t t' t'' ⟨_, h⟩ ⟨_, h'⟩
  exact (h.unique h').2

theorem Inside.unique {file : Path} {t t' t'' : Tree} (h : r.Inside file t t')
    (h' : r.Inside file t t'') : t' = t'' := by
  cases t with
  | text line s => exact h.trans h'.symm
  | element line e children =>
    simp only [Inside] at h h'
    split at h
    · rename_i hp
      rw [if_pos hp] at h'
      obtain ⟨cs, rfl, hcs⟩ := h
      obtain ⟨cs', rfl, hcs'⟩ := h'
      rw [(rightUnique_inPattern file).forall₂ hcs hcs']
    · rename_i hp
      rw [if_neg hp] at h'
      exact h.trans h'.symm

theorem rightUnique_inSchema (file : Path) : Relator.RightUnique (r.InSchema file) := by
  rintro t t' t'' ⟨file', u, hstands, hinside⟩ ⟨file'', u', hstands', hinside'⟩
  obtain ⟨rfl, rfl⟩ := hstands.unique hstands'
  exact hinside.unique hinside'

theorem SingleTree.unique {path : Path} {t t' : Tree} (h : r.SingleTree path t)
    (h' : r.SingleTree path t') : t = t' := by
  obtain ⟨source, line, e, cs, cs', hread, hparse, -, rfl, hcs⟩ := h
  obtain ⟨source', line', e', cs₂, cs₂', hread', hparse', -, rfl, hcs'⟩ := h'
  obtain rfl : source = source' := Except.ok.inj (hread.symm.trans hread')
  cases hparse.symm.trans hparse'
  rw [(rightUnique_inSchema path).forall₂ hcs hcs']

/-! ## What is read does not change -/

/-- What is not an inclusion is read the same way by every reader, in every file and however deep
inclusions have nested. -/
theorem patternItems_toOption (r r' : Reader) (file : Path) {file' : Path} (budget : Nat)
    {budget' : Nat} {t : Tree} (h : isInclusion t = false) :
    (r'.patternItems file' budget' t).toOption =
      (r.patternItems file budget t).toOption.map (·.map (·.inFile file')) := by
  cases t with
  | text => rw [patternItems, patternItems]; rfl
  | element line e children =>
    rw [patternItems, patternItems]
    split
    · rw [bind_toOption, bind_toOption, @Spot.binding_toOption ⟨file', line⟩ ⟨file, line⟩]
      cases (Spot.binding ⟨file, line⟩ e).toOption <;> rfl
    · split
      · rw [bind_toOption, bind_toOption, ← @ruleOf_toOption ⟨file, line⟩ ⟨file', line⟩]
        cases (ruleOf ⟨file, line⟩ e children).toOption <;> rfl
      · rw [isInclusion] at h
        simp only [h]
        rfl

/-- What a walk reads at an inclusion: what it reads of the file there, unless it is too deep. -/
def following {α : Type} (r : Reader) (walk : Path → Nat → Tree → Except AuditError α) (file : Path)
    (line : Nat) (e : Element) (budget : Nat) : Except AuditError α := do
  let href ← (Spot.mk file line).attr e "href"
  match budget with
  | 0 => throw ((Spot.mk file line).fault (.includesTooDeep href))
  | budget + 1 =>
    let (path, tree) ← r.included file href
    walk path budget tree

theorem patternItems_inclusion {file : Path} {budget line : Nat} {e : Element}
    {children : List Tree} (h : isNamed "include" e) :
    r.patternItems file budget (.element line e children) =
      r.following r.patternItems file line e budget := by
  rw [patternItems.eq_def]
  simp only [isNamed_ne h (show "include" ≠ "let" by decide),
    isNamed_ne h (show "include" ≠ "rule" by decide), h]
  cases budget <;> rfl

theorem schemaItems_inclusion {file : Path} {budget line : Nat} {e : Element}
    {children : List Tree} (h : isNamed "include" e) :
    r.schemaItems file budget (.element line e children) =
      r.following r.schemaItems file line e budget := by
  rw [schemaItems.eq_def]
  simp only [isNamed_ne h (show "include" ≠ "ns" by decide),
    isNamed_ne h (show "include" ≠ "let" by decide),
    isNamed_ne h (show "include" ≠ "pattern" by decide),
    isNamed_ne h (show "include" ≠ "diagnostics" by decide), h]
  cases budget <;> rfl

section

variable {α : Type} {walk : Path → Nat → Tree → Except AuditError α} {file path : Path}
  {line budget : Nat} {e : Element} {tree : Tree}

/-- An inclusion of a file is read as the root element of the file, one level deeper. -/
theorem following_succ (h : r.Includes file e path tree) :
    r.following walk file line e (budget + 1) = walk path budget tree := by
  obtain ⟨href, hattr, hinc⟩ := includes_iff.1 h
  simp only [following, Spot.attr, hattr]
  change (r.included file href >>= fun found => walk found.1 budget found.2) = _
  rw [hinc]
  rfl

/-- An inclusion for which nothing is left of the budget is an error. -/
theorem following_zero :
    ∃ details, r.following walk file line e 0 = .error (.invalidRuleSet file details) := by
  rw [following, Spot.attr]
  cases attr? e "href" with
  | none => exact ⟨_, rfl⟩
  | some href => exact ⟨_, rfl⟩

/-- Where an inclusion is read, the file that it includes is. -/
theorem following_eq_ok {a : α} (h : r.following walk file line e budget = .ok a) :
    ∃ b path tree, budget = b + 1 ∧ r.Includes file e path tree ∧ walk path b tree = .ok a := by
  obtain ⟨href, hattr, h⟩ := bind_eq_ok.1 h
  replace hattr : attr? e "href" = some href := by
    rw [← @Spot.attr_toOption ⟨file, line⟩, hattr]
    rfl
  cases budget with
  | zero => cases h
  | succ b =>
    obtain ⟨⟨path, tree⟩, hinc, h⟩ := bind_eq_ok.1 h
    exact ⟨b, path, tree, rfl, includes_iff.2 ⟨href, hattr, hinc⟩, h⟩

end

/-! ### Children one after the other -/

/-- What a walk reads at the nodes of a list. -/
def readAll {α : Type} (read : Tree → Except AuditError (List α)) (ts : List Tree) :
    Except AuditError (List α) :=
  (ts.mapM read).map List.flatten

theorem readAll_cons {α : Type} (read : Tree → Except AuditError (List α)) (t : Tree)
    (ts : List Tree) :
    readAll read (t :: ts) = do return (← read t) ++ (← readAll read ts) := by
  rw [readAll, List.mapM_cons, readAll]
  cases read t with
  | error => rfl
  | ok first => cases ts.mapM read <;> rfl

theorem patternItemsOf_eq (file : Path) (budget : Nat) (ts : List Tree) :
    r.patternItemsOf file budget ts = readAll (r.patternItems file budget) ts := by
  induction ts with
  | nil => rfl
  | cons t ts ih => rw [patternItemsOf, readAll_cons, ih]

theorem schemaItemsOf_eq (file : Path) (budget : Nat) (ts : List Tree) :
    r.schemaItemsOf file budget ts = readAll (r.schemaItems file budget) ts := by
  induction ts with
  | nil => rfl
  | cons t ts ih => rw [schemaItemsOf, readAll_cons, ih]

/-- Where for every node that a walk reads there is one that others read alike, so it is for lists of
nodes. -/
theorem readAll_replaced {ι α : Type} {read : Tree → Except AuditError (List α)}
    {R : Tree → Tree → Prop} (read' : ι → Tree → Except AuditError (List α)) (move : ι → α → α)
    (hread : ∀ t items, read t = .ok items →
      ∃ t', R t t' ∧ ∀ i, (read' i t').toOption = some (items.map (move i)))
    {ts : List Tree} {items : List α} (h : readAll read ts = .ok items) :
    ∃ ts', List.Forall₂ R ts ts' ∧
      ∀ i, (readAll (read' i) ts').toOption = some (items.map (move i)) := by
  induction ts generalizing items with
  | nil =>
    cases h
    exact ⟨[], .nil, fun _ => rfl⟩
  | cons t ts ih =>
    rw [readAll_cons] at h
    obtain ⟨first, hfirst, h⟩ := bind_eq_ok.1 h
    obtain ⟨rest, hrest, h⟩ := bind_eq_ok.1 h
    cases h
    obtain ⟨t', ht, hfirst'⟩ := hread t first hfirst
    obtain ⟨ts', hts, hrest'⟩ := ih hrest
    refine ⟨t' :: ts', .cons ht hts, fun i => ?_⟩
    rw [readAll_cons, bind_toOption, hfirst' i, Option.bind_some, bind_toOption, hrest' i,
      List.map_append]
    rfl

/-! ### Single trees -/

/-- The items of a child of a pattern are those of what stands in its place. -/
theorem patternItems_replaced {file : Path} {budget : Nat} {t : Tree} {items : List PatternItem}
    (h : r.patternItems file budget t = .ok items) :
    ∃ t', r.InPattern file t t' ∧ ∀ i : Reader × Path × Nat,
      (i.1.patternItems i.2.1 i.2.2 t').toOption = some (items.map (·.inFile i.2.1)) := by
  induction budget using Nat.strong_induction_on generalizing file t with
  | h budget ih =>
    cases hinc : isInclusion t with
    | false =>
      refine ⟨t, ⟨file, .itself hinc⟩, fun i => ?_⟩
      rw [patternItems_toOption r _ file budget hinc, h]
      rfl
    | true =>
      cases t with
      | text => cases hinc
      | element line e children =>
        rw [patternItems_inclusion hinc] at h
        obtain ⟨b, path, tree, rfl, hfile, h⟩ := following_eq_ok h
        obtain ⟨t', ⟨file', hrest⟩, hitems⟩ := ih b (Nat.lt_succ_self b) h
        exact ⟨t', ⟨file', .included hinc hfile hrest⟩, hitems⟩

theorem schemaItems_pattern {file : Path} {budget line : Nat} {e : Element} {children : List Tree}
    (h : isNamed "pattern" e) :
    r.schemaItems file budget (.element line e children) =
      if attr? e "abstract" = some "true" ∨ (attr? e "is-a").isSome then
        .error ((Spot.mk file line).fault .abstractPattern)
      else do
        return [.pattern (attr? e "id") (← r.patternItemsOf file budget children)] := by
  rw [schemaItems.eq_def]
  simp only [isNamed_ne h (show "pattern" ≠ "ns" by decide),
    isNamed_ne h (show "pattern" ≠ "let" by decide), h]
  rfl

/-- What is neither an inclusion nor a pattern is read the same way by every reader, in every file and
however deep inclusions have nested. -/
theorem schemaItems_toOption (r r' : Reader) (file : Path) {file' : Path} (budget : Nat)
    {budget' line : Nat} {e : Element} {children : List Tree} (hinc : isNamed "include" e = false)
    (hpat : isNamed "pattern" e = false) :
    (r'.schemaItems file' budget' (.element line e children)).toOption =
      (r.schemaItems file budget (.element line e children)).toOption.map
        (·.map (·.inFile file')) := by
  rw [schemaItems.eq_def, schemaItems.eq_def]
  simp only [hinc, hpat]
  split
  · simp only [bind_toOption, Spot.attr_toOption, pure_toOption]
    cases attr? e "prefix" <;> cases attr? e "uri" <;> rfl
  · split
    · rw [bind_toOption, bind_toOption, @Spot.binding_toOption ⟨file', line⟩ ⟨file, line⟩]
      cases (Spot.binding ⟨file, line⟩ e).toOption <;> rfl
    · simp only [Bool.false_eq_true, if_false]
      split
      · rw [bind_toOption, bind_toOption, @wordingsOf_toOption file' file]
        cases (wordingsOf file children).toOption <;> rfl
      · rfl

/-- The items of a child of a schema that is not an inclusion are those of the child with inclusions
replaced. -/
theorem schemaItems_inside {file : Path} {budget : Nat} {t : Tree} {items : List SchemaItem}
    (hinc : isInclusion t = false) (h : r.schemaItems file budget t = .ok items) :
    ∃ t', r.Inside file t t' ∧ ∀ i : Reader × Path × Nat,
      (i.1.schemaItems i.2.1 i.2.2 t').toOption = some (items.map (·.inFile i.2.1)) := by
  cases t with
  | text line s =>
    rw [schemaItems] at h
    cases h
    exact ⟨.text line s, rfl, fun i => by rw [schemaItems]; rfl⟩
  | element line e children =>
    -- below a pattern there are further inclusions; all else stays as it is
    cases hpat : isNamed "pattern" e with
    | false =>
      refine ⟨.element line e children, by simp [Inside, hpat], fun i => ?_⟩
      rw [schemaItems_toOption r _ file budget hinc hpat, h]
      rfl
    | true =>
      rw [schemaItems_pattern hpat] at h
      split at h
      · cases h
      · rename_i hconcrete
        obtain ⟨inner, hinner, h⟩ := bind_eq_ok.1 h
        cases h
        rw [patternItemsOf_eq] at hinner
        obtain ⟨children', hchildren, hitems⟩ := readAll_replaced
          (fun i : Reader × Path × Nat => i.1.patternItems i.2.1 i.2.2)
          (fun i item => item.inFile i.2.1) (fun t items => patternItems_replaced) hinner
        refine ⟨.element line e children', by simpa [Inside, hpat] using hchildren, fun i => ?_⟩
        rw [schemaItems_pattern hpat, if_neg hconcrete, bind_toOption, patternItemsOf_eq, hitems i]
        rfl

/-- The items of a child of a schema are those of the child with inclusions replaced. -/
theorem schemaItems_replaced {file : Path} {budget : Nat} {t : Tree} {items : List SchemaItem}
    (h : r.schemaItems file budget t = .ok items) :
    ∃ t', r.InSchema file t t' ∧ ∀ i : Reader × Path × Nat,
      (i.1.schemaItems i.2.1 i.2.2 t').toOption = some (items.map (·.inFile i.2.1)) := by
  induction budget using Nat.strong_induction_on generalizing file t with
  | h budget ih =>
    cases hinc : isInclusion t with
    | false =>
      obtain ⟨t', hinside, hitems⟩ := schemaItems_inside hinc h
      exact ⟨t', ⟨file, t, .itself hinc, hinside⟩, hitems⟩
    | true =>
      cases t with
      | text => cases hinc
      | element line e children =>
        rw [schemaItems_inclusion hinc] at h
        obtain ⟨b, path, tree, rfl, hfile, h⟩ := following_eq_ok h
        obtain ⟨t', ⟨file', u, hrest, hinside⟩, hitems⟩ := ih b (Nat.lt_succ_self b) h
        exact ⟨t', ⟨file', u, .included hinc hfile hrest, hinside⟩, hitems⟩

end Reader

theorem RuleSet.parse_eq_ok {r : Reader} {path : Path} {source : List UInt8} {set : RuleSet} :
    RuleSet.parse r path source = .ok set ↔
      ∃ tree, Tree.parse source = .ok tree ∧ RuleSet.ofTree r path tree = .ok set := by
  simp only [RuleSet.parse, bind_eq_ok, mapError_eq_ok]

theorem RuleSet.load_eq_ok {r : Reader} {path : Path} {set : RuleSet} :
    RuleSet.load r path = .ok set ↔
      ∃ source, r.files.read path = .ok source ∧ RuleSet.parse r path source = .ok set := by
  simp only [RuleSet.load, bind_eq_ok, mapError_eq_ok]

theorem RuleSet.load_eq {r : Reader} {path : Path} {source : List UInt8} {line : Nat} {e : Element}
    {children : List Tree} (hread : r.files.read path = .ok source)
    (hparse : Tree.parse source = .ok (.element line e children)) (hschema : isNamed "schema" e) :
    RuleSet.load r path =
      r.schemaItemsOf path includeLimit children >>= fun items => RuleSet.ofItems path items := by
  rw [load, hread]
  change parse r path source = _
  rw [parse, hparse]
  change ofTree r path (.element line e children) = _
  rw [ofTree, if_pos hschema]

/-- The nodes of the schema of a rule file, with inclusions replaced. -/
def Reader.Unfolds (r : Reader) (path : Path) (source : List UInt8) (schema : List Tree) : Prop :=
  ∃ line e children, Tree.parse source = .ok (.element line e children) ∧ isNamed "schema" e ∧
    List.Forall₂ (r.InSchema path) children schema

theorem Reader.Unfolds.unique {r : Reader} {path : Path} {source : List UInt8}
    {schema schema' : List Tree} (h : r.Unfolds path source schema)
    (h' : r.Unfolds path source schema') : schema = schema' := by
  obtain ⟨line, e, children, hparse, -, hschema⟩ := h
  obtain ⟨line', e', children', hparse', -, hschema'⟩ := h'
  obtain ⟨-, -, rfl⟩ := Tree.element.inj (Except.ok.inj (hparse.symm.trans hparse'))
  exact (Reader.rightUnique_inSchema path).forall₂ hschema hschema'

/-- The schema of a rule file that can be parsed is read, with inclusions replaced, as the same items
by every reader. -/
theorem exists_unfolds {r : Reader} {path : Path} {source : List UInt8} {set : RuleSet}
    (h : RuleSet.parse r path source = .ok set) :
    ∃ schema items, r.Unfolds path source schema ∧ RuleSet.ofItems path items = .ok set ∧
      ∀ i : Reader × Path × Nat, (Reader.readAll (i.1.schemaItems i.2.1 i.2.2) schema).toOption =
        some (items.map (·.inFile i.2.1)) := by
  obtain ⟨tree, hparse, h⟩ := RuleSet.parse_eq_ok.1 h
  cases tree with
  | text => cases h
  | element line e children =>
    rw [RuleSet.ofTree] at h
    split at h
    · rename_i hschema
      obtain ⟨items, hitems, hset⟩ := bind_eq_ok.1 h
      rw [Reader.schemaItemsOf_eq] at hitems
      obtain ⟨schema, hchildren, hitems'⟩ := Reader.readAll_replaced
        (fun i : Reader × Path × Nat => i.1.schemaItems i.2.1 i.2.2)
        (fun i item => item.inFile i.2.1) (fun t items => Reader.schemaItems_replaced) hitems
      exact ⟨schema, items, ⟨line, e, children, hparse, hschema, hchildren⟩, hset, hitems'⟩
    · cases h

/-- A rule file that can be read has a single tree, which has the same rule set whatever files there
are. -/
theorem exists_singleTree {r : Reader} {path : Path} {set : RuleSet}
    (h : RuleSet.load r path = .ok set) :
    ∃ tree, r.SingleTree path tree ∧ ∀ r', RuleSet.ofTree r' path tree = .ok set := by
  obtain ⟨source, hread, h⟩ := RuleSet.load_eq_ok.1 h
  obtain ⟨schema, items, ⟨line, e, children, hparse, hschema, hchildren⟩, hset, hitems⟩ :=
    exists_unfolds h
  refine ⟨.element line e schema,
    ⟨source, line, e, children, schema, hread, hparse, hschema, rfl, hchildren⟩, fun r' => ?_⟩
  rw [RuleSet.ofTree, if_pos hschema, ← toOption_eq_some, bind_toOption, Reader.schemaItemsOf_eq,
    hitems (r', path, includeLimit), Option.bind_some, RuleSet.ofItems_toOption, hset]
  rfl

/-! ## Where a walk gets -/

/-- What an element is a child of. -/
inductive Level where
  | schema
  | pattern

/-- A node that a walk over rule files comes to: of what it is a child, in which file it is, and how
many inclusions lead there. -/
structure Visit where
  level : Level
  file : Path
  depth : Nat
  node : Tree

/-- Twice the inclusions that may still be followed from a node, and once the patterns that may still be
entered. -/
def Visit.remaining (v : Visit) : Nat :=
  2 * (includeLimit - v.depth) + match v.level with
    | .schema => 1
    | .pattern => 0

namespace Reader

variable {r : Reader} {v w : Visit} {before : List Visit} {path : Path}

/-- Whether the walk over a node, with all that it includes, succeeds. -/
def outcome (r : Reader) (v : Visit) : Except AuditError Unit :=
  match v.level with
  | .schema => (r.schemaItems v.file (includeLimit - v.depth) v.node).map fun _ => ()
  | .pattern => (r.patternItems v.file (includeLimit - v.depth) v.node).map fun _ => ()

/-- A walk enters a node from another one, after others: the root element of a file from its
inclusion, and a child from its pattern, after the children before it. -/
inductive Enters (r : Reader) : Visit → List Visit → Visit → Prop
  | inclusion {level : Level} {file path : Path} {depth line : Nat} {e : Element}
      {children : List Tree} {tree : Tree} (h : isNamed "include" e)
      (hfile : r.Includes file e path tree) :
      Enters r ⟨level, file, depth, .element line e children⟩ [] ⟨level, path, depth + 1, tree⟩
  | pattern {file : Path} {depth line : Nat} {e : Element} {front back : List Tree} {t : Tree}
      (h : isNamed "pattern" e)
      (hconcrete : ¬(attr? e "abstract" = some "true" ∨ (attr? e "is-a").isSome)) :
      Enters r ⟨.schema, file, depth, .element line e (front ++ t :: back)⟩
        (front.map (Visit.mk .pattern file depth)) ⟨.pattern, file, depth, t⟩

/-- A walk gets from one node to another, after others. It follows inclusions as deep as they may
nest. -/
inductive LeadsTo (r : Reader) : Visit → List Visit → Visit → Prop
  | here (v : Visit) : LeadsTo r v [] v
  | step {u v w : Visit} {before next : List Visit}
      (hdepth : isInclusion v.node → v.depth < includeLimit) (h : r.Enters v before u)
      (hrest : LeadsTo r u next w) : LeadsTo r v (before ++ next) w

/-- The walk over a rule file gets to a node, after others. -/
def Visits (r : Reader) (path : Path) (before : List Visit) (w : Visit) : Prop :=
  ∃ source line e front t back next, r.files.read path = .ok source ∧
    Tree.parse source = .ok (.element line e (front ++ t :: back)) ∧ isNamed "schema" e ∧
    r.LeadsTo ⟨.schema, path, 0, t⟩ next w ∧
    before = front.map (Visit.mk .schema path 0) ++ next

theorem readAll_forM {α : Type} (read : Tree → Except AuditError (List α)) (ts : List Tree) :
    (readAll read ts).map (fun _ => ()) = forM ts fun t => (read t).map fun _ => () := by
  induction ts with
  | nil => rfl
  | cons t ts ih =>
    rw [readAll_cons, List.forM_cons, ← ih]
    cases read t with
    | error => rfl
    | ok first => cases readAll read ts <;> rfl

theorem schemaItemsOf_outcome (file : Path) (ts : List Tree) :
    (r.schemaItemsOf file includeLimit ts).map (fun _ => ()) =
      forM (ts.map (Visit.mk .schema file 0)) r.outcome := by
  rw [schemaItemsOf_eq, readAll_forM, List.forM_map]
  rfl

theorem outcome_inclusion {level : Level} {file : Path} {depth line : Nat} {e : Element}
    {children : List Tree} {tree : Tree} (h : isNamed "include" e)
    (hfile : r.Includes file e path tree) (hdepth : depth < includeLimit) :
    r.outcome ⟨level, file, depth, .element line e children⟩ =
      r.outcome ⟨level, path, depth + 1, tree⟩ := by
  have hbudget : includeLimit - depth = includeLimit - (depth + 1) + 1 := by omega
  cases level with
  | schema => simp only [outcome, schemaItems_inclusion h, hbudget, following_succ hfile]
  | pattern => simp only [outcome, patternItems_inclusion h, hbudget, following_succ hfile]

theorem outcome_pattern {file : Path} {depth line : Nat} {e : Element} {children : List Tree}
    (h : isNamed "pattern" e)
    (hconcrete : ¬(attr? e "abstract" = some "true" ∨ (attr? e "is-a").isSome)) :
    r.outcome ⟨.schema, file, depth, .element line e children⟩ =
      forM (children.map (Visit.mk .pattern file depth)) r.outcome := by
  rw [outcome, schemaItems_pattern h, if_neg hconcrete, List.forM_map]
  simp only [outcome]
  rw [← readAll_forM, patternItemsOf_eq]
  cases readAll (r.patternItems file (includeLimit - depth)) children <;> rfl

/-- **An inclusion in a file that is as deep as may be** is an error. -/
theorem outcome_tooDeep (h : isInclusion v.node) (hdepth : includeLimit ≤ v.depth) :
    ∃ details, r.outcome v = .error (.invalidRuleSet v.file details) := by
  obtain ⟨level, file, depth, t⟩ := v
  cases t with
  | text => cases h
  | element line e children =>
    have hbudget : includeLimit - depth = 0 := Nat.sub_eq_zero_of_le hdepth
    cases level with
    | schema =>
      obtain ⟨details, hd⟩ := @following_zero r _ r.schemaItems file line e
      exact ⟨details, by simp only [outcome, schemaItems_inclusion h, hbudget, hd]; rfl⟩
    | pattern =>
      obtain ⟨details, hd⟩ := @following_zero r _ r.patternItems file line e
      exact ⟨details, by simp only [outcome, patternItems_inclusion h, hbudget, hd]; rfl⟩

/-- Where a walk enters a node, it reads the ones before, then that node, and then others. -/
theorem Enters.outcome (h : r.Enters v before w)
    (hdepth : isInclusion v.node → v.depth < includeLimit) :
    ∃ after, r.outcome v = forM (before ++ w :: after) r.outcome := by
  cases h with
  | inclusion hinc hfile =>
    refine ⟨[], ?_⟩
    rw [outcome_inclusion hinc hfile (hdepth hinc), List.nil_append, List.forM_cons, List.forM_nil]
    exact (bind_pure _).symm
  | @pattern file depth _ _ _ back _ hpat hconcrete =>
    refine ⟨back.map (Visit.mk .pattern file depth), ?_⟩
    rw [outcome_pattern hpat hconcrete, List.map_append, List.map_cons]

theorem LeadsTo.outcome (h : r.LeadsTo v before w) :
    ∃ after, r.outcome v = forM (before ++ w :: after) r.outcome := by
  induction h with
  | here v => exact ⟨[], (bind_pure _).symm⟩
  | step hdepth henters _ ih =>
    obtain ⟨after, hout⟩ := henters.outcome hdepth
    obtain ⟨after', hout'⟩ := ih
    refine ⟨after' ++ after, ?_⟩
    rw [hout]
    simp only [List.forM_append, List.forM_cons, hout', bind_assoc]

/-- A rule file fails with the error of a node that the walk gets to, unless what is read before it
fails. -/
theorem Visits.load_eq {err : AuditError} (h : r.Visits path before w)
    (hw : r.outcome w = .error err) :
    RuleSet.load r path = forM before r.outcome >>= fun _ => .error err := by
  obtain ⟨source, line, e, front, t, back, next, hread, hparse, hschema, hleads, rfl⟩ := h
  obtain ⟨after, hout⟩ := hleads.outcome
  have hitems : (r.schemaItemsOf path includeLimit (front ++ t :: back)).map (fun _ => ()) =
      (forM (front.map (Visit.mk .schema path 0) ++ next) r.outcome >>= fun _ => .error err) := by
    rw [schemaItemsOf_outcome, List.map_append, List.map_cons]
    simp only [List.forM_append, List.forM_cons, hout, hw, bind_assoc]
    rfl
  rw [RuleSet.load_eq hread hparse hschema]
  cases hfirst : forM (front.map (Visit.mk .schema path 0) ++ next) r.outcome with
  | error err' =>
    rw [hfirst] at hitems
    rw [map_eq_error.1 hitems]
    rfl
  | ok _ =>
    rw [hfirst] at hitems
    rw [map_eq_error.1 hitems]
    rfl

/-- Whoever enters one node after the other gets deeper, and comes to an end. -/
theorem Enters.remaining_lt (h : r.Enters v before w)
    (hdepth : isInclusion v.node → v.depth < includeLimit) : w.remaining < v.remaining := by
  cases h with
  | inclusion hinc _ =>
    have := hdepth hinc
    simp only [Visit.remaining] at this ⊢
    omega
  | pattern => simp [Visit.remaining]

/-- **A walk without end fails** at each of its nodes. -/
theorem outcome_endless {v : Nat → Visit}
    (h : ∀ n, ∃ before, r.Enters (v n) before (v (n + 1))) (n : Nat) :
    ∃ err, r.outcome (v n) = .error err := by
  induction hm : (v n).remaining using Nat.strong_induction_on generalizing n with
  | h m ih =>
    obtain ⟨before, henters⟩ := h n
    by_cases hdepth : isInclusion (v n).node → (v n).depth < includeLimit
    · obtain ⟨after, hout⟩ := henters.outcome hdepth
      obtain ⟨err, hnext⟩ := ih _ (hm ▸ henters.remaining_lt hdepth) (n + 1) rfl
      rw [hout, List.forM_append, List.forM_cons, hnext]
      cases forM before r.outcome with
      | error err' => exact ⟨err', rfl⟩
      | ok => exact ⟨err, rfl⟩
    · rw [Classical.not_imp, not_lt] at hdepth
      obtain ⟨details, hdeep⟩ := outcome_tooDeep hdepth.1 hdepth.2
      exact ⟨_, hdeep⟩

end Reader

/-- The line and the element of a tree that is an element without content. -/
def childless? : Tree → Option (Nat × Element)
  | .element line e [] => some (line, e)
  | _ => none

/-- The line and the element of a tree that is an element around one node, and that node. -/
def soleChild? : Tree → Option ((Nat × Element) × Tree)
  | .element line e [child] => some ((line, e), child)
  | _ => none

theorem childless?_eq_some {t : Tree} {line : Nat} {e : Element}
    (h : childless? t = some (line, e)) : t = .element line e [] := by
  unfold childless? at h
  split at h <;> cases h
  rfl

theorem soleChild?_eq_some {t child : Tree} {line : Nat} {e : Element}
    (h : soleChild? t = some ((line, e), child)) : t = .element line e [child] := by
  unfold soleChild? at h
  split at h <;> cases h
  rfl

/-- **Inclusion is transparent and always ends.**

* A rule file has one single tree at most.
* Where a rule file can be read, it has a single tree, which has the same rule set to every reader: no
  inclusion is left for it to follow.
* Where the walk gets to an inclusion in a file that is sixteen inclusions deep, the rule file is
  invalid, unless something that the walk reads before has an error.
* Where a walk could go on forever, the rule file cannot be read. -/
theorem include_transparent (r : Reader) (path : Path) :
    (∀ tree tree', r.SingleTree path tree → r.SingleTree path tree' → tree = tree') ∧
    (∀ set, RuleSet.load r path = .ok set →
      ∃ tree, r.SingleTree path tree ∧ ∀ r', RuleSet.ofTree r' path tree = .ok set) ∧
    (∀ before v, r.Visits path before v → isInclusion v.node → v.depth = 16 →
      ∃ details, RuleSet.load r path =
        forM before r.outcome >>= fun _ => .error (.invalidRuleSet v.file details)) ∧
    (∀ v : Nat → Visit, (∃ before, r.Visits path before (v 0)) →
      (∀ n, ∃ before, r.Enters (v n) before (v (n + 1))) →
      ∀ set, RuleSet.load r path ≠ .ok set) := by
  refine ⟨fun tree tree' h h' => h.unique h', fun set => exists_singleTree, ?_, ?_⟩
  · intro before v hvisits hinc hdepth
    obtain ⟨details, hdeep⟩ := @Reader.outcome_tooDeep r v hinc hdepth.ge
    exact ⟨details, hvisits.load_eq hdeep⟩
  · rintro v ⟨before, hvisits⟩ hendless set hset
    obtain ⟨err, hfirst⟩ := Reader.outcome_endless hendless 0
    rw [hvisits.load_eq hfirst] at hset
    obtain ⟨_, -, h⟩ := bind_eq_ok.1 hset
    cases h

/-- A rule file that includes a pattern, which includes a rule, can be read; one that includes a file
which includes itself cannot. -/
theorem include_transparent_looping :
    let declared := " xmlns='http://purl.oclc.org/dsdl/schematron'"
    let selfText := ("<include" ++ declared ++ " href='self'/>").toUTF8.toList
    let loopText := ("<schema" ++ declared ++ "><include href='self'/></schema>").toUTF8.toList
    let mainText := ("<schema" ++ declared ++ "><include href='part'/></schema>").toUTF8.toList
    let partText := ("<pattern" ++ declared ++ "><include href='rule'/></pattern>").toUTF8.toList
    let ruleText := ("<rule" ++ declared ++ " context='a'/>").toUTF8.toList
    let r : Reader :=
      { files := ⟨[(["main"], some (.file mainText)), (["part"], some (.file partText)),
          (["rule"], some (.file ruleText)), (["loop"], some (.file loopText)),
          (["self"], some (.file selfText))], []⟩
        search := .ofDirectory (.ofText "/") }
    (∃ set tree, RuleSet.load r (.ofText "/main") = .ok set ∧ r.SingleTree (.ofText "/main") tree ∧
      ∀ r', RuleSet.ofTree r' (.ofText "/main") tree = .ok set) ∧
    (∃ details, RuleSet.load r (.ofText "/loop") =
      .error (.invalidRuleSet (.ofText "/self") details)) ∧
    ∀ set, RuleSet.load r (.ofText "/loop") ≠ .ok set := by
  intro declared selfText loopText mainText partText ruleText r
  have hmain : (RuleSet.load r (.ofText "/main")).toOption.isSome := by decide +kernel
  obtain ⟨set, hset⟩ := Option.isSome_iff_exists.1 hmain
  replace hset := toOption_eq_some.1 hset
  obtain ⟨-, htransparent, -, -⟩ := include_transparent r (.ofText "/main")
  obtain ⟨tree, hsingle, hreaders⟩ := htransparent set hset
  obtain ⟨-, -, hdeep, hendless⟩ := include_transparent r (.ofText "/loop")
  have hself : ∃ line e, Tree.parse selfText = .ok (.element line e []) ∧
      isNamed "include" e ∧ attr? e "href" = some "self" := by
    have h : ((Tree.parse selfText).toOption.bind childless?).any (fun x =>
        isNamed "include" x.2 && attr? x.2 "href" = some "self") = true := by decide +kernel
    obtain ⟨⟨line, e⟩, hshape, h⟩ := (Option.any_eq_true _ _).1 h
    obtain ⟨tree, hparse, hbare⟩ := Option.bind_eq_some_iff.1 hshape
    obtain rfl := childless?_eq_some hbare
    rw [Bool.and_eq_true, decide_eq_true_eq] at h
    exact ⟨line, e, toOption_eq_some.1 hparse, h⟩
  have hloop : ∃ line e line' e', Tree.parse loopText =
      .ok (.element line e [.element line' e' []]) ∧ isNamed "schema" e ∧ isNamed "include" e' ∧
      attr? e' "href" = some "self" := by
    have h : ((Tree.parse loopText).toOption.bind soleChild?).any (fun x =>
        isNamed "schema" x.1.2 && (childless? x.2).any fun y =>
          isNamed "include" y.2 && attr? y.2 "href" = some "self") = true := by decide +kernel
    obtain ⟨⟨⟨line, e⟩, child⟩, hshape, h⟩ := (Option.any_eq_true _ _).1 h
    obtain ⟨tree, hparse, hsole⟩ := Option.bind_eq_some_iff.1 hshape
    obtain rfl := soleChild?_eq_some hsole
    rw [Bool.and_eq_true] at h
    obtain ⟨hschema, h⟩ := h
    obtain ⟨⟨line', e'⟩, hbare, hinc⟩ := (Option.any_eq_true _ _).1 h
    obtain rfl := childless?_eq_some hbare
    rw [Bool.and_eq_true, decide_eq_true_eq] at hinc
    exact ⟨line, e, line', e', toOption_eq_some.1 hparse, hschema, hinc⟩
  obtain ⟨line, e, hparse, hinc, hhref⟩ := hself
  obtain ⟨line', e', line'', e'', hparse', hschema, hinc', hhref'⟩ := hloop
  have hread : r.files.read (.ofText "/self") = .ok selfText := rfl
  have hread' : r.files.read (.ofText "/loop") = .ok loopText := rfl
  have hfollow (file : Path) (hfile : file = .ofText "/loop" ∨ file = .ofText "/self") :
      r.search.resolve? r.files (Reader.systemId file "self") = some (.ofText "/self") := by
    rcases hfile with rfl | rfl <;> decide +kernel
  have hagain (d : Nat) : r.Enters ⟨.schema, .ofText "/self", d, .element line e []⟩ []
      ⟨.schema, .ofText "/self", d + 1, .element line e []⟩ :=
    .inclusion hinc ⟨"self", selfText, hhref, hfollow _ (.inr rfl), hread, hparse⟩
  have hleads : ∀ n d, d + n = 16 → r.LeadsTo ⟨.schema, .ofText "/self", d, .element line e []⟩ []
      ⟨.schema, .ofText "/self", 16, .element line e []⟩ := by
    intro n
    induction n with
    | zero =>
      rintro d rfl
      exact .here _
    | succ n ih =>
      intro d hd
      exact .step (fun _ => show d < 16 by omega) (hagain d) (ih (d + 1) (by omega))
  have hstart {w : Visit} (h : r.LeadsTo ⟨.schema, .ofText "/self", 1, .element line e []⟩ [] w) :
      r.Visits (.ofText "/loop") [] w :=
    ⟨loopText, line', e', [], _, [], [], hread', hparse', hschema,
      .step (fun _ => show 0 < 16 by decide) (.inclusion hinc'
        ⟨"self", selfText, hhref', hfollow _ (.inl rfl), hread, hparse⟩) h, rfl⟩
  exact ⟨⟨set, tree, hset, hsingle, hreaders⟩, hdeep [] _ (hstart (hleads 15 1 rfl)) hinc rfl,
    hendless (fun n => ⟨.schema, .ofText "/self", n + 1, .element line e []⟩)
      ⟨[], hstart (.here _)⟩ fun n => ⟨[], hagain (n + 1)⟩⟩

end XmlAudit.Schematron
