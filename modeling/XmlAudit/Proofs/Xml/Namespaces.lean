import Mathlib
import XmlAudit.Proofs.Outcome
import XmlAudit.Xml.Namespaces

/-!
# The two sides of a namespace table

* `Namespaces.uris_ofList`, `Namespaces.prefixes_ofList`: each side of a table holds every binding.
* `Namespaces.Rebound`: a prefix that was bound to another namespace since.
* `Namespaces.exists_ofDocument`: the table of a document is that of bindings, too.
* `Namespaces.boundPrefix_bound`: the prefix of a namespace is bound to it, unless it was bound anew.
-/

namespace XmlAudit.Xml.Namespaces

variable {bindings : List (String × String)} {u p : String}

/-! ## What a table holds -/

theorem uris_foldl (bindings : List (String × String)) (n : Namespaces) :
    (bindings.foldl declare n).uris = bindings.reverse ++ n.uris := by
  induction bindings generalizing n with
  | nil => rfl
  | cons b bs ih => rw [List.foldl_cons, ih, declare, List.reverse_cons, List.append_assoc]; rfl

theorem prefixes_foldl (bindings : List (String × String)) (n : Namespaces) :
    (bindings.foldl declare n).prefixes = (bindings.map Prod.swap).reverse ++ n.prefixes := by
  induction bindings generalizing n with
  | nil => rfl
  | cons b bs ih =>
    rw [List.foldl_cons, ih, declare, List.map_cons, List.reverse_cons, List.append_assoc]
    rfl

theorem uris_ofList (bindings : List (String × String)) : (ofList bindings).uris = bindings.reverse := by
  rw [ofList, uris_foldl]
  exact List.append_nil _

theorem prefixes_ofList (bindings : List (String × String)) :
    (ofList bindings).prefixes = (bindings.map Prod.swap).reverse := by
  rw [ofList, prefixes_foldl]
  exact List.append_nil _

theorem exists_lookup_reverse {α β : Type} [BEq α] [LawfulBEq α] {l : List (α × β)} {a : α} {b : β}
    (h : (a, b) ∈ l) : ∃ b', l.reverse.lookup a = some b' := by
  cases hl : l.reverse.lookup a with
  | some b' => exact ⟨b', rfl⟩
  | none =>
    have hne := List.lookup_eq_none_iff.1 hl (a, b) (List.mem_reverse.2 h)
    simp at hne

/-! ## Bindings that last -/

/-- What was declared after a binding was declared for the last time. -/
def declaredSince (bindings : List (String × String)) (b : String × String) :
    List (String × String) :=
  (bindings.reverse.takeWhile (· ≠ b)).reverse

/-- **A prefix bound anew** since it was bound to the namespace `u`. -/
def Rebound (bindings : List (String × String)) (p u : String) : Prop :=
  ∃ b ∈ declaredSince bindings (p, u), b.1 = p

instance : Decidable (Rebound bindings p u) :=
  inferInstanceAs (Decidable (∃ b ∈ declaredSince bindings (p, u), b.1 = p))

/-- A prefix that is bound and not bound anew has its namespace. -/
theorem lookup_uris_of_not_rebound (hmem : (p, u) ∈ bindings) (h : ¬Rebound bindings p u) :
    (ofList bindings).uris.lookup p = some u := by
  have hlater : (bindings.reverse.takeWhile (· ≠ (p, u))).lookup p = none := by
    rw [List.lookup_eq_none_iff]
    intro b hb
    have hne : b.1 ≠ p := fun hb' => h ⟨b, List.mem_reverse.2 hb, hb'⟩
    simpa using Ne.symm hne
  have hlast : ∃ rest, bindings.reverse.dropWhile (· ≠ (p, u)) = (p, u) :: rest := by
    cases hdrop : bindings.reverse.dropWhile (· ≠ (p, u)) with
    | nil =>
      have hall := List.dropWhile_eq_nil_iff.1 hdrop (p, u) (List.mem_reverse.2 hmem)
      simp at hall
    | cons b rest =>
      have hhead := List.head_dropWhile_not (l := bindings.reverse) (· ≠ (p, u))
        (hdrop ▸ List.cons_ne_nil b rest)
      simp only [hdrop, List.head_cons] at hhead
      exact ⟨rest, by rw [show b = (p, u) by simpa using hhead]⟩
  obtain ⟨rest, hrest⟩ := hlast
  -- the table is looked through from its end: what was declared since, and then the binding
  rw [uris_ofList, ← List.takeWhile_append_dropWhile (p := (· ≠ (p, u))) (l := bindings.reverse),
    List.lookup_append, hlater, hrest, Option.none_or, List.lookup_cons_self]

/-- The prefix of a namespace was declared with it. -/
theorem mem_of_boundPrefix? (h : (ofList bindings).boundPrefix? u = some p) : (p, u) ∈ bindings := by
  rw [boundPrefix?, prefixes_ofList] at h
  obtain ⟨b, hb, hswap⟩ := List.mem_map.1 (List.mem_reverse.1 (mem_of_lookup h))
  obtain ⟨rfl, rfl⟩ := Prod.mk.inj hswap
  exact hb

/-- Every namespace that some prefix has is told a prefix. -/
theorem exists_boundPrefix? (h : (ofList bindings).uris.lookup p = some u) :
    ∃ q, (ofList bindings).boundPrefix? u = some q := by
  rw [uris_ofList] at h
  have hmem : (p, u) ∈ bindings := List.mem_reverse.1 (mem_of_lookup h)
  rw [boundPrefix?, prefixes_ofList]
  exact exists_lookup_reverse (List.mem_map_of_mem (f := Prod.swap) hmem)

/-! ## Tables of documents -/

/-- The binding that a declaration makes. -/
def bindingOf (b : Declaration) : String × String := (b.1.getD defaultPrefix, b.2)

/-- Declarations are entered in order, but for default ones where there is one already. -/
theorem exists_foldl_addDeclaration (ds : List Declaration) (n : Namespaces) :
    ∃ bindings, List.Sublist bindings (ds.map bindingOf) ∧
      ds.foldl addDeclaration n = bindings.foldl declare n := by
  induction ds generalizing n with
  | nil => exact ⟨[], List.Sublist.refl _, rfl⟩
  | cons b ds ih =>
    obtain ⟨q, u⟩ := b
    obtain ⟨bindings, hsub, hfold⟩ := ih (n.addDeclaration (q, u))
    have hcases : n.addDeclaration (q, u) = n.declare (bindingOf (q, u)) ∨
        n.addDeclaration (q, u) = n := by
      cases q with
      | some p => exact .inl rfl
      | none =>
        unfold addDeclaration
        dsimp only
        split
        · exact .inr rfl
        · exact .inl rfl
    rw [List.foldl_cons, hfold]
    rcases hcases with hentered | hkept
    · rw [hentered]
      exact ⟨bindingOf (q, u) :: bindings, hsub.cons_cons _, rfl⟩
    · rw [hkept]
      exact ⟨bindings, hsub.cons _, rfl⟩

/-- The declarations of the document element and, if `recursive`, of all elements inside it. -/
def declarationsOf (d : Document) (recursive : Bool) : List Declaration :=
  (if recursive then Document.documentElement :: d.descendants Document.documentElement
    else [Document.documentElement]).flatMap fun id => ((d.element? id).map (·.declarations)).getD []

/-- **The table of a document** is that of some of its declarations, in order. -/
theorem exists_ofDocument (d : Document) (recursive : Bool) :
    ∃ bindings, List.Sublist bindings ((declarationsOf d recursive).map bindingOf) ∧
      ofDocument d recursive = ofList bindings :=
  exists_foldl_addDeclaration (declarationsOf d recursive) empty

/-! ## The two sides -/

/-- **The prefix of a namespace is bound to it**, in every table of bindings and so in that of every
document, unless it is the empty prefix, which stands for the default namespace, or was bound anew;
and every namespace that some prefix has is told a prefix. -/
theorem boundPrefix_bound :
    (∀ bindings u p, (ofList bindings).boundPrefix? u = some p → (p, u) ∈ bindings ∧
      (p ≠ "" → ¬Rebound bindings p u → (ofList bindings).uri? (some p) = some u)) ∧
    (∀ bindings p u, (ofList bindings).uris.lookup p = some u →
      ∃ q, (ofList bindings).boundPrefix? u = some q) ∧
    ∀ d recursive, ∃ bindings, List.Sublist bindings ((declarationsOf d recursive).map bindingOf) ∧
      ofDocument d recursive = ofList bindings := by
  refine ⟨fun bindings u p h => ⟨mem_of_boundPrefix? h, fun hp hlasting => ?_⟩,
    fun _ _ _ => exists_boundPrefix?, exists_ofDocument⟩
  rw [uri?, if_neg hp]
  exact lookup_uris_of_not_rebound (mem_of_boundPrefix? h) hlasting

/-- A prefix that is bound to another namespace and back, and a namespace with two prefixes. -/
theorem boundPrefix_bound_again :
    let bindings := [("p", "a"), ("p", "b"), ("q", "b"), ("p", "a"), ("r", "a")]
    (ofList bindings).boundPrefix? "a" = some "r" ∧ "r" ≠ "" ∧ ¬Rebound bindings "r" "a" ∧
      (ofList bindings).uri? (some "r") = some "a" := by
  intro bindings
  have htold : (ofList bindings).boundPrefix? "a" = some "r" := by decide
  have hlasting : ¬Rebound bindings "r" "a" := by decide
  exact ⟨htold, by decide, hlasting,
    (boundPrefix_bound.1 bindings "a" "r" htold).2 (by decide) hlasting⟩

/-- A prefix bound to two namespaces in turn is told for both, and has the latter; the empty prefix is
told for its namespace, and stands for the default one. -/
theorem boundPrefix_not_bound :
    let n := ofList [("p", "a"), ("p", "b"), ("", "c")]
    n.boundPrefix? "a" = some "p" ∧ n.uri? (some "p") = some "b" ∧
      n.boundPrefix? "c" = some "" ∧ n.uri? (some "") = none := by
  decide

end XmlAudit.Xml.Namespaces
