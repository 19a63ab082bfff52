import XmlAudit.Proofs.Outcome
import XmlAudit.Xml.Reference

/-!
# What references stand for

* `Refers`, `Expands`: a reference and a text, given what the entities stand for.
* `expand_eq_ok`: `expand` finds exactly the expansion of a text.
* `Expands.append_reference`: a text around a reference expands where its parts do.
* `Defines`: what a list of declarations makes of a name, the first of which counts.
* `lookup_foldl_add`: a table holds what its declarations define.
-/

namespace XmlAudit.Xml

/-! ## Texts with references -/

/-- A word that may stand between the `&` and the `;` of a reference. -/
def IsReference (name : List Char) : Prop := ∀ c ∈ name, c ≠ ';' ∧ c ≠ '&'

/-- The character of a numeric reference, given what stands between `&#` and `;`. -/
def numbered? (digits : List Char) : Option Char :=
  ((codePoint digits).bind (characterOf 0 0)).toOption

/-- **What a reference stands for**, if entities stand for the texts that `M` assigns to them. The
five entities that need no declaration are not looked up. -/
inductive Refers (M : String → List Char → Prop) : List Char → List Char → Prop
  | character {digits c} (h : numbered? digits = some c) : Refers M ('#' :: digits) [c]
  | predefined {name c} (hname : name.head? ≠ some '#')
      (h : predefined.lookup (String.ofList name) = some c) : Refers M name [c]
  | entity {name value} (hname : name.head? ≠ some '#')
      (hown : predefined.lookup (String.ofList name) = none) (h : M (String.ofList name) value) :
    Refers M name value

/-- **A text with its references replaced** by what they stand for. -/
inductive Expands (M : String → List Char → Prop) : List Char → List Char → Prop
  | nil : Expands M [] []
  | plain {c raw cs} (hc : c ≠ '&') (h : Expands M raw cs) : Expands M (c :: raw) (c :: cs)
  | reference {name value raw cs} (hname : IsReference name) (hv : Refers M name value)
      (h : Expands M raw cs) : Expands M ('&' :: (name ++ ';' :: raw)) (value ++ cs)

/-- What a table makes of a name. -/
def Entities.Holds (en : Entities) (n : String) (value : List Char) : Prop :=
  en.lookup n = some (String.ofList value)

section

variable {M : String → List Char → Prop} {en : Entities} {name value raw cs : List Char}

theorem numbered?_eq_some {digits : List Char} {c : Char} (first last : Nat) :
    numbered? digits = some c ↔
      ∃ n, codePoint digits = .ok n ∧ characterOf first last n = .ok c := by
  have hchar : ∀ n, characterOf 0 0 n = .ok c ↔ characterOf first last n = .ok c := by
    intro n
    unfold characterOf
    split
    · simp
    · rfl
  rw [numbered?, toOption_eq_some]
  constructor
  · intro h
    obtain ⟨n, hn, hc⟩ := bind_eq_ok.1 h
    exact ⟨n, hn, (hchar n).1 hc⟩
  · rintro ⟨n, hn, hc⟩
    exact bind_eq_ok.2 ⟨n, hn, (hchar n).2 hc⟩

/-- A name that is neither a number nor predefined stands for what the entity does. -/
theorem refers_iff (hname : name.head? ≠ some '#')
    (hp : predefined.lookup (String.ofList name) = none) :
    Refers M name value ↔ M (String.ofList name) value := by
  constructor
  · intro h
    cases h with
    | character => exact absurd rfl hname
    | predefined _ h => rw [hp] at h; cases h
    | entity _ _ h => exact h
  · exact .entity hname hp

/-- **A reference is resolved to what it stands for.** -/
theorem resolve_eq_ok {first last : Nat} :
    resolve en first last name = .ok value ↔ Refers en.Holds name value := by
  unfold resolve
  split
  · next digits =>
    constructor
    · intro h
      obtain ⟨n, hn, h⟩ := bind_eq_ok.1 h
      obtain ⟨c, hc, h⟩ := bind_eq_ok.1 h
      cases h
      exact .character ((numbered?_eq_some first last).2 ⟨n, hn, hc⟩)
    · intro h
      cases h with
      | character h =>
        obtain ⟨n, hn, hc⟩ := (numbered?_eq_some first last).1 h
        exact bind_eq_ok.2 ⟨n, hn, bind_eq_ok.2 ⟨_, hc, rfl⟩⟩
      | predefined hname | entity hname => exact absurd rfl hname
  · next hhash =>
    have hname : name.head? ≠ some '#' := by
      intro h
      obtain ⟨digits, hd⟩ := List.head?_eq_some_iff.1 h
      exact hhash digits hd
    simp only
    -- predefined entities come before declared ones of their names
    cases hp : predefined.lookup (String.ofList name) with
    | some c =>
      constructor
      · intro h
        cases h
        exact .predefined hname hp
      · intro h
        cases h with
        | character => exact absurd rfl hname
        | predefined _ h => rw [hp] at h; cases h; rfl
        | entity _ hown => rw [hp] at hown; cases hown
    | none =>
      rw [refers_iff hname hp, Entities.Holds]
      cases en.lookup (String.ofList name) with
      | none => simp
      | some text => simp [String.ext_iff]

theorem expands_cons {c : Char} (hc : c ≠ '&') :
    Expands M (c :: raw) cs ↔ ∃ cs', Expands M raw cs' ∧ cs = c :: cs' := by
  constructor
  · intro h
    cases h with
    | plain _ h => exact ⟨_, h, rfl⟩
    | reference => exact absurd rfl hc
  · rintro ⟨cs', h, rfl⟩
    exact .plain hc h

theorem expands_ampersand :
    Expands M ('&' :: raw) cs ↔ ∃ name rest value cs', raw = name ++ ';' :: rest ∧
      IsReference name ∧ Refers M name value ∧ Expands M rest cs' ∧ cs = value ++ cs' := by
  constructor
  · intro h
    cases h with
    | plain hc => exact absurd rfl hc
    | reference hname hv h => exact ⟨_, _, _, _, rfl, hname, hv, h, rfl⟩
  · rintro ⟨name, rest, value, cs', rfl, hname, hv, h, rfl⟩
    exact .reference hname hv h

/-- The name of a reference ends at the first `;`. -/
theorem split_reference {c : Char} {more rest : List Char} (hmore : IsReference more)
    (h : c :: raw = more ++ ';' :: rest) :
    (c = ';' ∧ more = [] ∧ raw = rest) ∨
      c ≠ ';' ∧ c ≠ '&' ∧ ∃ later, more = c :: later ∧ raw = later ++ ';' :: rest := by
  cases more with
  | nil =>
    obtain ⟨rfl, rfl⟩ := List.cons.inj h
    exact .inl ⟨rfl, rfl, rfl⟩
  | cons m later =>
    obtain ⟨rfl, rfl⟩ := List.cons.inj h
    obtain ⟨hsemicolon, hand⟩ := hmore c List.mem_cons_self
    exact .inr ⟨hsemicolon, hand, later, rfl, rfl⟩

/-- What a text stands for within a reference, of whose name `name` was read, last character first. -/
def Continues (M : String → List Char → Prop) (name raw cs : List Char) : Prop :=
  ∃ more rest value cs', raw = more ++ ';' :: rest ∧ IsReference more ∧
    Refers M (name.reverse ++ more) value ∧ Expands M rest cs' ∧ cs = value ++ cs'

theorem not_continues_nil {name : List Char} : ¬Continues M name [] cs := by
  rintro ⟨more, rest, -, -, hsplit, -⟩
  cases more <;> cases hsplit

theorem not_continues_ampersand {name : List Char} : ¬Continues M name ('&' :: raw) cs := by
  rintro ⟨more, rest, value, cs', hsplit, hmore, -⟩
  obtain ⟨hc, -⟩ | ⟨-, hc, -⟩ := split_reference hmore hsplit
  · cases hc
  · exact absurd rfl hc

theorem continues_semicolon {name : List Char} :
    Continues M name (';' :: raw) cs ↔
      ∃ value cs', Refers M name.reverse value ∧ Expands M raw cs' ∧ cs = value ++ cs' := by
  constructor
  · rintro ⟨more, rest, value, cs', hsplit, hmore, hvalue, h, rfl⟩
    obtain ⟨-, rfl, rfl⟩ | ⟨hc, -⟩ := split_reference hmore hsplit
    · rw [List.append_nil] at hvalue
      exact ⟨value, cs', hvalue, h, rfl⟩
    · exact absurd rfl hc
  · rintro ⟨value, cs', hvalue, h, rfl⟩
    refine ⟨[], raw, value, cs', rfl, nofun, ?_, h, rfl⟩
    rwa [List.append_nil]

theorem continues_cons {name : List Char} {c : Char} (hsemicolon : c ≠ ';') (hand : c ≠ '&') :
    Continues M name (c :: raw) cs ↔ Continues M (c :: name) raw cs := by
  constructor
  · rintro ⟨more, rest, value, cs', hsplit, hmore, hvalue, h, rfl⟩
    obtain ⟨hc, -⟩ | ⟨-, -, later, rfl, rfl⟩ := split_reference hmore hsplit
    · exact absurd hc hsemicolon
    · refine ⟨later, rest, value, cs', rfl, ?_, ?_, h, rfl⟩
      · exact fun d hd => hmore d (List.mem_cons_of_mem c hd)
      · simpa using hvalue
  · rintro ⟨more, rest, value, cs', rfl, hmore, hvalue, h, rfl⟩
    refine ⟨c :: more, rest, value, cs', rfl, ?_, ?_, h, rfl⟩
    · exact List.forall_mem_cons.2 ⟨⟨hsemicolon, hand⟩, hmore⟩
    · simpa using hvalue

/-- **One character at a time:** outside a reference the rest of a text expands; inside one the name
goes on to the next `;`. -/
theorem expandFrom_eq_ok {size : Nat} (raw : List Char) :
    (∀ position cs, expandFrom en size position none raw = .ok cs ↔ Expands en.Holds raw cs) ∧
    ∀ position first name cs, expandFrom en size position (some (first, name)) raw = .ok cs ↔
      Continues en.Holds name raw cs := by
  -- both at once, as either state can follow the other
  induction raw with
  | nil =>
    refine ⟨fun position cs => ?_, fun position first name cs => ?_⟩
    · rw [expandFrom]
      constructor
      · intro h; cases h; exact .nil
      · intro h; cases h; rfl
    · rw [expandFrom]
      exact iff_of_false nofun not_continues_nil
  | cons c raw ih =>
    obtain ⟨ihOutside, ihInside⟩ := ih
    refine ⟨fun position cs => ?_, fun position first name cs => ?_⟩
    · rw [expandFrom]
      split_ifs with hc
      · rw [hc, ihInside, expands_ampersand]
        rfl
      · rw [expands_cons hc, bind_eq_ok]
        refine exists_congr fun cs' => and_congr (ihOutside _ _) ⟨fun h => ?_, fun h => ?_⟩
        · cases h; rfl
        · rw [h]; rfl
    · rw [expandFrom]
      split_ifs with hsemicolon hand
      · -- the reference is complete
        rw [hsemicolon, continues_semicolon, bind_eq_ok]
        constructor
        · rintro ⟨value, hvalue, h⟩
          obtain ⟨cs', hcs', h⟩ := bind_eq_ok.1 h
          cases h
          exact ⟨value, cs', resolve_eq_ok.1 hvalue, (ihOutside _ _).1 hcs', rfl⟩
        · rintro ⟨value, cs', hvalue, hcs', rfl⟩
          exact ⟨value, resolve_eq_ok.2 hvalue, bind_eq_ok.2 ⟨cs', (ihOutside _ _).2 hcs', rfl⟩⟩
      · rw [hand]
        exact iff_of_false nofun not_continues_ampersand
      · rw [ihInside, continues_cons hsemicolon hand]

/-- **A text is expanded to what its references stand for.** -/
theorem expand_eq_ok : expand en raw = .ok cs ↔ Expands en.Holds raw cs :=
  (expandFrom_eq_ok raw).1 0 cs

theorem Expands.append {raw' cs' : List Char} (h : Expands M raw cs) (h' : Expands M raw' cs') :
    Expands M (raw ++ raw') (cs ++ cs') := by
  induction h with
  | nil => exact h'
  | plain hc _ ih => exact .plain hc ih
  | reference hname hv _ ih =>
    have := Expands.reference hname hv ih
    simpa using this

/-- Two readings of one name agree. -/
theorem name_unique {name' back back' : List Char} (h : IsReference name) (h' : IsReference name')
    (heq : name ++ ';' :: back = name' ++ ';' :: back') : name = name' ∧ back = back' := by
  induction name generalizing name' with
  | nil =>
    obtain ⟨-, rfl, rfl⟩ | ⟨hc, -⟩ := split_reference h' heq
    · exact ⟨rfl, rfl⟩
    · exact absurd rfl hc
  | cons c name ih =>
    obtain ⟨hc, -⟩ | ⟨-, -, later, rfl, hback⟩ := split_reference h' heq
    · exact absurd hc (h c List.mem_cons_self).1
    · obtain ⟨rfl, rfl⟩ := ih (fun d hd => h d (List.mem_cons_of_mem c hd))
        (fun d hd => h' d (List.mem_cons_of_mem c hd)) hback
      exact ⟨rfl, rfl⟩

/-- A name that starts before an `&` ends before it. -/
theorem name_before {front back rest : List Char} (h : IsReference name)
    (heq : front ++ '&' :: back = name ++ ';' :: rest) :
    ∃ front', front = name ++ ';' :: front' ∧ front' ++ '&' :: back = rest := by
  induction name generalizing front with
  | nil =>
    cases front with
    | nil => cases heq
    | cons f front =>
      obtain ⟨rfl, rfl⟩ := List.cons.inj heq
      exact ⟨front, rfl, rfl⟩
  | cons c name ih =>
    cases front with
    | nil => exact absurd (List.cons.inj heq).1.symm (h c List.mem_cons_self).2
    | cons f front =>
      obtain ⟨rfl, htail⟩ := List.cons.inj heq
      obtain ⟨front', rfl, hrest⟩ := ih (fun d hd => h d (List.mem_cons_of_mem f hd)) htail
      exact ⟨front', rfl, hrest⟩

/-- **A reference in a text** stands for something, and the text before it and the one behind it
expand by themselves. -/
theorem expands_append_reference {front back : List Char} (hname : IsReference name) :
    Expands M (front ++ '&' :: (name ++ ';' :: back)) cs ↔
      ∃ cs₁ value cs₂, Expands M front cs₁ ∧ Refers M name value ∧ Expands M back cs₂ ∧
        cs = cs₁ ++ (value ++ cs₂) := by
  constructor
  · intro h
    -- along the derivation, of which the text before the reference takes some steps
    generalize hraw : front ++ '&' :: (name ++ ';' :: back) = raw at h
    induction h generalizing front with
    | nil => simp at hraw
    | @plain c raw cs hc h ih =>
      cases front with
      | nil => exact absurd (List.cons.inj hraw).1.symm hc
      | cons f front =>
        obtain ⟨rfl, htail⟩ := List.cons.inj hraw
        obtain ⟨cs₁, value, cs₂, h₁, hv, h₂, rfl⟩ := ih htail
        exact ⟨f :: cs₁, value, cs₂, .plain hc h₁, hv, h₂, rfl⟩
    | @reference name' value' raw cs hname' hv h ih =>
      cases front with
      | nil =>
        obtain ⟨rfl, rfl⟩ := name_unique hname hname' (List.cons.inj hraw).2
        exact ⟨[], value', cs, .nil, hv, h, rfl⟩
      | cons f front =>
        obtain ⟨rfl, htail⟩ := List.cons.inj hraw
        obtain ⟨front', rfl, hbehind⟩ := name_before hname' htail
        obtain ⟨cs₁, value, cs₂, h₁, hv', h₂, rfl⟩ := ih hbehind
        refine ⟨value' ++ cs₁, value, cs₂, .reference hname' hv h₁, hv', h₂, ?_⟩
        simp
  · rintro ⟨cs₁, value, cs₂, h₁, hv, h₂, rfl⟩
    exact h₁.append (.reference hname hv h₂)

/-- A reference that stands for nothing keeps the text around it from expanding. -/
theorem Expands.refers {front back : List Char} (hname : IsReference name)
    (h : Expands M (front ++ '&' :: (name ++ ';' :: back)) cs) : ∃ value, Refers M name value := by
  obtain ⟨-, value, -, -, hv, -⟩ := (expands_append_reference hname).1 h
  exact ⟨value, hv⟩

end

/-! ## Declared entities -/

/-- **What declarations make of a name:** the value of the first declaration of that name, with the
references in it replaced by what they stand for by the declarations before it. -/
def Defines (ds : List (String × List Char)) (n : String) (value : List Char) : Prop :=
  ∃ before raw after, ∃ _ : ds = before ++ (n, raw) :: after,
    (∀ d ∈ before, d.1 ≠ n) ∧ Expands (Defines before) raw value
termination_by ds.length
decreasing_by
  rw [‹ds = _›, List.length_append, List.length_cons]
  omega

/-- Every value refers only to what stands for something by the declarations before it, unless its
name was declared before. -/
def Settled (ds : List (String × List Char)) : Prop :=
  ∀ before n raw after, ds = before ++ (n, raw) :: after → (∀ d ∈ before, d.1 ≠ n) →
    ∃ value, Expands (Defines before) raw value

section

variable {ds : List (String × List Char)} {m n : String} {raw value : List Char}

theorem Settled.front {ds' : List (String × List Char)} (h : Settled (ds ++ ds')) : Settled ds := by
  rintro before n raw after rfl hfirst
  exact h before n raw (after ++ ds') (by simp) hfirst

/-- One more declaration counts where the name is new. -/
theorem defines_concat : Defines (ds ++ [(m, raw)]) n value ↔
    Defines ds n value ∨ n = m ∧ (∀ d ∈ ds, d.1 ≠ m) ∧ Expands (Defines ds) raw value := by
  rw [Defines, Defines]
  constructor
  · rintro ⟨before, raw', after, hsplit, hfirst, h⟩
    rcases List.eq_nil_or_concat after with rfl | ⟨after, last, rfl⟩
    · obtain ⟨rfl, hlast⟩ := List.append_inj' hsplit rfl
      cases hlast
      exact .inr ⟨rfl, hfirst, h⟩
    · rw [List.concat_eq_append, ← List.cons_append, ← List.append_assoc] at hsplit
      obtain ⟨rfl, -⟩ := List.append_inj' hsplit rfl
      exact .inl ⟨before, raw', after, rfl, hfirst, h⟩
  · rintro (⟨before, raw', after, rfl, hfirst, h⟩ | ⟨rfl, hfirst, h⟩)
    · exact ⟨before, raw', after ++ [(m, raw)], by simp, hfirst, h⟩
    · exact ⟨ds, raw, [], rfl, hfirst, h⟩

/-- The table of a list of declarations, from the front on. -/
def tableOf (ds : List (String × List Char)) : Entities := ds.foldl Entities.add []

theorem tableOf_concat (d : String × List Char) : tableOf (ds ++ [d]) = (tableOf ds).add d := by
  rw [tableOf, List.foldl_append]
  rfl

/-- The value of a new name is written behind the table. -/
theorem lookup_add_of_new {en : Entities} (raw : List Char) (h : en.lookup m = none) :
    ∃ text, (∀ cs, expand en raw = .ok cs → text = cs) ∧ ∀ n,
      (en.add (m, raw)).lookup n = (en.lookup n).or (if n = m then some (String.ofList text) else none) := by
  have hadd : ∀ text : String, ∀ n, (en ++ [(m, text)]).lookup n =
      (en.lookup n).or (if n = m then some text else none) := by
    intro text n
    rw [List.lookup_append, List.lookup_cons, List.lookup_nil]
    by_cases hn : n = m
    · simp [hn]
    · rw [if_neg hn, beq_eq_false_iff_ne.2 hn]
  rw [Entities.add]
  simp only [h, Option.isSome_none, Bool.false_eq_true, if_false]
  cases expand en raw with
  | ok text => exact ⟨text, fun cs hcs => by cases hcs; rfl, hadd _⟩
  | error => exact ⟨raw, ⟨fun cs hcs => (by cases hcs), hadd _⟩⟩

theorem add_of_known {en : Entities} (h : (en.lookup m).isSome) : en.add (m, raw) = en := by
  rw [Entities.add, if_pos h]

/-- A table has the names that were declared. -/
theorem lookup_tableOf_eq_none : (tableOf ds).lookup n = none ↔ ∀ d ∈ ds, d.1 ≠ n := by
  induction ds using List.reverseRecOn generalizing n with
  | nil => simp [tableOf]
  | append_singleton ds d ih =>
    obtain ⟨m, raw⟩ := d
    rw [tableOf_concat, List.forall_mem_append, List.forall_mem_singleton, ← ih]
    cases hm : (tableOf ds).lookup m with
    | some text =>
      rw [add_of_known (by rw [hm]; rfl)]
      refine ⟨fun h => ⟨h, ?_⟩, fun h => h.1⟩
      rintro rfl
      rw [hm] at h
      cases h
    | none =>
      obtain ⟨text, -, hlookup⟩ := lookup_add_of_new raw hm
      rw [hlookup, Option.or_eq_none_iff]
      simp [eq_comm]

/-- **A table holds what its declarations define.** -/
theorem holds_tableOf (h : Settled ds) : (tableOf ds).Holds n value ↔ Defines ds n value := by
  induction ds using List.reverseRecOn generalizing n value with
  | nil =>
    rw [Defines]
    simp [tableOf, Entities.Holds]
  | append_singleton ds d ih =>
    obtain ⟨m, raw⟩ := d
    have hds : (tableOf ds).Holds = Defines ds := by
      funext n value
      exact propext (ih h.front)
    rw [tableOf_concat, defines_concat, ← hds]
    cases hm : (tableOf ds).lookup m with
    | some text =>
      have hknown : ¬ ∀ d ∈ ds, d.1 ≠ m := by
        rw [← lookup_tableOf_eq_none, hm]
        simp
      rw [add_of_known (by rw [hm]; rfl)]
      exact ⟨.inl, fun h => h.resolve_right fun h => hknown h.2.1⟩
    | none =>
      have hfirst := lookup_tableOf_eq_none.1 hm
      -- the value expands, so that it is not kept as written
      obtain ⟨cs, hcs⟩ := h ds m raw [] rfl hfirst
      rw [← hds, ← expand_eq_ok] at hcs
      obtain ⟨text, htext, hlookup⟩ := lookup_add_of_new raw hm
      obtain rfl := htext cs hcs
      rw [← expand_eq_ok, hcs, Entities.Holds, Entities.Holds, hlookup]
      by_cases hn : n = m
      · subst hn
        rw [hm, if_pos rfl]
        constructor
        · intro htable
          obtain rfl := String.ofList_injective (Option.some.inj htable)
          exact .inr ⟨rfl, hfirst, rfl⟩
        · rintro (htable | ⟨-, -, hcs⟩)
          · cases htable
          · cases hcs
            rfl
      · simp [hn]

/-- **A table expands texts by its declarations.** -/
theorem expand_tableOf (h : Settled ds) {raw cs : List Char} :
    expand (tableOf ds) raw = .ok cs ↔ Expands (Defines ds) raw cs := by
  have hds : (tableOf ds).Holds = Defines ds := by
    funext n value
    exact propext (holds_tableOf h)
  rw [expand_eq_ok, hds]

theorem settled_nil : Settled [] := by
  intro before n raw after hsplit
  simp at hsplit

/-- One more declaration is settled if its value expands by those before it. -/
theorem Settled.concat (h : Settled ds)
    (hraw : (∀ d ∈ ds, d.1 ≠ m) → ∃ cs, expand (tableOf ds) raw = .ok cs) :
    Settled (ds ++ [(m, raw)]) := by
  intro before n raw' after hsplit hfirst
  rcases List.eq_nil_or_concat after with rfl | ⟨after, last, rfl⟩
  · obtain ⟨rfl, hlast⟩ := List.append_inj' hsplit rfl
    cases hlast
    obtain ⟨cs, hcs⟩ := hraw hfirst
    exact ⟨cs, (expand_tableOf h).1 hcs⟩
  · rw [List.concat_eq_append, ← List.cons_append, ← List.append_assoc] at hsplit
    obtain ⟨rfl, -⟩ := List.append_inj' hsplit rfl
    exact h before n raw' after rfl hfirst

/-- Exactly the declared names stand for something. -/
theorem exists_defines_iff (h : Settled ds) : (∃ value, Defines ds n value) ↔ n ∈ ds.map (·.1) := by
  have hnone : (tableOf ds).lookup n ≠ none ↔ n ∈ ds.map (·.1) := by
    rw [Ne, lookup_tableOf_eq_none, List.mem_map]
    simp only [not_forall, Classical.not_not, exists_prop]
  rw [← hnone, Option.ne_none_iff_exists']
  simp only [← holds_tableOf h, Entities.Holds]
  constructor
  · rintro ⟨value, hvalue⟩
    exact ⟨_, hvalue⟩
  · rintro ⟨text, htext⟩
    exact ⟨text.toList, by rw [htext, String.ofList_toList]⟩

end

end XmlAudit.Xml
