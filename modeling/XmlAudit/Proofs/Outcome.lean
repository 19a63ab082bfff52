import Mathlib

/-!
# Outcomes that can fail

What it means for a sequence of fallible steps to succeed, and to fail.

* `bind_eq_ok`, `map_eq_ok`, `mapError_eq_ok`: one step behind another.
* `mapM_eq_ok`, `exists_mapM_iff`, `ok_of_filterM`, `subset_of_filterM`: a step for every member of a list.
* `bind_eq_error`, `map_eq_error`, `mapM_eq_error_iff`, `foldlM_eq_error_iff`, `filterM_eq_error`: the step
  that fails.
* `exists_right_of_forall₂`, `exists_left_of_forall₂`, `forall₂_comp`: the partner of a member.
* `mem_of_lookup`, `lookup_of_unique`: what is found under a key.
* `bind_toOption`, `mapError_toOption`, `mapM_toOption`: what succeeds, whatever the errors are.
* `bind_run_ok`, `bind_run_error`, `mapM_run`, `mapM_run_unchanged`, `forall₂_run_mapM`, `ofExcept_run`,
  `tryCatch_run_ok`, `tryCatch_run_error`: steps that also change a state.
-/

namespace XmlAudit

variable {ε ε' α β : Type}

theorem bind_eq_ok {x : Except ε α} {f : α → Except ε β} {b : β} :
    (x >>= f) = .ok b ↔ ∃ a, x = .ok a ∧ f a = .ok b := by
  cases x <;> simp [bind, Except.bind]

theorem map_eq_ok {x : Except ε α} {f : α → β} {b : β} :
    x.map f = .ok b ↔ ∃ a, x = .ok a ∧ f a = b := by
  cases x <;> simp [Except.map]

theorem exists_map_eq_ok {x : Except ε α} {f : α → β} :
    (∃ b, x.map f = .ok b) ↔ ∃ a, x = .ok a := by
  cases x <;> simp [Except.map]

theorem mapError_eq_ok {x : Except ε α} {f : ε → ε'} {a : α} :
    x.mapError f = .ok a ↔ x = .ok a := by
  cases x <;> simp [Except.mapError]

/-- **A step for every member of a list succeeds** with the results of each of them. -/
theorem mapM_eq_ok {f : α → Except ε β} {as : List α} {bs : List β} :
    as.mapM f = .ok bs ↔ List.Forall₂ (fun a b => f a = .ok b) as bs := by
  induction as generalizing bs with
  | nil =>
    rw [List.mapM_nil, List.forall₂_nil_left_iff]
    exact ⟨fun h => by cases h; rfl, fun h => by subst h; rfl⟩
  | cons a as ih =>
    rw [List.mapM_cons, List.forall₂_cons_left_iff, bind_eq_ok]
    constructor
    · rintro ⟨b, hb, h⟩
      obtain ⟨bs', hbs, h⟩ := bind_eq_ok.1 h
      cases h
      exact ⟨b, bs', hb, ih.1 hbs, rfl⟩
    · rintro ⟨b, bs', hb, hbs, rfl⟩
      exact ⟨b, hb, bind_eq_ok.2 ⟨bs', ih.2 hbs, rfl⟩⟩

theorem bind_eq_error {x : Except ε α} {f : α → Except ε β} {e : ε} :
    (x >>= f) = .error e ↔ x = .error e ∨ ∃ a, x = .ok a ∧ f a = .error e := by
  cases x <;> simp [bind, Except.bind]

theorem map_eq_error {x : Except ε α} {f : α → β} {e : ε} : x.map f = .error e ↔ x = .error e := by
  cases x <;> simp [Except.map]

/-- **What fails for a list fails for the first of its members that fails.** -/
theorem mapM_eq_error_iff {f : α → Except ε β} {as : List α} {e : ε} :
    as.mapM f = .error e ↔ ∃ before a after, as = before ++ a :: after ∧
      (∀ a ∈ before, ∃ b, f a = .ok b) ∧ f a = .error e := by
  induction as with
  | nil => simp [List.mapM_nil, pure, Except.pure]
  | cons a as ih =>
    rw [List.mapM_cons, bind_eq_error]
    constructor
    · rintro (h | ⟨b, hb, h⟩)
      · exact ⟨[], a, as, rfl, by simp, h⟩
      · rcases bind_eq_error.1 h with h | ⟨bs, -, h⟩
        · obtain ⟨before, a', after, rfl, hbefore, h⟩ := ih.1 h
          exact ⟨a :: before, a', after, rfl, List.forall_mem_cons.2 ⟨⟨b, hb⟩, hbefore⟩, h⟩
        · cases h
    · rintro ⟨before, a', after, h, hbefore, hfails⟩
      cases before with
      | nil =>
        obtain ⟨rfl, rfl⟩ := List.cons.inj h
        exact .inl hfails
      | cons a₀ before =>
        obtain ⟨rfl, rfl⟩ := List.cons.inj h
        obtain ⟨⟨b, hb⟩, hbefore⟩ := List.forall_mem_cons.1 hbefore
        exact .inr ⟨b, hb, bind_eq_error.2 (.inl (ih.2 ⟨before, a', after, rfl, hbefore, hfails⟩))⟩

theorem mapM_eq_error {f : α → Except ε β} {as : List α} {e : ε} (h : as.mapM f = .error e) :
    ∃ a ∈ as, f a = .error e := by
  obtain ⟨before, a, after, rfl, -, h⟩ := mapM_eq_error_iff.1 h
  exact ⟨a, List.mem_append_right _ List.mem_cons_self, h⟩

/-- **What fails in turn for the members of a list fails for one of them**, where it succeeds for those
before it. -/
theorem foldlM_eq_error_iff {f : β → α → Except ε β} {as : List α} {b : β} {e : ε} :
    as.foldlM f b = .error e ↔ ∃ before a after c, as = before ++ a :: after ∧
      before.foldlM f b = .ok c ∧ f c a = .error e := by
  induction as generalizing b with
  | nil => simp [List.foldlM_nil, pure, Except.pure]
  | cons a as ih =>
    rw [List.foldlM_cons, bind_eq_error]
    constructor
    · rintro (h | ⟨b', hb, h⟩)
      · exact ⟨[], a, as, b, rfl, rfl, h⟩
      · obtain ⟨before, a', after, c, rfl, hbefore, h⟩ := ih.1 h
        exact ⟨a :: before, a', after, c, rfl, bind_eq_ok.2 ⟨b', hb, hbefore⟩, h⟩
    · rintro ⟨before, a', after, c, h, hbefore, hfails⟩
      cases before with
      | nil =>
        cases h
        cases hbefore
        exact .inl hfails
      | cons a₀ before =>
        cases h
        obtain ⟨b', hb, hbefore⟩ := bind_eq_ok.1 hbefore
        exact .inr ⟨b', hb, ih.2 ⟨before, a', after, c, rfl, hbefore, hfails⟩⟩

theorem filterAuxM_eq_error {p : α → Except ε Bool} {as acc : List α} {e : ε}
    (h : as.filterAuxM p acc = .error e) : ∃ a ∈ as, p a = .error e := by
  induction as generalizing acc with
  | nil => cases h
  | cons a as ih =>
    rcases bind_eq_error.1 h with h | ⟨b, -, h⟩
    · exact ⟨a, List.mem_cons_self, h⟩
    · obtain ⟨a', ha', h⟩ := ih h
      exact ⟨a', List.mem_cons_of_mem _ ha', h⟩

theorem filterM_eq_error {p : α → Except ε Bool} {as : List α} {e : ε}
    (h : as.filterM p = .error e) : ∃ a ∈ as, p a = .error e := by
  rcases bind_eq_error.1 h with h | ⟨bs, -, h⟩
  · exact filterAuxM_eq_error h
  · cases h

theorem ok_of_filterAuxM {p : α → Except ε Bool} {as acc bs : List α}
    (h : as.filterAuxM p acc = .ok bs) : ∀ a ∈ as, ∃ b, p a = .ok b := by
  induction as generalizing acc with
  | nil => simp
  | cons a as ih =>
    obtain ⟨b, hb, h⟩ := bind_eq_ok.1 h
    exact List.forall_mem_cons.2 ⟨⟨b, hb⟩, ih h⟩

/-- A list is filtered only if it can be told of each of its members whether it is kept. -/
theorem ok_of_filterM {p : α → Except ε Bool} {as bs : List α} (h : as.filterM p = .ok bs) :
    ∀ a ∈ as, ∃ b, p a = .ok b := by
  obtain ⟨cs, hcs, -⟩ := bind_eq_ok.1 h
  exact ok_of_filterAuxM hcs

theorem filterAuxM_subset {p : α → Except ε Bool} {as acc bs : List α}
    (h : as.filterAuxM p acc = .ok bs) : bs ⊆ as ++ acc := by
  induction as generalizing acc with
  | nil =>
    cases h
    exact fun b hb => hb
  | cons a as ih =>
    obtain ⟨keep, -, h⟩ := bind_eq_ok.1 h
    intro b hb
    have hmem := ih h hb
    cases keep with
    | false => exact List.mem_cons_of_mem _ hmem
    | true =>
      rw [cond_true, List.mem_append, List.mem_cons] at hmem
      rw [List.cons_append, List.mem_cons, List.mem_append]
      tauto

theorem subset_of_filterM {p : α → Except ε Bool} {as bs : List α} (h : as.filterM p = .ok bs) :
    bs ⊆ as := by
  obtain ⟨cs, hcs, h⟩ := bind_eq_ok.1 h
  cases h
  intro b hb
  have hmem := filterAuxM_subset hcs (List.mem_reverse.1 hb)
  rwa [List.append_nil] at hmem

theorem exists_right_of_forall₂ {R : α → β → Prop} {as : List α} {bs : List β}
    (h : List.Forall₂ R as bs) {a : α} (ha : a ∈ as) : ∃ b ∈ bs, R a b := by
  induction h with
  | nil => cases ha
  | cons hab _ ih =>
    rcases List.mem_cons.1 ha with rfl | ha
    · exact ⟨_, List.mem_cons_self, hab⟩
    · obtain ⟨b, hb, h⟩ := ih ha
      exact ⟨b, List.mem_cons_of_mem _ hb, h⟩

theorem exists_left_of_forall₂ {R : α → β → Prop} {as : List α} {bs : List β}
    (h : List.Forall₂ R as bs) {b : β} (hb : b ∈ bs) : ∃ a ∈ as, R a b :=
  exists_right_of_forall₂ h.flip hb

theorem forall₂_comp {γ : Type} {R : α → β → Prop} {S : β → γ → Prop} {T : α → γ → Prop}
    {as : List α} {bs : List β} {cs : List γ} (h : List.Forall₂ R as bs) (h' : List.Forall₂ S bs cs)
    (hcomp : ∀ a b c, R a b → S b c → T a c) : List.Forall₂ T as cs := by
  induction h generalizing cs with
  | nil =>
    cases h'
    exact .nil
  | cons hab _ ih =>
    obtain ⟨c, rest, hbc, hrest, rfl⟩ := List.forall₂_cons_left_iff.1 h'
    exact .cons (hcomp _ _ _ hab hbc) (ih hrest)

theorem exists_mapM_iff {f : α → Except ε β} {as : List α} :
    (∃ bs, as.mapM f = .ok bs) ↔ ∀ a ∈ as, ∃ b, f a = .ok b := by
  constructor
  · rintro ⟨bs, h⟩ a ha
    obtain ⟨b, -, hb⟩ := exists_right_of_forall₂ (mapM_eq_ok.1 h) ha
    exact ⟨b, hb⟩
  · intro h
    cases hbs : as.mapM f with
    | ok bs => exact ⟨bs, rfl⟩
    | error e =>
      obtain ⟨a, ha, hfails⟩ := mapM_eq_error hbs
      obtain ⟨b, hb⟩ := h a ha
      rw [hfails] at hb
      cases hb

theorem mem_of_lookup [BEq α] [LawfulBEq α] {l : List (α × β)} {k : α} {v : β}
    (h : l.lookup k = some v) : (k, v) ∈ l := by
  obtain ⟨before, after, rfl, -⟩ := List.lookup_eq_some_iff.1 h
  exact List.mem_append_right _ List.mem_cons_self

theorem lookup_of_unique {α β : Type} [BEq α] [LawfulBEq α] {l : List (α × β)} {k : α} {v : β}
    (hmem : (k, v) ∈ l) (hunique : ∀ v', (k, v') ∈ l → v' = v) : l.lookup k = some v := by
  cases h : l.lookup k with
  | none =>
    have hne := List.lookup_eq_none_iff.1 h _ hmem
    simp at hne
  | some v' => rw [hunique v' (mem_of_lookup h)]

/-! ## Results that may be lacking -/

/-- What is undone for every member of a list is undone for the list. -/
theorem mapM_eq_some_map {f : α → Option β} {g : α → β} {as : List α}
    (h : ∀ a ∈ as, f a = some (g a)) : as.mapM f = some (as.map g) := by
  induction as with
  | nil => rfl
  | cons a as ih =>
    obtain ⟨ha, has⟩ := List.forall_mem_cons.1 h
    rw [List.mapM_cons, ha, ih has]
    rfl

theorem mapM_map_eq_some {f : β → Option α} {g : α → β} {as : List α}
    (h : ∀ a ∈ as, f (g a) = some a) : (as.map g).mapM f = some as := by
  rw [List.mapM_map, mapM_eq_some_map (f := f ∘ g) h, List.map_id']

theorem mapM_eq_none {f : α → Option β} {as : List α} {a : α} (ha : a ∈ as) (hnone : f a = none) :
    as.mapM f = none := by
  induction as with
  | nil => cases ha
  | cons a' as ih =>
    rw [List.mapM_cons]
    rcases List.mem_cons.1 ha with rfl | ha
    · rw [hnone]
      rfl
    · cases f a' with
      | none => rfl
      | some b =>
        rw [ih ha]
        rfl

theorem exists_of_mem_mapM {f : α → Option β} {as : List α} {bs : List β} (h : as.mapM f = some bs) :
    ∀ b ∈ bs, ∃ a ∈ as, f a = some b := by
  induction as generalizing bs with
  | nil =>
    cases h
    exact fun b hb => nomatch hb
  | cons a as ih =>
    simp only [List.mapM_cons, Option.bind_eq_bind, Option.bind_eq_some_iff, Option.pure_def,
      Option.some.injEq] at h
    obtain ⟨b, hb, bs, hbs, rfl⟩ := h
    intro b' hb'
    rcases List.mem_cons.1 hb' with rfl | hb'
    · exact ⟨a, List.mem_cons_self, hb⟩
    · obtain ⟨a', ha', hfa'⟩ := ih hbs b' hb'
      exact ⟨a', List.mem_cons_of_mem _ ha', hfa'⟩

/-! ## Results without their errors -/

theorem toOption_eq_some {x : Except ε α} {a : α} : x.toOption = some a ↔ x = .ok a := by
  cases x <;> simp [Except.toOption]

theorem pure_toOption (a : α) : (pure a : Except ε α).toOption = some a := rfl

theorem bind_toOption (x : Except ε α) (f : α → Except ε β) :
    (x >>= f).toOption = x.toOption.bind fun a => (f a).toOption := by
  cases x <;> rfl

theorem mapError_toOption (x : Except ε α) (f : ε → ε') : (x.mapError f).toOption = x.toOption := by
  cases x <;> rfl

/-- What succeeds for every member of a list only depends on what does for each of them. -/
theorem mapM_toOption {f : α → Except ε β} {g : α → Except ε' β} {as : List α}
    (h : ∀ a ∈ as, (f a).toOption = (g a).toOption) :
    (as.mapM f).toOption = (as.mapM g).toOption := by
  induction as with
  | nil => rfl
  | cons a as ih =>
    obtain ⟨ha, has⟩ := List.forall_mem_cons.1 h
    simp only [List.mapM_cons, bind_toOption, pure_toOption, ha, ih has]

/-! ## Outcomes with a state -/

section

variable {σ : Type} {s s' : σ} {m : ExceptT ε (StateM σ) α}

theorem bind_run_ok {f : α → ExceptT ε (StateM σ) β} {a : α} (h : m s = (.ok a, s')) :
    (m >>= f) s = f a s' := by
  change ExceptT.bindCont f (m s).1 (m s).2 = _
  rw [h]
  rfl

theorem bind_run_error {f : α → ExceptT ε (StateM σ) β} {e : ε} (h : m s = (.error e, s')) :
    (m >>= f) s = (.error e, s') := by
  change ExceptT.bindCont f (m s).1 (m s).2 = _
  rw [h]
  rfl

/-- Two steps succeed where the first does and the second does from there. -/
theorem bind_run_eq_ok {f : α → ExceptT ε (StateM σ) β} {b : β} :
    (m >>= f) s = (.ok b, s') ↔ ∃ a s₁, m s = (.ok a, s₁) ∧ f a s₁ = (.ok b, s') := by
  cases h : m s with
  | mk outcome s₁ =>
    cases outcome with
    | ok a =>
      rw [bind_run_ok h]
      exact ⟨fun hf => ⟨a, s₁, rfl, hf⟩, by rintro ⟨_, _, ⟨⟩, hf⟩; exact hf⟩
    | error e =>
      rw [bind_run_error h]
      exact ⟨nofun, by rintro ⟨_, _, ⟨⟩, -⟩⟩

/-- Steps for the members of a list that all succeed bring what each of them does, in order. -/
theorem forall₂_of_mapM_run {f : α → ExceptT ε (StateM σ) β} {R : α → β → Prop} {as : List α}
    {bs : List β} (hf : ∀ a s b s', f a s = (.ok b, s') → R a b) (h : as.mapM f s = (.ok bs, s')) :
    List.Forall₂ R as bs := by
  induction as generalizing s bs with
  | nil =>
    cases h
    exact .nil
  | cons a as ih =>
    rw [List.mapM_cons] at h
    obtain ⟨b, s₁, hb, h⟩ := bind_run_eq_ok.1 h
    obtain ⟨bs', s₂, hbs, h⟩ := bind_run_eq_ok.1 h
    cases h
    exact .cons (hf a s b s₁ hb) (ih hbs)

/-- **Steps for the members of a list that leave the state as it is** are taken as if there were none.
-/
theorem mapM_run {f : α → ExceptT ε (StateM σ) β} {g : α → Except ε β} {as : List α}
    (h : ∀ a ∈ as, f a s = (g a, s)) : as.mapM f s = (as.mapM g, s) := by
  induction as with
  | nil => rfl
  | cons a as ih =>
    obtain ⟨ha, has⟩ := List.forall_mem_cons.1 h
    rw [List.mapM_cons, List.mapM_cons]
    cases hg : g a with
    | error e =>
      rw [hg] at ha
      exact bind_run_error ha
    | ok b =>
      rw [hg] at ha
      rw [bind_run_ok ha]
      have hrest := ih has
      cases hgs : as.mapM g with
      | error e =>
        rw [hgs] at hrest
        exact bind_run_error hrest
      | ok bs =>
        rw [hgs] at hrest
        exact bind_run_ok hrest

theorem mapM_run_ok {f : α → ExceptT ε (StateM σ) β} {g : α → β} {as : List α}
    (h : ∀ a ∈ as, f a s = (.ok (g a), s)) : as.mapM f s = (.ok (as.map g), s) := by
  have hall : as.mapM (fun a => (.ok (g a) : Except ε β)) = .ok (as.map g) :=
    mapM_eq_ok.2 (List.forall₂_map_right_iff.2 (List.forall₂_same.2 fun a _ => rfl))
  rw [mapM_run h, hall]

/-- Steps for the members of a list that leave the state as it is all see the same one. -/
theorem mapM_run_unchanged {f : α → StateM σ β} {as : List α} (h : ∀ a ∈ as, ((f a).run s).2 = s) :
    (as.mapM f).run s = (as.map fun a => ((f a).run s).1, s) := by
  induction as with
  | nil => rfl
  | cons a as ih =>
    obtain ⟨ha, has⟩ := List.forall_mem_cons.1 h
    have hrun : (f a).run s = (((f a).run s).1, s) := Prod.ext rfl ha
    rw [List.mapM_cons, StateT.run_bind, hrun]
    change ((as.mapM f >>= fun bs => pure (((f a).run s).1 :: bs)).run s) = _
    rw [StateT.run_bind, ih has]
    rfl

/-- **A step for every member of a list brings a result for each of them**, in order. -/
theorem forall₂_run_mapM {f : α → StateM σ β} {R : α → β → Prop} (hf : ∀ a s, R a ((f a).run s).1)
    (as : List α) (s : σ) : List.Forall₂ R as ((as.mapM f).run s).1 := by
  induction as generalizing s with
  | nil => exact .nil
  | cons a as ih =>
    rw [List.mapM_cons]
    exact .cons (hf a s) (ih ((f a).run s).2)

theorem ofExcept_run (x : Except ε α) (s : σ) :
    (MonadExcept.ofExcept x : ExceptT ε (StateM σ) α) s = (x, s) := by
  cases x <;> rfl

theorem tryCatch_run_ok {f : ε → ExceptT ε (StateM σ) α} {a : α} (h : m s = (.ok a, s')) :
    (tryCatch m f) s = (.ok a, s') := by
  simp only [tryCatch, tryCatchThe, MonadExceptOf.tryCatch, ExceptT.tryCatch, ExceptT.mk, bind,
    StateT.bind, h]
  rfl

theorem tryCatch_run_error {f : ε → ExceptT ε (StateM σ) α} {e : ε} (h : m s = (.error e, s')) :
    (tryCatch m f) s = f e s' := by
  simp only [tryCatch, tryCatchThe, MonadExceptOf.tryCatch, ExceptT.tryCatch, ExceptT.mk, bind,
    StateT.bind, h]

end

end XmlAudit
