import XmlAudit.Proofs.Text.Words
import XmlAudit.Proofs.Url.Reading

/-!
# Relative references are followed

* `withSegments`, `along`: the address of other segments below the same host.
* `upAndDown`: a reference that goes up some directories and down again by names.
* `walk_ups`, `walk_upAndDown`: each step up leaves out one directory, and the names follow.
* `join_upAndDown`: such a reference leads from an address to the one below the same host.
-/

namespace XmlAudit.Url

open Remote (IsDiskName isKept)

/-- The address of other segments below the same host. -/
def withSegments (u : Url) (ss : List String) : Url :=
  { u with route := .segments ss, query := none, fragment := none }

/-- The address some directories up and then down by names. -/
def along (u : Url) (ups : Nat) (down : List String) : Url :=
  u.withSegments (u.segments.dropLast.take (u.segments.length - 1 - ups) ++ down)

/-- A reference that goes up some directories and then down by names. -/
def upAndDown (ups : Nat) (down : List String) : String :=
  "/".intercalate (List.replicate ups ".." ++ down)

variable {u : Url} {done down words : List String} {w : String}

/-! ## The words of a reference -/

theorem toList_intercalate (w : String) (words : List String) :
    ("/".intercalate (w :: words)).toList = w.toList ++ routeText words := by
  rw [String.toList_intercalate, List.map_cons]
  change ['/'].intercalate _ = _
  rw [Text.intercalate_cons, List.flatMap_map]
  rfl

theorem splitSlashes_intercalate (h : ∀ v ∈ w :: words, ∀ c ∈ v.toList, isSlash true c = false) :
    splitSlashes true [] ("/".intercalate (w :: words)).toList = (w :: words).map String.toList := by
  obtain ⟨hw, hwords⟩ := List.forall_mem_cons.1 h
  rw [toList_intercalate, splitSlashes_append hw, splitSlashes_routeText hwords, List.append_nil,
    List.reverse_reverse, List.map_cons]

/-- The words of a reference up and down. -/
theorem of_mem_words {ups : Nat} (hdown : ∀ s ∈ down, IsDiskName s)
    (h : w ∈ List.replicate ups ".." ++ down) : ∀ c ∈ w.toList, isKept c := by
  rcases List.mem_append.1 h with h | h
  · rw [(List.mem_replicate.1 h).2]
    exact List.all_eq_true.1 (by decide)
  · exact (hdown w h).kept

theorem word_ne_nil {ups : Nat} (hdown : ∀ s ∈ down, IsDiskName s)
    (h : w ∈ List.replicate ups ".." ++ down) : w.toList ≠ [] := by
  rcases List.mem_append.1 h with h | h
  · rw [(List.mem_replicate.1 h).2]
    decide
  · obtain ⟨c, hc, -⟩ := (hdown w h).undotted
    exact List.ne_nil_of_mem hc

theorem exists_words_eq_cons (ups : Nat) (hne : down ≠ []) :
    ∃ w words, List.replicate ups ".." ++ down = w :: words :=
  List.exists_cons_of_ne_nil (List.append_ne_nil_of_right_ne_nil _ hne)

/-- Words are all that a reference up and down has between its slashes. -/
theorem of_mem_upAndDown {ups : Nat} (hdown : ∀ s ∈ down, IsDiskName s) (hne : down ≠ []) {c : Char}
    (hc : c ∈ (upAndDown ups down).toList) : isKept c ∨ c = '/' := by
  obtain ⟨w, words, hwords⟩ := exists_words_eq_cons ups hne
  have hkept : ∀ v ∈ w :: words, ∀ c ∈ v.toList, isKept c :=
    fun v hv => of_mem_words hdown (hwords ▸ hv)
  rw [upAndDown, hwords, toList_intercalate, List.mem_append] at hc
  rcases hc with hc | hc
  · exact .inl (hkept w List.mem_cons_self c hc)
  · obtain ⟨v, hv, hc⟩ := List.mem_flatMap.1 hc
    rcases List.mem_cons.1 hc with rfl | hc
    · exact .inr rfl
    · exact .inl (hkept v (List.mem_cons_of_mem _ hv) c hc)

/-- A reference up and down does not start with a slash. -/
theorem upAndDown_eq_cons (ups : Nat) (hdown : ∀ s ∈ down, IsDiskName s) (hne : down ≠ []) :
    ∃ c cs, (upAndDown ups down).toList = c :: cs ∧ isKept c := by
  obtain ⟨w, words, hwords⟩ := exists_words_eq_cons ups hne
  have hw : w ∈ List.replicate ups ".." ++ down := hwords ▸ List.mem_cons_self
  obtain ⟨c, cs, hcs⟩ := List.exists_cons_of_ne_nil (word_ne_nil hdown hw)
  refine ⟨c, cs ++ routeText words, ?_, of_mem_words hdown hw c (hcs ▸ List.mem_cons_self)⟩
  rw [upAndDown, hwords, toList_intercalate, hcs, List.cons_append]

/-! ## Steps up -/

theorem not_isDrive (h : IsDiskName w) : isDrive w.toList = false := by
  unfold isDrive
  split
  · next c mark hw =>
    have hkept : isKept mark := h.kept mark (by simp [hw])
    have hcolon := ne_of_isKept hkept (d := ':') (by decide)
    have hbar := ne_of_isKept hkept (d := '|') (by decide)
    simp [hcolon, hbar]
  · rfl

theorem above_of_isDiskName (h : ∀ s ∈ done, IsDiskName s) : above done = done.dropLast := by
  unfold above
  cases hlast : done.getLast? with
  | none => rfl
  | some s =>
    rw [Option.any_some, not_isDrive (h s (List.mem_of_getLast? hlast)), if_neg (by decide)]

/-- **Each step up leaves out one directory.** -/
theorem walk_ups (h : ∀ s ∈ done, IsDiskName s) {rest : List (List Char)} (hrest : rest ≠ []) (ups : Nat) :
    walk done (List.replicate ups ['.', '.'] ++ rest) = walk (done.take (done.length - ups)) rest := by
  induction ups generalizing done with
  | zero => simp
  | succ ups ih =>
    have hmore : (List.replicate ups ['.', '.'] ++ rest).isEmpty = false := by
      simp [hrest]
    have hup : isUp ['.', '.'] = true := by cbv
    have hdrop : ∀ s ∈ done.dropLast, IsDiskName s := fun s hs => h s (List.mem_of_mem_dropLast hs)
    rw [List.replicate_succ, List.cons_append, walk, if_pos hup, hmore, if_neg (by decide),
      List.append_nil, above_of_isDiskName h, ih hdrop, List.length_dropLast, List.dropLast_eq_take,
      List.take_take]
    congr 2
    omega

/-- **The directories above are walked up first**; the names follow. -/
theorem walk_upAndDown (hdone : ∀ s ∈ done, IsDiskName s) (ups : Nat)
    (hdown : ∀ s ∈ down, IsDiskName s) (hne : down ≠ []) :
    walk done (splitSlashes true [] (upAndDown ups down).toList) =
      done.take (done.length - ups) ++ down := by
  obtain ⟨w, words, hwords⟩ := exists_words_eq_cons ups hne
  have hslash : ∀ v ∈ w :: words, ∀ c ∈ v.toList, isSlash true c = false :=
    fun v hv c hc => isSlash_of_isKept true (of_mem_words hdown (hwords ▸ hv) c hc)
  have hdots : "..".toList = ['.', '.'] := rfl
  rw [upAndDown, hwords, splitSlashes_intercalate hslash, ← hwords, List.map_append,
    List.map_replicate, hdots, walk_ups hdone (by simpa using hne), walk_diskNames hdown]

/-! ## The address at the end of a reference -/

theorem IsOverNet.along (h : IsOverNet u) (ups : Nat) (hne : down ≠ []) : IsOverNet (u.along ups down) :=
  ⟨h.web, h.user, h.password, h.host, h.number, _, List.append_ne_nil_of_right_ne_nil _ hne, rfl⟩

theorem isDiskName_of_mem_along {ups : Nat} (hss : ∀ s ∈ u.segments, IsDiskName s)
    (hdown : ∀ s ∈ down, IsDiskName s) : ∀ s ∈ (u.along ups down).segments, IsDiskName s := by
  intro s hs
  rcases List.mem_append.1 hs with hs | hs
  · exact hss s (List.mem_of_mem_dropLast (List.mem_of_mem_take hs))
  · exact hdown s hs

theorem scheme?_of_not_mem {cs : List Char} (h : ':' ∉ cs) : scheme? cs = none := by
  unfold scheme?
  split
  · next c _ =>
    split
    · next rest hdrop =>
      exact absurd ((List.dropWhile_sublist _).subset (hdrop ▸ List.mem_cons_self)) h
    · rfl
  · rfl

/-- Behind an address over the net, a reference up and down is a path below its directory. -/
theorem relative_upAndDown (hover : IsOverNet u) (hss : ∀ s ∈ u.segments, IsDiskName s) (ups : Nat)
    (hdown : ∀ s ∈ down, IsDiskName s) (hne : down ≠ []) :
    relative u (upAndDown ups down).toList = .ok (u.along ups down) := by
  obtain ⟨c, cs, hcs, hc⟩ := upAndDown_eq_cons ups hdown hne
  have hslashes : ((upAndDown ups down).toList.takeWhile (isSlash true)).length = 0 := by
    rw [hcs, List.takeWhile_cons_of_neg (by simp [isSlash_of_isKept true hc])]
    rfl
  have hdirs : ∀ s ∈ u.segments.dropLast, IsDiskName s := fun s hs => hss s (List.mem_of_mem_dropLast hs)
  unfold relative
  dsimp only
  rw [hslashes, if_neg (by decide), if_neg (by decide), (isSpecial_of_isWeb hover.web).1, walkText,
    walk_upAndDown hdirs ups hdown hne, List.length_dropLast]
  rfl

/-- **A reference up and down leads to an address of the same host.** -/
theorem join_upAndDown (hover : IsOverNet u) (hss : ∀ s ∈ u.segments, IsDiskName s) (ups : Nat)
    (hdown : ∀ s ∈ down, IsDiskName s) (hne : down ≠ []) :
    join u (upAndDown ups down) = .ok (u.along ups down) := by
  have hchar : ∀ c ∈ (upAndDown ups down).toList, isKept c ∨ c = '/' :=
    fun c => of_mem_upAndDown hdown hne
  have hplain : ∀ c ∈ (upAndDown ups down).toList,
      0x20 < c.toNat ∧ decide (c = '#') = false ∧ decide (c = '?') = false := by
    intro c hc
    rcases hchar c hc with hkept | rfl
    · exact unmarked_of_isInner (.inl (isInner_of_isKept hkept))
    · decide
  have hcolon : ':' ∉ (upAndDown ups down).toList := by
    intro hmem
    rcases hchar _ hmem with hkept | hslash
    · exact ne_of_isKept hkept (by decide) rfl
    · revert hslash
      decide
  have hempty : (upAndDown ups down).toList.isEmpty = false := by
    obtain ⟨c, cs, hcs, -⟩ := upAndDown_eq_cons ups hdown hne
    rw [hcs]
    rfl
  obtain ⟨ss, -, hroute⟩ := hover.route
  have hresolve : resolve (some u) (upAndDown ups down).toList
        ((upAndDown ups down).toList.isEmpty && (none : Option (List Char)).isSome) =
      .ok (u.along ups down) := by
    rw [resolve, scheme?_of_not_mem hcolon]
    dsimp only [orFault, bind, Except.bind]
    rw [hroute]
    dsimp only
    rw [hempty, if_neg (by decide), if_neg (isSpecial_of_isWeb hover.web).2,
      relative_upAndDown hover hss ups hdown hne]
  unfold join read
  rw [clean_of_forall fun c hc => (hplain c hc).1, cut_of_forall fun c hc => (hplain c hc).2.1]
  dsimp only
  rw [cut_of_forall fun c hc => (hplain c hc).2.2]
  dsimp only
  rw [hresolve]
  rfl

end XmlAudit.Url
