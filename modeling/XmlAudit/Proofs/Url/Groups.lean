import XmlAudit.Proofs.Url.Octets

/-!
# Addresses of sixteen octets are read back

* `Host.groups?_renderGroups`: groups between colons are read back.
* `Host.longestZeros_spec`: what is left out of an address is a run of zeros.
* `Host.parse_ipv6`: an address of sixteen octets is read back.
-/

namespace XmlAudit.Url.Host

open Remote (isKept)
open Text (splitFrom)

variable {gs left right : List Nat} {g : Nat} {cs before rest : List Char}

/-! ## Groups -/

/-- A character of a group. -/
def isHex (c : Char) : Bool := c.isDigit || ('a' ≤ c && c ≤ 'f')

theorem isHex_of_mem_toDigits {n : Nat} {c : Char} (h : c ∈ Nat.toDigits 16 n) : isHex c :=
  Number.Decimal.of_mem_toDigits (by decide) (by decide) h

theorem ne_of_isHex {c d : Char} (h : isHex c) (hd : isHex d = false) : c ≠ d := by
  rintro rfl
  rw [h] at hd
  cases hd

theorem isKept_of_isHex {c : Char} (h : isHex c) : isKept c := by
  rw [isHex, Bool.or_eq_true, Bool.and_eq_true, decide_eq_true_eq, decide_eq_true_eq] at h
  have halnum : Text.isAsciiAlphanumeric c := by
    rw [Text.isAsciiAlphanumeric, Bool.or_eq_true]
    rcases h with hdigit | ⟨hlow, hhigh⟩
    · exact .inr hdigit
    · have hlower : c.isLower := by
        rw [Char.isLower, Bool.and_eq_true, decide_eq_true_eq, decide_eq_true_eq]
        exact ⟨hlow, le_trans hhigh (by decide)⟩
      exact .inl (by rw [Char.isAlpha, hlower, Bool.or_true])
  rw [isKept, halnum]
  rfl

theorem hexValue?_digitChar {d : Nat} (h : d < 16) : hexValue? (Nat.digitChar d) = some d := by
  revert d
  decide

theorem ofDigits?_toDigits (n : Nat) : ofDigits? 16 (Nat.toDigits 16 n) = some n := by
  induction n using Nat.strong_induction_on with
  | _ n ih =>
    rw [Nat.toDigits_eq_if (by decide)]
    split_ifs with hsmall
    · simp [ofDigits?, hexValue?_digitChar hsmall, hsmall]
    · have hmod : n % 16 < 16 := Nat.mod_lt _ (by decide)
      have hrest := ih (n / 16) (by omega)
      rw [ofDigits?] at hrest ⊢
      rw [List.foldlM_append, hrest]
      simp [hexValue?_digitChar hmod, hmod]
      omega

theorem length_toDigits_le {k n : Nat} (h : n < 16 ^ (k + 1)) : (Nat.toDigits 16 n).length ≤ k + 1 := by
  induction k generalizing n with
  | zero =>
    rw [Nat.toDigits_eq_if (by decide), if_pos (by simpa using h)]
    rfl
  | succ k ih =>
    rw [Nat.toDigits_eq_if (by decide)]
    split_ifs
    · simp
    · have hdiv : n / 16 < 16 ^ (k + 1) := by
        rw [pow_succ] at h
        omega
      have hlength := ih hdiv
      simp
      omega

theorem group?_toDigits (h : g < 0x10000) : group? (Nat.toDigits 16 g) = some g := by
  have hlength := length_toDigits_le (k := 3) (n := g) (by simpa using h)
  have hempty : (Nat.toDigits 16 g).isEmpty = false := by simp [Nat.toDigits_ne_nil]
  rw [group?, hempty, if_neg (by simpa using hlength), ofDigits?_toDigits]

theorem mem_toDigits_ne {n : Nat} {d : Char} (hd : isHex d = false) : d ∉ Nat.toDigits 16 n :=
  fun hmem => ne_of_isHex (isHex_of_mem_toDigits hmem) hd rfl

/-- **Groups between colons are read back.** -/
theorem groups?_renderGroups (h : ∀ g ∈ gs, g < 0x10000) : groups? (renderGroups gs) = some gs := by
  by_cases hgs : gs = []
  · rw [hgs]
    rfl
  have hcolon : ∀ w ∈ gs.map (Nat.toDigits 16), ':' ∉ w := by
    rw [List.forall_mem_map]
    exact fun g _ => mem_toDigits_ne (by decide)
  have hparts : splitFrom ':' [] (renderGroups gs) = gs.map (Nat.toDigits 16) :=
    Text.splitFrom_intercalate hcolon (by simpa using hgs)
  have hempty : (renderGroups gs).isEmpty = false := by
    obtain ⟨g, rest, rfl⟩ := List.exists_cons_of_ne_nil hgs
    rw [renderGroups, List.map_cons, Text.intercalate_cons]
    simp [Nat.toDigits_ne_nil]
  have hlast : (gs.map (Nat.toDigits 16)).getLast? = some (Nat.toDigits 16 (gs.getLast hgs)) := by
    rw [List.getLast?_map, List.getLast?_eq_some_getLast hgs, Option.map_some]
  have hdot : (Nat.toDigits 16 (gs.getLast hgs)).contains '.' = false := by
    rw [List.contains_eq_mem, decide_eq_false_iff_not]
    exact mem_toDigits_ne (by decide)
  rw [groups?, hempty, if_neg (by decide), hparts]
  dsimp only
  rw [hlast]
  dsimp only
  rw [hdot, if_neg (by decide)]
  exact mapM_map_eq_some fun g hg => group?_toDigits (h g hg)

/-! ## The longest run of zeros -/

theorem eq_replicate_zeros (gs : List Nat) :
    gs = List.replicate (zeros gs) 0 ++ gs.drop (zeros gs) := by
  induction gs with
  | nil => rfl
  | cons g gs ih =>
    by_cases hg : g = 0
    · have hzeros : zeros (g :: gs) = zeros gs + 1 := by simp [zeros, hg]
      rw [hzeros, List.replicate_succ, List.drop_succ_cons, List.cons_append, ← ih, hg]
    · have hzeros : zeros (g :: gs) = 0 := by simp [zeros, hg]
      rw [hzeros]
      rfl

/-- **What is left out of an address is a run of zeros.** -/
theorem longestZeros_spec (gs : List Nat) :
    (longestZeros gs).2 = 0 ∨ (longestZeros gs).2 = zeros (gs.drop (longestZeros gs).1) := by
  unfold longestZeros
  refine List.foldlRecOn (motive := fun best : Nat × Nat =>
    best.2 = 0 ∨ best.2 = zeros (gs.drop best.1)) _ _ (.inl rfl) ?_
  intro best hbest i _
  split_ifs
  · exact .inr rfl
  · exact hbest

/-- The groups before and after a run of zeros. -/
theorem eq_around_zeros {start count : Nat} (h : longestZeros gs = (start, count)) :
    gs = gs.take start ++ List.replicate count 0 ++ gs.drop (start + count) := by
  have hspec := longestZeros_spec gs
  rw [h] at hspec
  dsimp only at hspec
  rcases hspec with hzero | hcount
  · rw [hzero, List.replicate_zero, List.append_nil, Nat.add_zero, List.take_append_drop]
  · have hrun := eq_replicate_zeros (gs.drop start)
    rw [← hcount, List.drop_drop] at hrun
    rw [List.append_assoc, ← hrun, List.take_append_drop]

/-! ## The double colon -/

theorem cutDoubleColon_append {w : List Char} (h : ':' ∉ w) :
    cutDoubleColon before (w ++ rest) = cutDoubleColon (w.reverse ++ before) rest := by
  induction w generalizing before with
  | nil => rfl
  | cons c w ih =>
    rw [List.mem_cons, not_or] at h
    have hstep : cutDoubleColon before (c :: (w ++ rest)) = cutDoubleColon (c :: before) (w ++ rest) := by
      rw [cutDoubleColon]
      rintro _ rfl
      exact absurd rfl h.1
    rw [List.cons_append, hstep, ih h.2, List.reverse_cons, List.append_assoc, List.singleton_append]

/-- A colon before a character that is none does not start a double colon. -/
theorem cutDoubleColon_words {words : List (List Char)} (h : ∀ w ∈ words, ':' ∉ w ∧ w ≠ []) :
    cutDoubleColon before (words.flatMap (':' :: ·) ++ rest) =
      cutDoubleColon ((words.flatMap (':' :: ·)).reverse ++ before) rest := by
  induction words generalizing before with
  | nil => rfl
  | cons w words ih =>
    obtain ⟨⟨hcolon, hne⟩, hwords⟩ := List.forall_mem_cons.1 h
    obtain ⟨c, w, rfl⟩ := List.exists_cons_of_ne_nil hne
    have hstep : ∀ cs, cutDoubleColon before (':' :: (c :: w ++ cs)) =
        cutDoubleColon (':' :: before) (c :: w ++ cs) := by
      intro cs
      rw [List.cons_append, cutDoubleColon]
      rintro _ - heq
      cases heq
      exact hcolon List.mem_cons_self
    rw [List.flatMap_cons, List.cons_append, List.cons_append, List.append_assoc, hstep,
      cutDoubleColon_append hcolon, ih hwords]
    simp

theorem cutDoubleColon_renderGroups (gs : List Nat) (rest : List Char) :
    cutDoubleColon [] (renderGroups gs ++ rest) = cutDoubleColon (renderGroups gs).reverse rest := by
  cases gs with
  | nil => rfl
  | cons g gs =>
    have hwords : ∀ w ∈ gs.map (Nat.toDigits 16), ':' ∉ w ∧ w ≠ [] := by
      rw [List.forall_mem_map]
      exact fun g _ => ⟨mem_toDigits_ne (by decide), Nat.toDigits_ne_nil⟩
    rw [renderGroups, List.map_cons, Text.intercalate_cons, List.append_assoc,
      cutDoubleColon_append (mem_toDigits_ne (by decide)), cutDoubleColon_words hwords,
      List.append_nil, List.reverse_append]

theorem isHex_or_colon_of_mem_renderGroups {c : Char} (h : c ∈ renderGroups gs) :
    isHex c ∨ c = ':' := by
  cases gs with
  | nil => cases h
  | cons g gs =>
    rw [renderGroups, List.map_cons, Text.intercalate_cons, List.mem_append] at h
    rcases h with h | h
    · exact .inl (isHex_of_mem_toDigits h)
    · obtain ⟨w, hw, h⟩ := List.mem_flatMap.1 h
      obtain ⟨g, -, rfl⟩ := List.mem_map.1 hw
      rcases List.mem_cons.1 h with rfl | h
      · exact .inr rfl
      · exact .inl (isHex_of_mem_toDigits h)

/-! ## The address -/

/-- The groups of an address. -/
structure AreGroups (gs : List Nat) : Prop where
  length : gs.length = 8
  small : ∀ g ∈ gs, g < 0x10000

/-- **An address of sixteen octets is read back** between its brackets. -/
theorem ipv6?_renderIpv6 (h : AreGroups gs) : ipv6? (renderIpv6 gs) = some gs := by
  obtain ⟨start, count, hrun⟩ : ∃ start count, longestZeros gs = (start, count) := ⟨_, _, rfl⟩
  have hgs := eq_around_zeros hrun
  have hlength := congrArg List.length hgs
  rw [List.length_append, List.length_append, List.length_replicate, h.length] at hlength
  have hleft : ∀ g ∈ gs.take start, g < 0x10000 := fun g hg => h.small g (List.mem_of_mem_take hg)
  have hright : ∀ g ∈ gs.drop (start + count), g < 0x10000 :=
    fun g hg => h.small g (List.mem_of_mem_drop hg)
  rw [renderIpv6, hrun]
  dsimp only
  split_ifs with hcount
  · -- No run of zeros is left out, and all groups are written.
    have hcut := cutDoubleColon_renderGroups gs []
    rw [List.append_nil, cutDoubleColon] at hcut
    rw [ipv6?, hcut]
    dsimp only
    rw [groups?_renderGroups h.small]
    dsimp only [bind, Option.bind]
    rw [if_pos h.length]
  · -- The double colon stands for as many zeros as are missing.
    have hcut : cutDoubleColon [] (renderGroups (gs.take start) ++ [':', ':'] ++
          renderGroups (gs.drop (start + count))) =
        some (renderGroups (gs.take start), renderGroups (gs.drop (start + count))) := by
      rw [List.append_assoc, cutDoubleColon_renderGroups, List.cons_append, List.cons_append,
        cutDoubleColon, List.reverse_reverse]
      rfl
    have hdot : (renderGroups (gs.take start)).contains '.' = false := by
      rw [List.contains_eq_mem, decide_eq_false_iff_not]
      intro hmem
      rcases isHex_or_colon_of_mem_renderGroups hmem with hhex | hcolon
      · exact ne_of_isHex hhex (by decide) rfl
      · revert hcolon
        decide
    have hmissing : 8 - (gs.take start).length - (gs.drop (start + count)).length = count := by
      omega
    rw [ipv6?, hcut]
    dsimp only
    rw [hdot, if_neg (by decide), groups?_renderGroups hleft, groups?_renderGroups hright]
    dsimp only [bind, Option.bind]
    rw [if_pos (by omega), hmissing, ← hgs]

theorem lt_of_ofDigits? {n : Nat} (h : ofDigits? 16 cs = some n) : n < 16 ^ cs.length := by
  induction cs using List.reverseRecOn generalizing n with
  | nil =>
    cases h
    decide
  | append_singleton cs c ih =>
    rw [ofDigits?, List.foldlM_append, Option.bind_eq_bind, Option.bind_eq_some_iff] at h
    obtain ⟨m, hm, h⟩ := h
    have hlt := ih hm
    simp only [List.foldlM_cons, List.foldlM_nil, Option.bind_eq_bind, Option.bind_eq_some_iff] at h
    obtain ⟨k, ⟨v, -, hv⟩, h⟩ := h
    split_ifs at hv with hsmall
    cases hv
    cases h
    rw [List.length_append, List.length_singleton, pow_succ]
    omega

theorem lt_of_group? (h : group? cs = some g) : g < 0x10000 := by
  unfold group? at h
  split_ifs at h with hbad
  have hlength : cs.length ≤ 4 := by
    simp only [Bool.or_eq_true, decide_eq_true_eq, not_or] at hbad
    omega
  calc g < 16 ^ cs.length := lt_of_ofDigits? h
    _ ≤ 16 ^ 4 := Nat.pow_le_pow_right (by decide) hlength

theorem lt_of_dotted? (h : dotted? cs = some gs) : ∀ g ∈ gs, g < 0x10000 := by
  simp only [dotted?, Option.bind_eq_bind, Option.bind_eq_some_iff] at h
  obtain ⟨octets, -, h⟩ := h
  split at h
  · split_ifs at h with hsmall
    cases h
    simp at hsmall ⊢
    omega
  · cases h

theorem lt_of_mapM_group? {parts : List (List Char)} (h : parts.mapM group? = some gs) :
    ∀ g ∈ gs, g < 0x10000 := by
  intro g hg
  obtain ⟨part, -, hpart⟩ := exists_of_mem_mapM h g hg
  exact lt_of_group? hpart

theorem lt_of_groups? (h : groups? cs = some gs) : ∀ g ∈ gs, g < 0x10000 := by
  unfold groups? at h
  split_ifs at h
  · cases h
    exact fun g hg => nomatch hg
  · dsimp only at h
    split at h
    · split_ifs at h
      · simp only [Option.bind_eq_bind, Option.bind_eq_some_iff, Option.pure_def, Option.some.injEq] at h
        obtain ⟨l, hl, r, hr, rfl⟩ := h
        intro g hg
        rcases List.mem_append.1 hg with hg | hg
        · exact lt_of_mapM_group? hl g hg
        · exact lt_of_dotted? hr g hg
      · exact lt_of_mapM_group? h
    · cases h

/-- **What is read as an address of sixteen octets** has the groups of one. -/
theorem areGroups_of_ipv6? (h : ipv6? cs = some gs) : AreGroups gs := by
  unfold ipv6? at h
  split at h
  · simp only [Option.bind_eq_bind, Option.bind_eq_some_iff] at h
    obtain ⟨groups, hgroups, h⟩ := h
    split_ifs at h with hlength
    cases h
    exact ⟨hlength, lt_of_groups? hgroups⟩
  · split_ifs at h
    simp only [Option.bind_eq_bind, Option.bind_eq_some_iff] at h
    obtain ⟨l, hl, r, hr, h⟩ := h
    split_ifs at h with hlength
    cases h
    refine ⟨?_, fun g hg => ?_⟩
    · simp
      omega
    · rcases List.mem_append.1 hg with hg | hg
      · rcases List.mem_append.1 hg with hg | hg
        · exact lt_of_groups? hl g hg
        · rw [(List.mem_replicate.1 hg).2]
          decide
      · exact lt_of_groups? hr g hg

theorem isHex_or_colon_of_mem_renderIpv6 {c : Char} (h : c ∈ renderIpv6 gs) : isHex c ∨ c = ':' := by
  unfold renderIpv6 at h
  dsimp only at h
  split_ifs at h
  · exact isHex_or_colon_of_mem_renderGroups h
  · rcases List.mem_append.1 h with h | h
    · rcases List.mem_append.1 h with h | h
      · exact isHex_or_colon_of_mem_renderGroups h
      · exact .inr (by simpa using h)
    · exact isHex_or_colon_of_mem_renderGroups h

/-- **An address of sixteen octets is read back.** -/
theorem parse_ipv6 (h : AreGroups gs) :
    parse (ipv6 gs).render.toList = .ok (ipv6 gs) ∧ IsApart (ipv6 gs).render.toList := by
  have htext : (ipv6 gs).render.toList = '[' :: (renderIpv6 gs ++ [']']) := by
    rw [render, String.toList_ofList]
    rfl
  have hinner : ∀ c, isHex c ∨ c = ':' → isInner c ∧ c ≠ '[' ∧ c ≠ ']' := by
    rintro c (hhex | rfl)
    · have hplain : isInner c := isInner_of_isKept (isKept_of_isHex hhex)
      exact ⟨hplain, ne_of_isHex hhex (by decide), ne_of_isHex hhex (by decide)⟩
    · decide
  constructor
  · have hlast : ('[' :: (renderIpv6 gs ++ [']'])).getLast? = some ']' := by
      rw [← List.cons_append, List.getLast?_concat]
    rw [htext, parse, if_pos List.head?_cons, bracketed, if_pos hlast, List.drop_one, List.tail_cons,
      List.dropLast_concat, ipv6?_renderIpv6 h]
    rfl
  · constructor
    · intro c hc
      rw [htext, List.mem_cons, List.mem_append, List.mem_singleton] at hc
      rcases hc with rfl | hc | rfl
      · decide
      · exact (hinner c (isHex_or_colon_of_mem_renderIpv6 hc)).1
      · decide
    · intro host rest
      have hpass : ∀ c ∈ renderIpv6 gs, c ≠ '[' ∧ c ≠ ']' ∧ (c = ':' → true = true) :=
        fun c hc => ⟨(hinner c (isHex_or_colon_of_mem_renderIpv6 hc)).2.1,
          (hinner c (isHex_or_colon_of_mem_renderIpv6 hc)).2.2, fun _ => rfl⟩
      rw [htext, List.cons_append, cutNumber, if_neg (by decide), if_pos rfl, List.append_assoc,
        cutNumber_append hpass, List.singleton_append, cutNumber, if_neg (by decide),
        if_neg (by decide), if_pos rfl]
      simp

end XmlAudit.Url.Host
