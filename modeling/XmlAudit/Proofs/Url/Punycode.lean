import Mathlib
import XmlAudit.Url.Punycode

/-!
# Labels beyond ASCII are read back

* `readDistance_distance`: a distance is read back from its digits.
* `Agrees`: what is read from the digits that an encoder has written so far.
* `Agrees.visit`, `agrees_insert`: each character that the encoder visits keeps it so.
* `decode?_encode`: a label of at most a thousand characters is read back.
* `of_mem_encode`: what written forms are made of.
-/

namespace XmlAudit.Url.Punycode

/-! ## Distances -/

theorem valueOf?_digitOf {n : Nat} (h : n < 36) : valueOf? (digitOf n) = some n := by
  revert n
  decide

theorem one_le_threshold (place bias : Nat) : 1 ≤ threshold place bias := by
  unfold threshold
  omega

theorem threshold_le (place bias : Nat) : threshold place bias ≤ 26 := by
  unfold threshold
  omega

/-- Behind a threshold above the least one stands the greatest one. -/
theorem threshold_next {place bias : Nat} (h : threshold place bias ≠ 1) :
    threshold (place + 36) bias = 26 := by
  unfold threshold at h ⊢
  omega

/-- Distances below this bound are read without going beyond the bound of words. -/
def distanceBound : Nat := 35 ^ 6

/-- How the weight of a digit grows: it is a power of 35 as long as the threshold is the least one. -/
def IsWeight (bias place weight : Nat) : Prop :=
  0 < weight ∧ ((∃ j, weight = 35 ^ j) ∨ threshold place bias = 26)

theorem IsWeight.next {bias place weight : Nat} (h : IsWeight bias place weight) :
    IsWeight bias (place + 36) (weight * (36 - threshold place bias)) := by
  have hmost := threshold_le place bias
  refine ⟨Nat.mul_pos h.1 (by omega), ?_⟩
  by_cases hone : threshold place bias = 1
  · rcases h.2 with ⟨j, rfl⟩ | hlast
    · exact .inl ⟨j + 1, by rw [hone, pow_succ]⟩
    · omega
  · exact .inr (threshold_next hone)

/-- The weight of a further digit is below the bound of words. -/
theorem IsWeight.next_lt {bias place weight q : Nat} (h : IsWeight bias place weight)
    (hq : threshold place bias ≤ q) (hsum : q * weight < distanceBound) :
    weight * (36 - threshold place bias) < wordBound := by
  have hleast := one_le_threshold place bias
  have hbound : distanceBound < wordBound := by decide
  rcases h.2 with ⟨j, rfl⟩ | hlast
  · have hlt : 35 ^ j < 35 ^ 6 := by
      calc 35 ^ j ≤ q * 35 ^ j := Nat.le_mul_of_pos_left _ (by omega)
        _ < 35 ^ 6 := hsum
    have hj : j < 6 := (Nat.pow_lt_pow_iff_right (by decide)).1 hlt
    calc 35 ^ j * (36 - threshold place bias) ≤ 35 ^ 5 * 35 :=
          Nat.mul_le_mul (Nat.pow_le_pow_right (by decide) (by omega)) (by omega)
      _ < wordBound := hbound
  · calc weight * (36 - threshold place bias) ≤ weight * q := Nat.mul_le_mul_left _ (by omega)
      _ = q * weight := Nat.mul_comm _ _
      _ < wordBound := by omega

/-- **A distance is read back from its digits.** -/
theorem readDistance_distance {bias fuel place q weight sum : Nat} (hfuel : q ≤ fuel)
    (hweight : IsWeight bias place weight) (hsum : sum + q * weight < distanceBound)
    (rest : List Char) :
    readDistance bias place weight sum (distance bias fuel place q ++ rest) =
      some (sum + q * weight, rest) := by
  have hbound : distanceBound < wordBound := by decide
  induction fuel generalizing place q weight sum with
  | zero =>
    obtain rfl : q = 0 := Nat.le_zero.1 hfuel
    have hleast := one_le_threshold place bias
    rw [distance, List.singleton_append, readDistance, valueOf?_digitOf (by decide)]
    dsimp only [bind, Option.bind]
    rw [if_neg (by omega), if_pos (by omega)]
    rfl
  | succ fuel ih =>
    have hleast := one_le_threshold place bias
    have hmost := threshold_le place bias
    have hnext := hweight.next
    have hnextLt := hweight.next_lt (q := q)
    obtain ⟨t, ht⟩ : ∃ t, threshold place bias = t := ⟨_, rfl⟩
    rw [ht] at hleast hmost hnext hnextLt
    rw [distance, ht]
    split_ifs with hq
    · rw [List.singleton_append, readDistance, valueOf?_digitOf (by omega)]
      dsimp only [bind, Option.bind]
      rw [if_neg (by omega), ht, if_pos hq]
      rfl
    · -- The digit is the threshold and a remainder; the quotient is the rest of the distance.
      have hdiv := Nat.div_add_mod (q - t) (36 - t)
      have hmod : (q - t) % (36 - t) < 36 - t := Nat.mod_lt _ (by omega)
      have hquotient : (q - t) / (36 - t) ≤ q - t := Nat.div_le_self _ _
      generalize (q - t) / (36 - t) = k at hdiv hquotient ⊢
      generalize (q - t) % (36 - t) = r at hdiv hmod ⊢
      have hvalue : sum + (t + r) * weight + k * (weight * (36 - t)) = sum + q * weight := by
        have hq' : q = (36 - t) * k + r + t := by omega
        rw [hq']
        ring
      have hdigit : (t + r) * weight ≤ q * weight := Nat.mul_le_mul_right _ (by omega)
      have hword := hnextLt (by omega) (by omega)
      rw [List.cons_append, readDistance, valueOf?_digitOf (by omega)]
      dsimp only [bind, Option.bind]
      rw [if_neg (by omega), ht, if_neg (by omega), if_neg (by omega),
        ih (by omega) hnext (by omega), hvalue]

/-! ## Insertions -/

theorem readDistance_length {bias place weight sum v : Nat} {cs rest : List Char}
    (h : readDistance bias place weight sum cs = some (v, rest)) : rest.length < cs.length := by
  induction cs generalizing place weight sum with
  | nil => cases h
  | cons c cs ih =>
    simp only [readDistance, Option.bind_eq_bind, Option.bind_eq_some_iff] at h
    obtain ⟨d, -, h⟩ := h
    split_ifs at h
    · cases h
      exact Nat.lt_succ_self _
    · exact Nat.lt_succ_of_lt (ih h)

/-- As many insertions as there are digits are enough. -/
theorem readInsertions_eq {fuel fuel' point index bias : Nat} {label cs : List Char} {first : Bool}
    (h : cs.length ≤ fuel) (h' : cs.length ≤ fuel') :
    readInsertions fuel label point index bias first cs =
      readInsertions fuel' label point index bias first cs := by
  induction fuel generalizing fuel' label point index bias first cs with
  | zero =>
    obtain rfl : cs = [] := List.length_eq_zero_iff.1 (by omega)
    cases fuel' <;> rfl
  | succ fuel ih =>
    cases cs with
    | nil => cases fuel' <;> rfl
    | cons c cs =>
      cases fuel' with
      | zero => cases h'
      | succ fuel' =>
        simp only [readInsertions]
        cases hread : readDistance bias 36 1 0 (c :: cs) with
        | none => rfl
        | some p =>
          have hlength := readDistance_length hread
          simp only [List.length_cons] at h h' hlength
          dsimp only [bind, Option.bind]
          split_ifs
          · rfl
          · exact ih (by omega) (by omega)

/-- The characters inserted into `label` as all of the digits tell. -/
def insertAll (label : List Char) (point index bias : Nat) (first : Bool) (cs : List Char) :
    Option (List Char) :=
  readInsertions cs.length label point index bias first cs

theorem distance_ne_nil (bias fuel place q : Nat) : distance bias fuel place q ≠ [] := by
  unfold distance
  split
  · exact List.cons_ne_nil _ _
  · dsimp only
    split_ifs <;> exact List.cons_ne_nil _ _

/-- **A character is inserted where the distance to it leads.** -/
theorem insertAll_distance {label : List Char} {point index bias delta k : Nat} {first : Bool}
    {c : Char} (hplace : point * (label.length + 1) + index + delta = c.toNat * (label.length + 1) + k)
    (hk : k ≤ label.length) (hdelta : delta < distanceBound) (rest : List Char) :
    insertAll label point index bias first (distance bias delta 36 delta ++ rest) =
      insertAll (label.take k ++ c :: label.drop k) c.toNat (k + 1)
        (adapt delta (label.length + 1) first) false rest := by
  have hread : readDistance bias 36 1 0 (distance bias delta 36 delta ++ rest) =
      some (0 + delta * 1, rest) :=
    readDistance_distance (Nat.le_refl _) ⟨Nat.one_pos, .inl ⟨0, rfl⟩⟩ (by omega) rest
  obtain ⟨d, ds, hdigits⟩ := List.exists_cons_of_ne_nil
    (List.append_ne_nil_of_left_ne_nil (distance_ne_nil bias delta 36 delta) rest)
  have hlength := readDistance_length hread
  rw [hdigits] at hread hlength ⊢
  have hvalid : ¬(c.toNat ≥ 0x110000 ∨ 0xD800 ≤ c.toNat ∧ c.toNat < 0xE000) := by
    have hc : c.toNat < 0xD800 ∨ 0xDFFF < c.toNat ∧ c.toNat < 0x110000 := c.valid
    omega
  -- The quotient leads to the character, and the remainder to its index.
  have hpoint : point ≤ c.toNat := by
    by_contra hlt
    have hmul : (c.toNat + 1) * (label.length + 1) ≤ point * (label.length + 1) :=
      Nat.mul_le_mul_right _ (by omega)
    rw [Nat.add_mul] at hmul
    omega
  have hsum : index + (0 + delta * 1) = k + (label.length + 1) * (c.toNat - point) := by
    have hsplit : c.toNat * (label.length + 1) =
        point * (label.length + 1) + (label.length + 1) * (c.toNat - point) := by
      rw [Nat.mul_comm (label.length + 1), ← Nat.add_mul, Nat.add_sub_cancel' hpoint]
    omega
  have hdiv : (index + (0 + delta * 1)) / (label.length + 1) = c.toNat - point := by
    rw [hsum, Nat.add_mul_div_left _ _ (Nat.succ_pos _), Nat.div_eq_of_lt (by omega), Nat.zero_add]
  have hmod : (index + (0 + delta * 1)) % (label.length + 1) = k := by
    rw [hsum, Nat.add_mul_mod_self_left, Nat.mod_eq_of_lt (by omega)]
  rw [List.length_cons] at hlength
  rw [insertAll, List.length_cons, readInsertions, hread]
  · dsimp only [bind, Option.bind]
    rw [hdiv, hmod, Nat.add_sub_cancel' hpoint, if_neg hvalid, Char.ofNat_toNat, Nat.zero_add,
      Nat.mul_one]
    exact readInsertions_eq (by omega) (Nat.le_refl _)
  · exact fun hnil => nomatch hnil

/-! ## The encoder and the decoder -/

variable {label before after : List Char} {point next index : Nat} {e : Encoder} {first : Bool}

/-- The ASCII characters of a label. -/
def basicOf (label : List Char) : List Char := label.filter fun c => c.toNat < 128

/-- The characters of a label that are inserted once those below `point` are, and of those that are
`point` the ones that were visited: `before` was, and `after` was not. -/
def inserted (point : Nat) (before after : List Char) : List Char :=
  before.filter (fun c => c.toNat ≤ point) ++ after.filter fun c => c.toNat < point

/-- **What is read from the digits that an encoder has written.** The decoder stands at the point and
the index behind the last character that it inserted; the distance counts from there. -/
structure Agrees (label : List Char) (point : Nat) (before after : List Char) (e : Encoder)
    (next index : Nat) (first : Bool) : Prop where
  reads : ∀ rest, insertAll (basicOf label) 128 0 72 true (e.digits.reverse ++ rest) =
    insertAll (inserted point before after) next index e.bias first rest
  count : e.written = (inserted point before after).length
  least : (basicOf label).length ≤ e.written
  first_eq : first = decide (e.written = (basicOf label).length)
  place : next * (e.written + 1) + index + e.delta =
    point * (e.written + 1) + (before.filter fun c => c.toNat ≤ point).length

theorem length_inserted_le (point : Nat) (before after : List Char) :
    (inserted point before after).length ≤ before.length + after.length := by
  rw [inserted, List.length_append]
  exact Nat.add_le_add (List.length_filter_le _ _) (List.length_filter_le _ _)

/-- A character below the point was inserted before, and only counts. -/
theorem Agrees.visit_below {c : Char} (h : Agrees label point before (c :: after) e next index first)
    (hc : c.toNat < point) :
    Agrees label point (before ++ [c]) after (e.visit (basicOf label).length point c) next index
      first := by
  unfold Encoder.visit
  have hbefore : (before ++ [c]).filter (fun c => c.toNat ≤ point) =
      before.filter (fun c => c.toNat ≤ point) ++ [c] := by
    rw [List.filter_append, List.filter_singleton, decide_eq_true (by omega)]
    rfl
  have hsame : inserted point (before ++ [c]) after = inserted point before (c :: after) := by
    rw [inserted, inserted, hbefore, List.filter_cons_of_pos (by simpa using hc), List.append_assoc,
      List.singleton_append]
  rw [if_pos hc]
  refine ⟨?_, ?_, h.least, h.first_eq, ?_⟩
  · rw [hsame]
    exact h.reads
  · rw [hsame]
    exact h.count
  · have hplace := h.place
    rw [hbefore, List.length_append, List.length_singleton]
    dsimp only
    omega

/-- A character at the point is written as the distance to it. -/
theorem Agrees.visit_at {c : Char} (h : Agrees label c.toNat before (c :: after) e next index first)
    (hpoint : c.toNat < 0x110000) (hlength : (before ++ c :: after).length ≤ 1000) :
    ∃ next' index' first',
      Agrees label c.toNat (before ++ [c]) after (e.visit (basicOf label).length c.toNat c) next'
        index' first' := by
  unfold Encoder.visit
  have hbefore : (before ++ [c]).filter (fun d => d.toNat ≤ c.toNat) =
      before.filter (fun d => d.toNat ≤ c.toNat) ++ [c] := by
    rw [List.filter_append, List.filter_singleton, decide_eq_true (Nat.le_refl _)]
    rfl
  have hold : inserted c.toNat before (c :: after) =
      before.filter (fun d => d.toNat ≤ c.toNat) ++ after.filter fun d => d.toNat < c.toNat := by
    rw [inserted, List.filter_cons_of_neg (by simp)]
  -- the character goes behind those before it that are inserted already, where the reader puts it
  have hnew : inserted c.toNat (before ++ [c]) after =
      (inserted c.toNat before (c :: after)).take (before.filter fun d => d.toNat ≤ c.toNat).length ++
        c :: (inserted c.toNat before (c :: after)).drop
          (before.filter fun d => d.toNat ≤ c.toNat).length := by
    rw [inserted, hbefore, hold, List.take_left, List.drop_left, List.append_assoc,
      List.singleton_append]
  have hplace := h.place
  have hsize := length_inserted_le c.toNat before (c :: after)
  have hk : (before.filter fun d => d.toNat ≤ c.toNat).length ≤
      (inserted c.toNat before (c :: after)).length := by
    rw [hold, List.length_append]
    exact Nat.le_add_right _ _
  rw [List.length_append] at hlength
  have hdelta : e.delta < distanceBound := by
    have hmul : c.toNat * (e.written + 1) ≤ 0x10FFFF * 1001 :=
      Nat.mul_le_mul (by omega) (by rw [h.count]; omega)
    rw [h.count] at hplace hmul
    unfold distanceBound
    omega
  rw [if_neg (Nat.lt_irrefl _), if_pos rfl]
  refine ⟨c.toNat, (before.filter fun d => d.toNat ≤ c.toNat).length + 1, false, ⟨?_, ?_, ?_, ?_, ?_⟩⟩
  · intro rest
    rw [h.count] at hplace
    rw [List.reverse_append, List.reverse_reverse, List.append_assoc, h.reads,
      insertAll_distance hplace hk hdelta, hnew, h.first_eq, h.count]
  · dsimp only
    rw [hnew, h.count, hold, List.take_left, List.drop_left]
    simp
    omega
  · exact Nat.le_succ_of_le h.least
  · have hleast := h.least
    exact (decide_eq_false (by dsimp only; omega)).symm
  · dsimp only
    rw [hbefore, List.length_append, List.length_singleton]
    omega

/-- A character above the point is not inserted yet. -/
theorem Agrees.visit_above {c : Char} (h : Agrees label point before (c :: after) e next index first)
    (hc : point < c.toNat) :
    Agrees label point (before ++ [c]) after (e.visit (basicOf label).length point c) next index
      first := by
  unfold Encoder.visit
  have hbefore : (before ++ [c]).filter (fun c => c.toNat ≤ point) =
      before.filter (fun c => c.toNat ≤ point) := by
    rw [List.filter_append, List.filter_singleton, decide_eq_false (by omega)]
    exact List.append_nil _
  have hsame : inserted point (before ++ [c]) after = inserted point before (c :: after) := by
    rw [inserted, inserted, hbefore, List.filter_cons_of_neg (by simp; omega)]
  rw [if_neg (by omega), if_neg (by omega)]
  refine ⟨?_, ?_, h.least, h.first_eq, ?_⟩
  · rw [hsame]
    exact h.reads
  · rw [hsame]
    exact h.count
  · rw [hbefore]
    exact h.place

/-- **Each character that the encoder visits keeps encoder and decoder in agreement.** -/
theorem Agrees.visit {c : Char} (h : Agrees label point before (c :: after) e next index first)
    (hpoint : point < 0x110000) (hlength : (before ++ c :: after).length ≤ 1000) :
    ∃ next' index' first',
      Agrees label point (before ++ [c]) after (e.visit (basicOf label).length point c) next' index'
        first' := by
  rcases Nat.lt_trichotomy c.toNat point with hc | rfl | hc
  · exact ⟨next, index, first, h.visit_below hc⟩
  · exact h.visit_at hpoint hlength
  · exact ⟨next, index, first, h.visit_above hc⟩

/-- Once the label is visited, all of its characters up to the point are inserted. -/
theorem Agrees.visits (h : Agrees label point before after e next index first)
    (hpoint : point < 0x110000) (hlength : (before ++ after).length ≤ 1000) :
    ∃ next' index' first', Agrees label point (before ++ after) []
      (after.foldl (Encoder.visit (basicOf label).length point) e) next' index' first' := by
  induction after generalizing before e next index first with
  | nil => exact ⟨next, index, first, by rwa [List.append_nil]⟩
  | cons c after ih =>
    obtain ⟨next', index', first', hvisit⟩ := h.visit hpoint hlength
    have happend : before ++ c :: after = (before ++ [c]) ++ after := by simp
    rw [happend] at hlength ⊢
    exact ih hvisit hlength

/-- The characters below a point are inserted where the label is not visited yet. -/
def Ready (label : List Char) (point : Nat) (e : Encoder) : Prop :=
  ∃ next index first, Agrees label point [] label e next index first

/-- **One more point.** No character lies between the points. -/
theorem ready_insert {start : Nat} (h : Ready label start e) (hfrom : start ≤ point)
    (hpoint : point < 0x110000) (hlength : label.length ≤ 1000)
    (hbetween : ∀ c ∈ label, ¬(start ≤ c.toNat ∧ c.toNat < point)) :
    Ready label (point + 1) (Encoder.insert label (basicOf label).length (e, start) point).1 := by
  obtain ⟨next, index, first, h⟩ := h
  have hsame : inserted point [] label = inserted start [] label := by
    rw [inserted, inserted]
    congr 1
    apply List.filter_congr
    intro c hc
    have hnot := hbetween c hc
    rw [decide_eq_decide]
    omega
  -- to move the point up passes every place once for each point in between
  have hready : Agrees label point [] label
      { e with delta := e.delta + (point - start) * (e.written + 1) } next index first := by
    refine ⟨?_, ?_, h.least, h.first_eq, ?_⟩
    · rw [hsame]
      exact h.reads
    · rw [hsame]
      exact h.count
    · have hplace := h.place
      have hmul : point * (e.written + 1) =
          start * (e.written + 1) + (point - start) * (e.written + 1) := by
        rw [← Nat.add_mul, Nat.add_sub_cancel' hfrom]
      dsimp only
      rw [List.filter_nil, List.length_nil] at hplace ⊢
      omega
  obtain ⟨next', index', first', hvisited⟩ := hready.visits hpoint (by simpa using hlength)
  rw [List.nil_append] at hvisited
  -- behind the last character, all that is at the point is inserted
  have hall : inserted (point + 1) [] label = inserted point label [] := by
    rw [inserted, inserted, List.filter_nil, List.nil_append, List.filter_nil, List.append_nil]
    apply List.filter_congr
    intro c _
    rw [decide_eq_decide]
    omega
  refine ⟨next', index', first', ⟨?_, ?_, hvisited.least, hvisited.first_eq, ?_⟩⟩
  · rw [hall]
    exact hvisited.reads
  · rw [hall]
    exact hvisited.count
  · have hplace := hvisited.place
    have hcount := hvisited.count
    rw [inserted, List.filter_nil, List.append_nil] at hcount
    rw [← hcount] at hplace
    rw [List.filter_nil, List.length_nil]
    unfold Encoder.insert
    dsimp only
    rw [Nat.add_mul]
    omega

/-- **The digits behind all points are those of the label.** -/
theorem insertAll_points {start : Nat} {points : List Nat} (h : Ready label start e)
    (hlength : label.length ≤ 1000) (hsorted : points.Pairwise (· < ·))
    (hfrom : ∀ p ∈ points, start ≤ p ∧ p < 0x110000)
    (hpoints : ∀ c ∈ label, start ≤ c.toNat → c.toNat ∈ points) :
    insertAll (basicOf label) 128 0 72 true
      (points.foldl (Encoder.insert label (basicOf label).length) (e, start)).1.digits.reverse =
        some label := by
  induction points generalizing start e with
  | nil =>
    obtain ⟨next, index, first, h⟩ := h
    have hall : inserted start [] label = label := by
      rw [inserted, List.filter_nil, List.nil_append, List.filter_eq_self]
      intro c hc
      have hnone := hpoints c hc
      rw [decide_eq_true_eq]
      by_contra hle
      exact List.not_mem_nil (hnone (by omega))
    have hreads := h.reads []
    rw [List.append_nil, hall] at hreads
    rw [List.foldl_nil, hreads]
    rfl
  | cons p points ih =>
    obtain ⟨hleast, hsorted⟩ := List.pairwise_cons.1 hsorted
    obtain ⟨hp, hlater⟩ := List.forall_mem_cons.1 hfrom
    -- the points are in order, so no character lies between two of them
    have hbetween : ∀ c ∈ label, ¬(start ≤ c.toNat ∧ c.toNat < p) := by
      rintro c hc ⟨hlow, hhigh⟩
      rcases List.mem_cons.1 (hpoints c hc hlow) with heq | hmem
      · omega
      · have hlt := hleast _ hmem
        omega
    have hready := ready_insert h hp.1 hp.2 hlength hbetween
    refine ih hready hsorted (fun q hq => ⟨hleast q hq, (hlater q hq).2⟩) fun c hc hlow => ?_
    rcases List.mem_cons.1 (hpoints c hc (by omega)) with heq | hmem
    · omega
    · exact hmem

/-! ## Written forms -/

/-- The characters of a label beyond ASCII, the smallest first and each of them once. -/
def pointsOf (label : List Char) : List Nat :=
  (((label.filter fun c => c.toNat ≥ 128).map Char.toNat).mergeSort fun a b => decide (a ≤ b)).eraseDups

theorem pairwise_eraseDups {ns : List Nat} (h : ns.Pairwise (· ≤ ·)) : ns.eraseDups.Pairwise (· < ·) := by
  induction hlength : ns.length using Nat.strong_induction_on generalizing ns with
  | _ k ih =>
    cases ns with
    | nil => exact List.Pairwise.nil
    | cons n ns =>
      obtain ⟨hleast, hrest⟩ := List.pairwise_cons.1 h
      have hshort := List.length_filter_le (fun m => !m == n) ns
      rw [List.length_cons] at hlength
      rw [List.eraseDups_cons, List.pairwise_cons]
      refine ⟨fun m hm => ?_, ih _ (by omega) (hrest.filter _) rfl⟩
      obtain ⟨hmem, hne⟩ := List.mem_filter.1 (List.mem_eraseDups.1 hm)
      have hle := hleast m hmem
      simp at hne
      omega

theorem pairwise_pointsOf (label : List Char) : (pointsOf label).Pairwise (· < ·) := by
  apply pairwise_eraseDups
  have hsorted := @List.pairwise_mergeSort _ (fun a b : Nat => decide (a ≤ b))
    (fun a b c hab hbc => by simp at *; omega) (fun a b => by simp; omega)
    ((label.filter fun c => c.toNat ≥ 128).map Char.toNat)
  simpa using hsorted

theorem mem_pointsOf {p : Nat} : p ∈ pointsOf label ↔ 128 ≤ p ∧ ∃ c ∈ label, c.toNat = p := by
  rw [pointsOf, List.mem_eraseDups, List.mem_mergeSort, List.mem_map]
  constructor
  · rintro ⟨c, hc, rfl⟩
    obtain ⟨hmem, hlow⟩ := List.mem_filter.1 hc
    exact ⟨of_decide_eq_true hlow, c, hmem, rfl⟩
  · rintro ⟨hlow, c, hc, rfl⟩
    exact ⟨c, List.mem_filter.2 ⟨hc, decide_eq_true hlow⟩, rfl⟩

/-- The digits of a written form. -/
def digitsOf (label : List Char) : List Char :=
  ((pointsOf label).foldl (Encoder.insert label (basicOf label).length)
    (⟨[], 0, 72, (basicOf label).length⟩, 128)).1.digits.reverse

theorem encode_eq (label : List Char) :
    encode label = basicOf label ++ (if (basicOf label).isEmpty then [] else ['-']) ++ digitsOf label :=
  rfl

theorem insertAll_digitsOf (h : label.length ≤ 1000) :
    insertAll (basicOf label) 128 0 72 true (digitsOf label) = some label := by
  have hstart : inserted 128 [] label = basicOf label := by
    rw [inserted, List.filter_nil, List.nil_append, basicOf]
  have hready : Ready label 128 ⟨[], 0, 72, (basicOf label).length⟩ := by
    refine ⟨128, 0, true, ⟨fun rest => ?_, ?_, Nat.le_refl _, ?_, ?_⟩⟩
    · rw [hstart]
      rfl
    · rw [hstart]
    · exact (decide_eq_true rfl).symm
    · simp
  refine insertAll_points hready h (pairwise_pointsOf label) (fun p hp => ?_) fun c hc hlow => ?_
  · obtain ⟨hlow, c, -, rfl⟩ := mem_pointsOf.1 hp
    have hc : c.toNat < 0xD800 ∨ 0xDFFF < c.toNat ∧ c.toNat < 0x110000 := c.valid
    omega
  · exact mem_pointsOf.2 ⟨hlow, c, hc, rfl⟩

theorem mem_distance {bias fuel place q : Nat} {d : Char} (hfuel : q ≤ fuel)
    (h : d ∈ distance bias fuel place q) : ∃ n < 36, d = digitOf n := by
  have hleast := one_le_threshold place bias
  have hmost := threshold_le place bias
  induction fuel generalizing place q with
  | zero => exact ⟨q, by omega, List.mem_singleton.1 h⟩
  | succ fuel ih =>
    rw [distance] at h
    split_ifs at h with hq
    · exact ⟨q, by omega, List.mem_singleton.1 h⟩
    · have hmod : (q - threshold place bias) % (36 - threshold place bias) < 36 - threshold place bias :=
        Nat.mod_lt _ (by omega)
      have hdiv : (q - threshold place bias) / (36 - threshold place bias) ≤ q - threshold place bias :=
        Nat.div_le_self _ _
      rcases List.mem_cons.1 h with rfl | h
      · exact ⟨_, by omega, rfl⟩
      · exact ih (by omega) h (one_le_threshold _ _) (threshold_le _ _)

theorem mem_digits_visit {basic : Nat} {c d : Char} (h : d ∈ (e.visit basic point c).digits) :
    d ∈ e.digits ∨ ∃ n < 36, d = digitOf n := by
  unfold Encoder.visit at h
  split_ifs at h
  · exact .inl h
  · rcases List.mem_append.1 h with h | h
    · exact .inr (mem_distance (Nat.le_refl _) (List.mem_reverse.1 h))
    · exact .inl h
  · exact .inl h

/-- **The digits of a written form** are such. -/
theorem mem_digitsOf {d : Char} (h : d ∈ digitsOf label) : ∃ n < 36, d = digitOf n := by
  have hall : ∀ d ∈ ((pointsOf label).foldl (Encoder.insert label (basicOf label).length)
      (⟨[], 0, 72, (basicOf label).length⟩, 128)).1.digits, ∃ n < 36, d = digitOf n := by
    refine List.foldlRecOn (motive := fun state : Encoder × Nat =>
      ∀ d ∈ state.1.digits, ∃ n < 36, d = digitOf n) _ _ (fun d hd => nomatch hd) ?_
    intro state hstate p _
    refine List.foldlRecOn (motive := fun e : Encoder => ∀ d ∈ e.digits, ∃ n < 36, d = digitOf n)
      label _ hstate ?_
    intro e he c _ d hd
    rcases mem_digits_visit hd with hold | hnew
    · exact he d hold
    · exact hnew
  exact hall d (List.mem_reverse.1 h)

/-- What holds of all digits holds of those of a written form. -/
theorem of_mem_digitsOf {p : Char → Bool} (h : (List.range 36).all fun n => p (digitOf n)) {d : Char}
    (hd : d ∈ digitsOf label) : p d := by
  obtain ⟨n, hn, rfl⟩ := mem_digitsOf hd
  exact List.all_eq_true.1 h n (List.mem_range.2 hn)

/-- **What written forms are made of.** -/
theorem of_mem_encode {c : Char} (h : c ∈ encode label) :
    c ∈ basicOf label ∨ c = '-' ∨ c ∈ digitsOf label := by
  rw [encode_eq, List.mem_append, List.mem_append] at h
  rcases h with (h | h) | h
  · exact .inl h
  · split_ifs at h
    · cases h
    · exact .inr (.inl (List.mem_singleton.1 h))
  · exact .inr (.inr h)

theorem toNat_lt_of_mem_encode {c : Char} (h : c ∈ encode label) : c.toNat < 128 := by
  rcases of_mem_encode h with h | rfl | h
  · exact of_decide_eq_true (List.mem_filter.1 h).2
  · decide
  · exact of_decide_eq_true (of_mem_digitsOf (p := fun c => decide (c.toNat < 128)) (by decide) h)

/-- **A label is read back from its written form.** -/
theorem decode?_encode (h : label.length ≤ 1000) : decode? (encode label) = some label := by
  have hdigit : ∀ d ∈ (digitsOf label).reverse, decide (d ≠ '-') = true := fun d hd =>
    of_mem_digitsOf (p := fun d => decide (d ≠ '-')) (by decide) (List.mem_reverse.1 hd)
  have hascii : (encode label).all (·.toNat < 128) = true :=
    List.all_eq_true.2 fun c hc => decide_eq_true (toNat_lt_of_mem_encode hc)
  have hread := insertAll_digitsOf h
  rw [insertAll] at hread
  by_cases hbasic : basicOf label = []
  · -- Without ASCII characters, there is no hyphen and all are digits.
    have hencode : encode label = digitsOf label := by
      rw [encode_eq, hbasic]
      rfl
    have htake : ((digitsOf label).reverse.takeWhile (· ≠ '-')).reverse = digitsOf label := by
      rw [List.takeWhile_eq_self_iff.2 hdigit, List.reverse_reverse]
    have hhyphen : (digitsOf label).contains '-' = false := by
      rw [List.contains_eq_mem, decide_eq_false_iff_not]
      intro hmem
      have hbad := hdigit '-' (List.mem_reverse.2 hmem)
      revert hbad
      decide
    rw [hencode] at hascii ⊢
    rw [decode?, htake, hascii, hhyphen, Nat.sub_self, Nat.zero_sub, List.take_zero, ← hbasic]
    simpa using hread
  · -- The last hyphen stands behind the ASCII characters.
    have hempty : (basicOf label).isEmpty = false := by simpa using hbasic
    have hencode : encode label = basicOf label ++ '-' :: digitsOf label := by
      rw [encode_eq, hempty, if_neg (by decide), List.append_assoc, List.singleton_append]
    have htake : ((basicOf label ++ '-' :: digitsOf label).reverse.takeWhile (· ≠ '-')).reverse =
        digitsOf label := by
      rw [List.reverse_append, List.reverse_cons, List.append_assoc,
        List.takeWhile_append_of_pos hdigit]
      simp
    have hcut : (basicOf label ++ '-' :: digitsOf label).take
        ((basicOf label ++ '-' :: digitsOf label).length - (digitsOf label).length - 1) =
          basicOf label := by
      rw [List.length_append, List.length_cons]
      have hlength : (basicOf label).length + ((digitsOf label).length + 1) - (digitsOf label).length - 1 =
          (basicOf label).length := by omega
      rw [hlength, List.take_left]
    rw [hencode] at hascii ⊢
    rw [decode?, htake, hascii, hcut, hempty]
    simpa using hread

/-- The written form of a label beyond ASCII ends in a digit. -/
theorem digitsOf_ne_nil (h : label.length ≤ 1000) (hbeyond : ¬∀ c ∈ label, c.toNat < 128) :
    digitsOf label ≠ [] := by
  intro hnil
  have hread := insertAll_digitsOf h
  rw [hnil] at hread
  have hbasic : basicOf label = label := Option.some.inj hread
  apply hbeyond
  intro c hc
  rw [← hbasic] at hc
  exact of_decide_eq_true (List.mem_filter.1 hc).2

theorem getLast?_encode (h : label.length ≤ 1000) (hbeyond : ¬∀ c ∈ label, c.toNat < 128) :
    encode label ≠ [] ∧ (encode label).getLast? ≠ some '-' := by
  have hdigits := digitsOf_ne_nil h hbeyond
  constructor
  · rw [encode_eq]
    exact List.append_ne_nil_of_right_ne_nil _ hdigits
  · rw [encode_eq, List.getLast?_append_of_ne_nil _ hdigits]
    intro hlast
    have hbad := of_mem_digitsOf (p := fun d => decide (d ≠ '-')) (by decide) (List.mem_of_getLast? hlast)
    revert hbad
    decide

/-! ## What is read -/

theorem toNat_ofNat_of_valid {n : Nat} (h : ¬(n ≥ 0x110000 ∨ 0xD800 ≤ n ∧ n < 0xE000)) :
    (Char.ofNat n).toNat = n := by
  have hvalid : n.isValidChar := by
    unfold Nat.isValidChar
    omega
  rw [Char.toNat_ofNat, if_pos hvalid]

theorem of_mem_readInsertions {fuel bias : Nat} {cs result : List Char}
    (h : readInsertions fuel label point index bias first cs = some result) (hpoint : 128 ≤ point) :
    (∀ c ∈ result, c ∈ label ∨ 128 ≤ c.toNat) ∧
      ((cs ≠ [] ∨ ∃ c ∈ label, 128 ≤ c.toNat) → ∃ c ∈ result, 128 ≤ c.toNat) := by
  induction fuel generalizing label point index bias first cs with
  | zero =>
    cases cs with
    | nil =>
      cases h
      exact ⟨fun c hc => .inl hc, fun hsome => hsome.resolve_left (absurd rfl)⟩
    | cons c cs => cases h
  | succ fuel ih =>
    cases cs with
    | nil =>
      cases h
      exact ⟨fun c hc => .inl hc, fun hsome => hsome.resolve_left (absurd rfl)⟩
    | cons c cs =>
      simp only [readInsertions, Option.bind_eq_bind, Option.bind_eq_some_iff] at h
      obtain ⟨⟨sum, rest⟩, -, h⟩ := h
      dsimp only at h
      split_ifs at h with hinvalid
      have hchar := toNat_ofNat_of_valid hinvalid
      have hlow : 128 ≤ point + (index + sum) / (label.length + 1) := Nat.le_add_right_of_le hpoint
      obtain ⟨hresult, hbeyond⟩ := ih h hlow
      -- what is inserted is beyond ASCII, as points only go up from 128
      refine ⟨fun d hd => ?_, fun _ => hbeyond (.inr ⟨_, List.mem_append_right _ List.mem_cons_self,
        by rwa [hchar]⟩)⟩
      rcases hresult d hd with hmem | hd
      · rcases List.mem_append.1 hmem with hmem | hmem
        · exact .inl (List.mem_of_mem_take hmem)
        · rcases List.mem_cons.1 hmem with rfl | hmem
          · exact .inr (by rwa [hchar])
          · exact .inl (List.mem_of_mem_drop hmem)
      · exact .inr hd

/-- **What a written form is read as.** -/
theorem of_decode?_eq_some {cs : List Char} (h : decode? cs = some label) (hne : cs ≠ [])
    (hlast : cs.getLast? ≠ some '-') :
    (∀ c ∈ label, c ∈ cs ∨ 128 ≤ c.toNat) ∧ ∃ c ∈ label, 128 ≤ c.toNat := by
  unfold decode? at h
  dsimp only at h
  split_ifs at h
  obtain ⟨hmem, hbeyond⟩ := of_mem_readInsertions h (Nat.le_refl _)
  refine ⟨fun c hc => (hmem c hc).imp_left List.mem_of_mem_take, hbeyond (.inl ?_)⟩
  obtain ⟨before, last, rfl⟩ : ∃ before last, cs = before ++ [last] :=
    ⟨_, _, (List.dropLast_append_getLast hne).symm⟩
  have hdigit : last ≠ '-' := by simpa using hlast
  simp [hdigit]

end XmlAudit.Url.Punycode
