import XmlAudit.Proofs.Url.Groups
import XmlAudit.Proofs.Url.Name.Written

/-!
# Hosts that are read back, and hosts that are too long for it

Names are written in more characters than they have, so that what a name is written as may be too
long to be read again.

* `Host.IsShort`: a host in which no label beyond ASCII is longer than what is read.
* `Host.parse_render`, `Host.parse_render_of_not_isShort`: such a host is read back from its written
  form, and any other one is not.
* `Punycode.length_encode_of_areApart`: characters far apart take three digits each.
* `Name.AreIdeographs`: the characters of a block in which each stands for itself.
* `Name.toAscii?_of_areIdeographs`: a label of them is a name.
* `Host.AreScattered`: labels of which the hosts are read, but not read back.
-/

namespace XmlAudit.Url

/-! ## Hosts that are short -/

namespace Host

variable {host : Host} {cs : List Char}

/-- **A host in which no label beyond ASCII is longer than what is read.** -/
def IsShort (host : Host) : Prop := ∀ name, host = domain name → Name.IsShort name.toList

theorem allowsDigits_isForbiddenInDomain : Name.AllowsDigits isForbiddenInDomain :=
  ⟨by decide, by decide, by decide⟩

/-- What is read as a host is an address or a name in its written form. -/
theorem parse_cases (h : parse cs = .ok host) :
    (∃ gs, host = ipv6 gs ∧ AreGroups gs) ∨ (∃ a, host = ipv4 a ∧ a < 0x100000000) ∨
      ∃ text name, host = domain (String.ofList name) ∧ name ≠ [] ∧ endsInNumber name = false ∧
        Name.toAscii? isForbiddenInDomain text = some name := by
  unfold parse at h
  split_ifs at h
  · rw [bracketed, orFault_eq_ok] at h
    split_ifs at h
    obtain ⟨gs, hgs, rfl⟩ := Option.map_eq_some_iff.1 h
    exact .inl ⟨gs, rfl, areGroups_of_ipv6? hgs⟩
  · obtain ⟨name, hname, h⟩ := bind_eq_ok.1 h
    rw [orFault_eq_ok] at hname
    split_ifs at h with hempty hends
    · obtain ⟨a, ha, rfl⟩ := Option.map_eq_some_iff.1 (orFault_eq_ok.1 h)
      exact .inr (.inl ⟨a, rfl, lt_of_ipv4? ha⟩)
    · cases h
      exact .inr (.inr ⟨_, name, rfl, by simpa using hempty, by simpa using hends, hname⟩)

/-- **A host is read back from its written form**, if that is short enough to be read. -/
theorem parse_render (h : parse cs = .ok host) (hshort : host.IsShort) :
    parse host.render.toList = .ok host ∧ IsApart host.render.toList := by
  rcases parse_cases h with ⟨gs, rfl, hgs⟩ | ⟨a, rfl, ha⟩ | ⟨text, name, rfl, hne, hends, hname⟩
  · exact parse_ipv6 hgs
  · exact parse_ipv4 ha
  · have hallowed := Name.allowed_of_mem_toAscii? hname allowsDigits_isForbiddenInDomain
    have hread := Name.toAscii?_toAscii? hname allowsDigits_isForbiddenInDomain
      (by simpa using hshort _ rfl)
    have hrender : (domain (String.ofList name)).render.toList = name := String.toList_ofList
    refine ⟨?_, isApart_of_allowed (by rwa [hrender])⟩
    rw [hrender, parse_of_toAscii? hallowed hne hread, hends]
    rfl

/-- **A host with a label that is too long is not read back.** -/
theorem parse_render_of_not_isShort (h : parse cs = .ok host) (hlong : ¬host.IsShort) :
    parse host.render.toList = .error .badName ∧ IsApart host.render.toList := by
  rcases parse_cases h with ⟨gs, rfl, -⟩ | ⟨a, rfl, -⟩ | ⟨text, name, rfl, -, -, hname⟩
  · exact absurd (fun _ heq => nomatch heq) hlong
  · exact absurd (fun _ heq => nomatch heq) hlong
  · have hrender : (domain (String.ofList name)).render.toList = name := String.toList_ofList
    have hallowed := Name.allowed_of_mem_toAscii? hname allowsDigits_isForbiddenInDomain
    have hlong' : ¬Name.IsShort name := by
      intro hshort
      refine hlong fun name' heq => ?_
      obtain rfl := Host.domain.inj heq
      rwa [String.toList_ofList]
    have hread := Name.toAscii?_eq_none hname allowsDigits_isForbiddenInDomain hlong'
    rw [hrender]
    refine ⟨?_, isApart_of_allowed hallowed⟩
    rw [parse_of_allowed hallowed, hread]
    rfl

end Host

/-! ## Digits for characters far apart -/

namespace Punycode

variable {basic point next : Nat} {e : Encoder} {before after label cs : List Char}

/-- Each character is followed by those at least 60 above it. -/
def AreApart (label : List Char) : Prop := label.Pairwise fun c d => c.toNat + 60 ≤ d.toNat

/-- A distance of a thousand takes three digits. -/
theorem three_le_length_distance {bias fuel place q : Nat} (hfuel : 2 ≤ fuel) (hq : 1000 ≤ q) :
    3 ≤ (distance bias fuel place q).length := by
  obtain ⟨fuel, rfl⟩ : ∃ more, fuel = more + 2 := ⟨fuel - 2, by omega⟩
  have hleast := one_le_threshold place bias
  have hmost := threshold_le place bias
  have hmost' := threshold_le (place + 36) bias
  have hrest : 26 ≤ (q - threshold place bias) / (36 - threshold place bias) := by
    rw [Nat.le_div_iff_mul_le (by omega)]
    omega
  have hlast := List.length_pos_of_ne_nil (distance_ne_nil bias fuel (place + 36 + 36)
    (((q - threshold place bias) / (36 - threshold place bias) - threshold (place + 36) bias) /
      (36 - threshold (place + 36) bias)))
  rw [distance, if_neg (by omega), distance, if_neg (by omega), List.length_cons, List.length_cons]
  omega

theorem foldl_visit_of_lt (h : ∀ c ∈ cs, c.toNat < point) :
    cs.foldl (Encoder.visit basic point) e = { e with delta := e.delta + cs.length } := by
  induction cs generalizing e with
  | nil => rfl
  | cons c cs ih =>
    obtain ⟨hc, hcs⟩ := List.forall_mem_cons.1 h
    rw [List.foldl_cons, Encoder.visit, if_pos hc, ih hcs, List.length_cons]
    congr 1
    dsimp only
    omega

theorem foldl_visit_of_gt (h : ∀ c ∈ cs, point < c.toNat) :
    cs.foldl (Encoder.visit basic point) e = e := by
  induction cs with
  | nil => rfl
  | cons c cs ih =>
    obtain ⟨hc, hcs⟩ := List.forall_mem_cons.1 h
    rw [List.foldl_cons, Encoder.visit, if_neg (by omega), if_neg (by omega), ih hcs]

/-- **One more character** of a label whose characters lie far apart. -/
theorem insert_of_areApart {c : Char} (h : AreApart (before ++ c :: after))
    (hcount : e.written = before.length) (hnext : next + 59 ≤ c.toNat) :
    ∃ e', Encoder.insert (before ++ c :: after) basic (e, next) c.toNat = (e', c.toNat + 1) ∧
      e'.written = before.length + 1 ∧ e.digits.length ≤ e'.digits.length ∧
      (16 ≤ before.length → e.digits.length + 3 ≤ e'.digits.length) := by
  obtain ⟨-, hafter, hbefore⟩ := List.pairwise_append.1 h
  have hlow : ∀ d ∈ before, d.toNat < c.toNat := by
    intro d hd
    have hgap := hbefore d hd c List.mem_cons_self
    omega
  have hhigh : ∀ d ∈ after, c.toNat < d.toNat := by
    intro d hd
    have hgap := (List.pairwise_cons.1 hafter).1 d hd
    omega
  unfold Encoder.insert
  dsimp only
  rw [List.foldl_append, foldl_visit_of_lt hlow, List.foldl_cons, foldl_visit_of_gt hhigh,
    Encoder.visit, if_neg (Nat.lt_irrefl _), if_pos rfl]
  refine ⟨_, rfl, by dsimp only; rw [hcount], ?_, fun hmany => ?_⟩
  · dsimp only
    rw [List.length_append]
    omega
  · -- a gap of 59 over more than sixteen places takes more than two digits
    have hgap : 59 * 17 ≤ (c.toNat - next) * (e.written + 1) :=
      Nat.mul_le_mul (by omega) (by omega)
    dsimp only
    rw [List.length_append, List.length_reverse, Nat.add_comm]
    exact Nat.add_le_add_right (three_le_length_distance (by omega) (by omega)) _

/-- All but the first characters take three digits each. -/
theorem length_digits_of_areApart (h : AreApart (before ++ after)) (hcount : e.written = before.length)
    (hnext : ∀ c ∈ after, next + 59 ≤ c.toNat) (hdigits : 3 * (before.length - 16) ≤ e.digits.length) :
    3 * ((before ++ after).length - 16) ≤
      ((after.map Char.toNat).foldl (Encoder.insert (before ++ after) basic) (e, next)).1.digits.length := by
  induction after generalizing before e next with
  | nil => rwa [List.append_nil]
  | cons c after ih =>
    obtain ⟨hc, -⟩ := List.forall_mem_cons.1 hnext
    obtain ⟨e', hinsert, hcount', hkept, hmore⟩ := @insert_of_areApart basic _ _ _ _ _ h hcount hc
    have happend : before ++ c :: after = (before ++ [c]) ++ after := by simp
    rw [List.map_cons, List.foldl_cons, hinsert, happend]
    rw [happend] at h
    refine ih h (by simpa using hcount') (fun d hd => ?_) ?_
    · have hgap := (List.pairwise_append.1 h).2.2 c (by simp) d hd
      omega
    · rw [List.length_append, List.length_singleton]
      omega

theorem pointsOf_of_areApart (h : AreApart label) (hbeyond : ∀ c ∈ label, 128 ≤ c.toNat) :
    pointsOf label = label.map Char.toNat := by
  have hsorted : (label.map Char.toNat).Pairwise (· < ·) := by
    rw [List.pairwise_map]
    exact h.imp fun hgap => by omega
  apply (pairwise_pointsOf label).eq_of_mem_iff hsorted
  intro p
  rw [mem_pointsOf, List.mem_map]
  constructor
  · rintro ⟨-, c, hc, rfl⟩
    exact ⟨c, hc, rfl⟩
  · rintro ⟨c, hc, rfl⟩
    exact ⟨hbeyond c hc, c, hc, rfl⟩

/-- **Characters far apart take three digits each**, but for the first few of them. -/
theorem length_encode_of_areApart (h : AreApart label) (hbeyond : ∀ c ∈ label, 187 ≤ c.toNat) :
    3 * (label.length - 16) ≤ (encode label).length := by
  have hbasic : basicOf label = [] := by
    rw [basicOf, List.filter_eq_nil_iff]
    intro c hc
    have hlow := hbeyond c hc
    simp
    omega
  have hpoints := pointsOf_of_areApart h fun c hc => Nat.le_trans (by decide) (hbeyond c hc)
  have hlength := @length_digits_of_areApart (basicOf label).length 128
    ⟨[], 0, 72, (basicOf label).length⟩ [] _ h (by rw [hbasic]) hbeyond (Nat.zero_le _)
  rw [encode_eq, digitsOf, hpoints, List.length_append, List.length_reverse]
  exact Nat.le_trans hlength (Nat.le_add_left _ _)

end Punycode

/-! ## Ideographs -/

namespace Name

open Text (rangesBits rangeBits testBit_rangeBits not_testBit_of_and has_eq_testBit IsInert)

variable {isForbidden : Char → Bool} {label : List Char} {n : Nat}

/-- The characters of a block in which each stands for itself. -/
def ideographBits : Nat := rangeBits 0x20000 0x2A6DF

/-- **A label of such characters.** -/
def AreIdeographs (label : List Char) : Prop := ∀ c ∈ label, ideographBits.testBit c.toNat

/-- The sets of characters with which labels are put in normal form and checked. -/
def labelBits : List Nat :=
  [Text.compoundBits, Text.firstBits ||| (Text.syllableBits ||| Text.syllablePartBits),
    Text.secondBits ||| Text.syllablePartBits, changedBits, rangesBits marks.ranges,
    rangesBits rightToLeftLetters.ranges, rangesBits arabicNumbers.ranges] ++
  Text.combiningClasses.map fun e => rangesBits e.2.ranges

theorem labelBits_and_ideographBits : labelBits.all (ideographBits &&& · == 0) := by decide +kernel

/-- No ideograph is in one of these sets. -/
theorem not_testBit_of_ideograph {set : Nat} (h : ideographBits.testBit n) (hset : set ∈ labelBits) :
    set.testBit n = false :=
  not_testBit_of_and (beq_iff_eq.1 (List.all_eq_true.1 labelBits_and_ideographBits set hset)) h

theorem isInert_of_ideograph (h : ideographBits.testBit n) : IsInert n where
  letter := by
    have hnone : Text.combiningClasses.find? (·.2.has n) = none := by
      rw [List.find?_eq_none]
      intro e he
      have hset : rangesBits e.2.ranges ∈ labelBits :=
        List.mem_append_right _ (List.mem_map_of_mem (f := fun e => rangesBits e.2.ranges) he)
      rw [has_eq_testBit, not_testBit_of_ideograph h hset]
      decide
    rw [Text.combiningClass, hnone]
  simple := not_testBit_of_ideograph h (by simp [labelBits])
  first _ := Text.compose?_eq_none (.inl (not_testBit_of_ideograph h (by simp [labelBits])))
  second _ := Text.compose?_eq_none (.inr (not_testBit_of_ideograph h (by simp [labelBits])))

theorem isKeptChar_of_ideograph (h : ideographBits.testBit n) : isKeptChar n := by
  rw [isKeptChar, not_testBit_of_ideograph h (by simp [labelBits])]
  rfl

theorem not_contains_of_ideograph {s : Text.CharSet} {c : Char} (h : ideographBits.testBit c.toNat)
    (hset : rangesBits s.ranges ∈ labelBits) : s.contains c = false := by
  rw [Text.CharSet.contains, has_eq_testBit, not_testBit_of_ideograph h hset]

theorem AreIdeographs.beyond (h : AreIdeographs label) : ∀ c ∈ label, 0x20000 ≤ c.toNat :=
  fun c hc => (testBit_rangeBits.1 (h c hc)).1

theorem AreIdeographs.not_mem (h : AreIdeographs label) {c : Char} (hc : c.toNat < 0x20000) : c ∉ label :=
  fun hmem => absurd (h.beyond c hmem) (by omega)

theorem AreIdeographs.normalize_eq (h : AreIdeographs label) : Text.normalize label = label := by
  have hnil : Text.normalForm [] = [] := by
    simp [Text.normalForm, Text.inOrder, Text.inOrderFrom, Text.inOrderFrom.sorted, Text.recompose]
  have hform : ∀ ns : List Nat, (∀ n ∈ ns, ideographBits.testBit n) → Text.normalForm ns = ns := by
    intro ns hns
    induction ns with
    | nil => exact hnil
    | cons n ns ih =>
      obtain ⟨hn, hrest⟩ := List.forall_mem_cons.1 hns
      have happend := (isInert_of_ideograph hn).normalForm_append [] ns
      rwa [ih hrest, hnil] at happend
  rw [Text.normalize_eq, hform _ (List.forall_mem_map.2 h), List.map_map]
  exact (List.map_congr_left fun c _ => Char.ofNat_toNat c).trans (List.map_id _)

theorem AreIdeographs.plain?_eq (h : AreIdeographs label) (hascii : isAscii label = false) :
    plain? label = some label := by
  have himages : label.mapM (fun c => mapped? c.toNat) = some (label.map fun c => [c.toNat]) :=
    mapM_eq_some_map fun c hc => mapped?_of_isKeptChar (isKeptChar_of_ideograph (h c hc))
  have hflat : (label.map fun c => [c.toNat]).flatten.map Char.ofNat = label := by
    rw [← List.flatMap_def, ← List.map_eq_flatMap, List.map_map]
    exact (List.map_congr_left fun c _ => Char.ofNat_toNat c).trans (List.map_id _)
  rw [plain?, hascii, if_neg (by decide), himages]
  dsimp only [Option.bind_eq_bind, Option.bind_some]
  rw [hflat, h.normalize_eq]
  rfl

theorem AreIdeographs.isValidLabel (h : AreIdeographs label) (hlength : label.length ≤ labelLimit) :
    isValidLabel label := by
  have hhead : label.head?.any marks.contains = false := by
    cases label with
    | nil => rfl
    | cons c label =>
      exact not_contains_of_ideograph (h c List.mem_cons_self) (by simp [labelBits])
  have hjoiners : ∀ before cs, AreIdeographs cs → joinersFit before cs := by
    intro before cs hcs
    induction cs generalizing before with
    | nil => rfl
    | cons c cs ih =>
      have hnon : c ≠ '\u200c' := fun heq => hcs.not_mem (by rw [heq]; decide) List.mem_cons_self
      have hzero : c ≠ '\u200d' := fun heq => hcs.not_mem (by rw [heq]; decide) List.mem_cons_self
      rw [joinersFit, ih _ (List.forall_mem_cons.1 hcs).2]
      simp [hnon, hzero]
  rw [Name.isValidLabel, hhead, hasValidJoiners, hjoiners [] label h]
  simp [hlength]

theorem AreIdeographs.haveClearDirections (h : AreIdeographs label) : haveClearDirections [label] := by
  have hnone : hasRightToLeft label = false := by
    rw [hasRightToLeft, List.any_eq_false]
    intro c hc
    have hletters : rightToLeftLetters.contains c = false :=
      not_contains_of_ideograph (h c hc) (by simp [labelBits])
    have hnumbers : arabicNumbers.contains c = false :=
      not_contains_of_ideograph (h c hc) (by simp [labelBits])
    rw [Direction.of, hletters, hnumbers]
    simp only [Bool.false_eq_true, if_false]
    split_ifs <;> decide
  rw [Name.haveClearDirections, List.any_cons, hnone]
  rfl

/-- **A label of ideographs is a name.** -/
theorem toAscii?_of_areIdeographs (h : AreIdeographs label) (hne : label ≠ [])
    (hlength : label.length ≤ labelLimit) (hallowed : ∀ c ∈ label, isForbidden c = false) :
    toAscii? isForbidden label = some (mark ++ Punycode.encode label) := by
  obtain ⟨first, rest, hfirst⟩ := List.exists_cons_of_ne_nil hne
  have hascii : isAscii label = false := by
    rw [isAscii, List.all_eq_false]
    have hlow := h.beyond first (hfirst ▸ List.mem_cons_self)
    exact ⟨first, hfirst ▸ List.mem_cons_self, by simp; omega⟩
  have hmark : Text.dropWord mark label = none := by
    by_contra hsome
    obtain ⟨others, hothers⟩ := Option.ne_none_iff_exists'.1 hsome
    refine h.not_mem (c := 'x') (by decide) ?_
    rw [Text.dropWord_eq_some_iff.1 hothers]
    exact List.mem_append_left _ (by decide)
  have hsplit := Text.splitFrom_of_not_mem (h.not_mem (c := '.') (by decide))
  have hnone : label.any isForbidden = false := by
    rw [List.any_eq_false]
    intro c hc
    rw [hallowed c hc]
    decide
  have hlabel : [label].mapM label? = some [label] := by
    rw [List.mapM_cons, label?, hmark]
    rfl
  rw [toAscii?, h.plain?_eq hascii]
  dsimp only [Option.bind_eq_bind, Option.bind_some]
  rw [hsplit, hlabel]
  dsimp only [Option.bind_some]
  rw [hnone, List.all_cons, h.isValidLabel hlength, h.haveClearDirections]
  simp [written, hascii]

end Name

/-! ## Hosts that are not read back -/

namespace Host

variable {label : List Char}

/-- **Ideographs far apart**, so many that they are written in more characters than are read. -/
structure AreScattered (label : List Char) : Prop where
  ideographs : Name.AreIdeographs label
  apart : Punycode.AreApart label
  many : 683 ≤ label.length
  few : label.length ≤ Name.labelLimit

/-- The host that a label beyond ASCII is read as. -/
def ofLabel (label : List Char) : Host := domain (String.ofList (Name.mark ++ Punycode.encode label))

theorem toNat_lt_of_isForbiddenInDomain {c : Char} (h : isForbiddenInDomain c) : c.toNat < 128 := by
  rw [isForbiddenInDomain, isForbidden, Bool.or_eq_true, Bool.or_eq_true] at h
  rcases h with (h | h) | h
  · have hall : ∀ d ∈ "\x00\t\n\r #/:<>?@[\\]^|".toList, decide (d.toNat < 128) :=
      List.all_eq_true.1 (by decide)
    exact of_decide_eq_true (hall c (List.contains_iff_mem.1 h))
  · rw [isControl, Bool.or_eq_true, decide_eq_true_eq, decide_eq_true_eq] at h
    omega
  · rw [of_decide_eq_true h]
    decide

theorem allowed_of_areIdeographs (h : Name.AreIdeographs label) :
    ∀ c ∈ label, isForbiddenInDomain c = false := by
  intro c hc
  have hlow := h.beyond c hc
  by_contra hbad
  rw [Bool.not_eq_false] at hbad
  have hhigh := toNat_lt_of_isForbiddenInDomain hbad
  omega

theorem dot_not_mem_mark_encode (h : Name.AreIdeographs label) :
    '.' ∉ Name.mark ++ Punycode.encode label := by
  intro hmem
  rcases List.mem_append.1 hmem with hmem | hmem
  · revert hmem
    decide
  · rcases Punycode.of_mem_encode hmem with hmem | hmem | hmem
    · exact h.not_mem (by decide) (List.mem_filter.1 hmem).1
    · revert hmem
      decide
    · have hdigit := Punycode.of_mem_digitsOf (p := fun d => d != '.') (by decide) hmem
      revert hdigit
      decide

theorem AreScattered.ne_nil (h : AreScattered label) : label ≠ [] := by
  rintro rfl
  exact absurd h.many (by decide)

/-- **Such a host is read.** -/
theorem AreScattered.parse_eq (h : AreScattered label) : parse label = .ok (ofLabel label) := by
  have hallowed := allowed_of_areIdeographs h.ideographs
  have hname := Name.toAscii?_of_areIdeographs h.ideographs h.ne_nil h.few hallowed
  have hends : endsInNumber (Name.mark ++ Punycode.encode label) = false := by
    rw [endsInNumber, labels, Text.splitFrom_of_not_mem (dot_not_mem_mark_encode h.ideographs)]
    rfl
  rw [parse_of_allowed hallowed, hname, orFault, Except.bind,
    if_neg (by simp [Name.mark]), hends]
  rfl

/-- **What it is written as is too long to be read.** -/
theorem AreScattered.not_isShort (h : AreScattered label) : ¬(ofLabel label).IsShort := by
  intro hshort
  have hname := hshort _ rfl
  rw [String.toList_ofList, Name.IsShort,
    Text.splitFrom_of_not_mem (dot_not_mem_mark_encode h.ideographs)] at hname
  have hlimit := hname _ List.mem_cons_self _ (Text.dropWord_eq_some_iff.2 rfl)
  have hlong := Punycode.length_encode_of_areApart h.apart fun c hc =>
    Nat.le_trans (by decide) (h.ideographs.beyond c hc)
  have hmany := h.many
  rw [Name.writtenLimit] at hlimit
  omega

/-- Such a label. -/
def scattered : List Char := (List.range 700).map fun i => Char.ofNat (0x20000 + 60 * i)

theorem areScattered_scattered : AreScattered scattered := by
  have hnat : ∀ i < 700, (Char.ofNat (0x20000 + 60 * i)).toNat = 0x20000 + 60 * i := fun i hi =>
    Text.toNat_ofNat_of_isCodePoint (by simp [Text.isCodePoint]; omega)
  refine ⟨fun c hc => ?_, ?_, by simp [scattered], by simp [scattered, Name.labelLimit]⟩
  · obtain ⟨i, hi, rfl⟩ := List.mem_map.1 hc
    have hlt := List.mem_range.1 hi
    rw [hnat i hlt, Name.ideographBits, Text.testBit_rangeBits]
    omega
  · rw [Punycode.AreApart, scattered, List.pairwise_map]
    refine List.pairwise_lt_range.imp_of_mem fun {i j} hi hj hlt => ?_
    rw [hnat i (List.mem_range.1 hi), hnat j (List.mem_range.1 hj)]
    omega

end Host

end XmlAudit.Url
