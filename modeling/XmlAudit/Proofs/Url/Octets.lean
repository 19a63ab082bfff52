import XmlAudit.Proofs.Number.Position
import XmlAudit.Proofs.Text.Utf8
import XmlAudit.Proofs.Url.Name.Labels
import XmlAudit.Proofs.Url.Reading

/-!
# Addresses of octets are read back

* `Host.parse_of_allowed`: how a text in the characters of names is read as a host.
* `Host.parse_ipv4`: an address of four octets is read back.
* `Host.readsBack_toDigits`: so is a number in decimal digits, as a label of it.
-/

namespace XmlAudit.Url

open Text (splitFrom)
open Name (toAscii? written ReadsBack IsWrittenChar isAscii)

theorem percentDecode_of_not_mem {cs : List Char} (h : '%' ∉ cs) :
    percentDecode cs = cs.flatMap String.utf8EncodeChar := by
  rw [percentDecode]
  induction cs with
  | nil => rfl
  | cons c cs ih =>
    rw [List.mem_cons, not_or] at h
    have hnone : octet? (c :: cs) = none := by
      unfold octet?
      split
      · next heq =>
        cases heq
        exact absurd rfl h.1
      · rfl
    rw [percentDecodeFrom, hnone]
    dsimp only
    rw [ih h.2, Text.Utf8.encode_eq_flatMap, String.toList_singleton, List.flatMap_singleton,
      List.flatMap_cons]

theorem decodeLossy_percentDecode {cs : List Char} (h : '%' ∉ cs) :
    Text.Utf8.decodeLossy (percentDecode cs) = cs := by
  have hdecode := @Text.Utf8.decodeLossy_append [] cs
  rw [List.append_nil] at hdecode
  rw [percentDecode_of_not_mem h, hdecode]
  exact List.append_nil cs

theorem cutNumber_append {inside : Bool} {cs host rest : List Char}
    (h : ∀ c ∈ cs, c ≠ '[' ∧ c ≠ ']' ∧ (c = ':' → inside)) :
    cutNumber inside host (cs ++ rest) = cutNumber inside (cs.reverse ++ host) rest := by
  induction cs generalizing host with
  | nil => rfl
  | cons c cs ih =>
    obtain ⟨hc, hcs⟩ := List.forall_mem_cons.1 h
    have hcolon : ¬(c = ':' ∧ ¬inside) := fun hbad => hbad.2 (hc.2.2 hbad.1)
    rw [List.cons_append, cutNumber, if_neg hcolon, if_neg hc.1, if_neg hc.2.1, ih hcs,
      List.reverse_cons, List.append_assoc, List.singleton_append]

namespace Host

variable {cs : List Char} {c : Char} {a n : Nat}

theorem ne_of_not_isForbiddenInDomain {c d : Char} (h : isForbiddenInDomain c = false)
    (hd : isForbiddenInDomain d) : c ≠ d := by
  rintro rfl
  rw [hd] at h
  cases h

/-- How a text in the characters of names is read as a host. -/
theorem parse_of_allowed (hallowed : ∀ c ∈ cs, isForbiddenInDomain c = false) :
    parse cs = (orFault .badName (toAscii? isForbiddenInDomain cs)).bind fun name =>
      if name.isEmpty then .error .emptyHost
      else if endsInNumber name then orFault .badIpv4 ((ipv4? name).map ipv4)
      else .ok (domain (String.ofList name)) := by
  have hpercent : '%' ∉ cs := fun hmem =>
    ne_of_not_isForbiddenInDomain (hallowed _ hmem) (by cbv) rfl
  have hbracket : cs.head? ≠ some '[' := fun hhead =>
    ne_of_not_isForbiddenInDomain (hallowed _ (List.mem_of_head? hhead)) (by cbv) rfl
  rw [parse, if_neg hbracket, decodeLossy_percentDecode hpercent]
  rfl

/-- **A name in its own written form** is read as an address of four octets or as itself. -/
theorem parse_of_toAscii? (hallowed : ∀ c ∈ cs, isForbiddenInDomain c = false) (hne : cs ≠ [])
    (h : toAscii? isForbiddenInDomain cs = some cs) :
    parse cs = if endsInNumber cs then orFault .badIpv4 ((ipv4? cs).map ipv4)
      else .ok (domain (String.ofList cs)) := by
  rw [parse_of_allowed hallowed, h, orFault, Except.bind, if_neg (by simpa using hne)]

/-- A text whose characters are those of names stays apart from what stands around it. -/
theorem isApart_of_allowed (hallowed : ∀ c ∈ cs, isForbiddenInDomain c = false) : IsApart cs where
  inner c hc := by
    have hc' := hallowed c hc
    have hslash := ne_of_not_isForbiddenInDomain hc' (d := '/') (by cbv)
    have hback := ne_of_not_isForbiddenInDomain hc' (d := '\\') (by cbv)
    have hquestion := ne_of_not_isForbiddenInDomain hc' (d := '?') (by cbv)
    have hhash := ne_of_not_isForbiddenInDomain hc' (d := '#') (by cbv)
    have hat := ne_of_not_isForbiddenInDomain hc' (d := '@') (by cbv)
    have hspace : c.toNat ≠ 0x20 := fun heq =>
      ne_of_not_isForbiddenInDomain hc' (d := ' ') (by cbv) (Char.toNat_inj.1 heq)
    have hcontrol : isControl c = false := by
      simp only [isForbiddenInDomain, Bool.or_eq_false_iff] at hc'
      exact hc'.1.2
    simp only [isControl, Bool.or_eq_false_iff, decide_eq_false_iff_not] at hcontrol
    simp [isInner, hslash, hback, hquestion, hhash, hat]
    omega
  passed host rest := by
    apply cutNumber_append
    intro c hc
    have hc' := hallowed c hc
    refine ⟨ne_of_not_isForbiddenInDomain hc' (by cbv),
      ne_of_not_isForbiddenInDomain hc' (by cbv), fun hcolon => ?_⟩
    exact absurd hcolon (ne_of_not_isForbiddenInDomain hc' (by cbv))

/-! ## Four octets -/

theorem hexValue?_of_isDigit (h : c.isDigit) : hexValue? c = some (c.toNat - 48) ∧ c.toNat - 48 < 10 := by
  have hnine : c.toNat ≤ 57 := (Char.isDigit_iff_toNat.1 h).2
  exact ⟨by rw [hexValue?, if_pos h], by omega⟩

theorem ofDigits?_of_isDigit (h : ∀ c ∈ cs, c.isDigit) : ofDigits? 10 cs = some (Nat.ofDigitChars 10 cs 0) := by
  rw [ofDigits?]
  generalize 0 = m
  induction cs generalizing m with
  | nil => rfl
  | cons c cs ih =>
    obtain ⟨hc, hcs⟩ := List.forall_mem_cons.1 h
    obtain ⟨hvalue, hlt⟩ := hexValue?_of_isDigit hc
    rw [List.foldlM_cons, hvalue, Nat.ofDigitChars_cons, Nat.mul_comm]
    exact (congrArg (Option.bind · _) (if_pos hlt)).trans (ih hcs _)

theorem ipv4Number?_of_head? (hne : cs ≠ []) (h : cs.head? ≠ some '0') :
    ipv4Number? cs = ofDigits? 10 cs := by
  unfold ipv4Number?
  split
  · exact absurd rfl hne
  · exact absurd rfl h
  · exact absurd rfl h
  · exact absurd rfl h
  · rfl

/-- **A number in decimal digits** is one of an address. -/
theorem ipv4Number?_toDigits (n : Nat) : ipv4Number? (Nat.toDigits 10 n) = some n := by
  rcases Nat.eq_zero_or_pos n with rfl | hpos
  · rfl
  · rw [ipv4Number?_of_head? Nat.toDigits_ne_nil (Number.Decimal.head?_toDigits hpos), ofDigits?_of_isDigit
      fun c => Nat.isDigit_of_mem_toDigits (by decide) (Nat.le_refl 10),
      Nat.ofDigitChars_toDigits (by decide) (Nat.le_refl 10)]

theorem isWrittenChar_of_mem_toDigits (h : c ∈ Nat.toDigits 10 n) :
    IsWrittenChar isForbiddenInDomain c := by
  have hdigit := Char.isDigit_iff_toNat.1 (Nat.isDigit_of_mem_toDigits (by decide) (Nat.le_refl 10) h)
  have hall : ∀ m ∈ List.range' 48 10, (Char.ofNat m).toNat < 128 ∧
      (Char.ofNat m).toLower = Char.ofNat m ∧ Char.ofNat m ≠ '.' ∧
      isForbiddenInDomain (Char.ofNat m) = false := by decide
  have hchar := hall c.toNat (List.mem_range'_1.2 ⟨hdigit.1, Nat.lt_succ_of_le hdigit.2⟩)
  rw [Char.ofNat_toNat] at hchar
  exact ⟨hchar.1, hchar.2.1, hchar.2.2.1, hchar.2.2.2⟩

/-- **A number in decimal digits** is a label. -/
theorem readsBack_toDigits (n : Nat) :
    isAscii (Nat.toDigits 10 n) ∧ ReadsBack isForbiddenInDomain (Nat.toDigits 10 n) := by
  have hchar : ∀ c ∈ Nat.toDigits 10 n, IsWrittenChar isForbiddenInDomain c :=
    fun c => isWrittenChar_of_mem_toDigits
  have hascii : isAscii (Nat.toDigits 10 n) :=
    List.all_eq_true.2 fun c hc => decide_eq_true (hchar c hc).ascii
  have hmark : Text.dropWord Name.mark (Nat.toDigits 10 n) = none := by
    rw [Option.eq_none_iff_forall_ne_some]
    intro rest hrest
    have hmem : 'x' ∈ Nat.toDigits 10 n := by
      rw [Text.dropWord_eq_some_iff.1 hrest]
      exact List.mem_append_left _ (by decide)
    exact absurd (Nat.isDigit_of_mem_toDigits (by decide) (Nat.le_refl 10) hmem) (by decide)
  exact ⟨hascii, Name.readsBack_of_isAscii hascii hmark (fun c hc => (hchar c hc).small)
    (fun hmem => (hchar _ hmem).undotted rfl) fun c hc => (hchar c hc).allowed⟩

/-- The octets of an address, as written. -/
def octets (a : Nat) : List (List Char) :=
  [a / 0x1000000, a / 0x10000 % 256, a / 0x100 % 256, a % 256].map (Nat.toDigits 10)

theorem toList_render_ipv4 (a : Nat) : (ipv4 a).render.toList = ['.'].intercalate (octets a) := by
  rw [render, String.toList_intercalate, List.map_map]
  have hdigits : ∀ n : Nat, (String.toList ∘ toString) n = Nat.toDigits 10 n := by
    intro n
    exact String.toList_ofList
  simp only [List.map_cons, List.map_nil, hdigits, octets]
  rfl

theorem isAscii_octets (a : Nat) : ∀ l ∈ octets a, isAscii l :=
  List.forall_mem_map.2 fun n _ => (readsBack_toDigits n).1

theorem readsBack_octets (a : Nat) : ∀ l ∈ octets a, ReadsBack isForbiddenInDomain l :=
  List.forall_mem_map.2 fun n _ => (readsBack_toDigits n).2

theorem written_octets (a : Nat) : (octets a).map written = octets a := by
  refine (List.map_congr_left fun l hl => ?_).trans (List.map_id _)
  rw [written, if_pos (isAscii_octets a l hl), id]

theorem labels_octets (a : Nat) : labels (['.'].intercalate (octets a)) = octets a := by
  have hdot : ∀ l ∈ octets a, '.' ∉ l := by
    intro l hl
    have hundotted : '.' ∉ written l := fun hmem => ((readsBack_octets a l hl).chars _ hmem).undotted rfl
    rwa [written, if_pos (isAscii_octets a l hl)] at hundotted
  have hlast : (octets a).getLast? ≠ some [] := by
    simp [octets, Nat.toDigits_ne_nil]
  rw [labels, Text.splitFrom_intercalate hdot (List.cons_ne_nil _ _), if_neg]
  exact fun hbad => hlast hbad.2

theorem ipv4?_octets (ha : a < 0x100000000) : ipv4? (['.'].intercalate (octets a)) = some a := by
  have hnumbers : (octets a).mapM ipv4Number? =
      some [a / 0x1000000, a / 0x10000 % 256, a / 0x100 % 256, a % 256] := by
    simp only [octets, List.map_cons, List.map_nil, List.mapM_cons, List.mapM_nil, ipv4Number?_toDigits]
    rfl
  have hpow : Nat.pow 256 (4 - 3) = 256 := rfl
  have hsmall : [a / 0x1000000, a / 0x10000 % 256, a / 0x100 % 256].all (· ≤ 255) = true := by
    simp
    omega
  have hlast : a % 256 < Nat.pow 256 (4 - 3) := by
    rw [hpow]
    omega
  rw [ipv4?, labels_octets a, hnumbers]
  simp only [Option.bind_eq_bind, Option.bind_some, List.getLast?_cons_cons, List.getLast?_singleton,
    List.dropLast_cons_cons, List.dropLast_singleton, List.length_cons, List.length_nil, Nat.zero_add,
    Nat.reduceAdd]
  rw [if_pos ⟨by omega, hsmall, hlast⟩]
  simp only [List.foldr_cons, List.foldr_nil, Option.some.injEq, hpow]
  omega

/-- Octets in front of a number below a weight are a number below the weight of them all. -/
theorem foldr_octets_lt {others : List Nat} (hsmall : others.all (· ≤ 255)) {last weight : Nat}
    (hlast : last < weight) :
    (others.foldr (fun n (p : Nat × Nat) => (p.1 + n * p.2, p.2 * 256)) (last, weight)).1 <
        weight * 256 ^ others.length ∧
      (others.foldr (fun n (p : Nat × Nat) => (p.1 + n * p.2, p.2 * 256)) (last, weight)).2 =
        weight * 256 ^ others.length := by
  induction others with
  | nil => simpa using hlast
  | cons n others ih =>
    rw [List.all_cons, Bool.and_eq_true, decide_eq_true_eq] at hsmall
    obtain ⟨hlt, hweight⟩ := ih hsmall.2
    rw [List.foldr_cons, List.length_cons, pow_succ, ← mul_assoc]
    refine ⟨?_, by rw [hweight]⟩
    dsimp only
    rw [hweight]
    have hmul : n * (weight * 256 ^ others.length) ≤ 255 * (weight * 256 ^ others.length) :=
      Nat.mul_le_mul_right _ hsmall.1
    omega

/-- What is read as an address of four octets has no more of them. -/
theorem lt_of_ipv4? (h : ipv4? cs = some a) : a < 0x100000000 := by
  simp only [ipv4?, Option.bind_eq_bind, Option.bind_eq_some_iff] at h
  obtain ⟨numbers, -, last, -, h⟩ := h
  split_ifs at h with hfit
  obtain ⟨hlength, hsmall, hlast⟩ := hfit
  cases h
  have hlt := (foldr_octets_lt hsmall hlast).1
  have hweight : Nat.pow 256 (4 - numbers.dropLast.length) * 256 ^ numbers.dropLast.length =
      0x100000000 := by
    rw [Nat.pow_eq, ← pow_add, Nat.sub_add_cancel (by omega)]
    rfl
  rwa [hweight] at hlt

/-- **An address of four octets is read back.** -/
theorem parse_ipv4 (ha : a < 0x100000000) :
    parse (ipv4 a).render.toList = .ok (ipv4 a) ∧ IsApart (ipv4 a).render.toList := by
  have hreads := readsBack_octets a
  have hrender : (ipv4 a).render.toList = ['.'].intercalate ((octets a).map written) := by
    rw [toList_render_ipv4, written_octets a]
  have hallowed : ∀ c ∈ (ipv4 a).render.toList, isForbiddenInDomain c = false := by
    rw [hrender]
    exact Name.of_mem_written (by cbv) fun l hl c hc => ((hreads l hl).chars c hc).allowed
  have hvalid : (octets a).all Name.isValidLabel := by
    apply List.all_eq_true.2
    intro l hl
    rw [Name.isValidLabel, isAscii_octets a l hl, Bool.true_or]
  have hname := Name.toAscii?_intercalate (List.cons_ne_nil _ _) hreads (by cbv) hvalid
    (Name.haveClearDirections_of_isAscii (isAscii_octets a))
  -- the name ends in a number, so it is read as an address and not as a domain
  have hends : endsInNumber (['.'].intercalate (octets a)) = true := by
    have hdigits : (Nat.toDigits 10 (a % 256)).all Char.isDigit := List.all_eq_true.2 fun c hc =>
      Nat.isDigit_of_mem_toDigits (by decide) (Nat.le_refl 10) hc
    have hempty : (Nat.toDigits 10 (a % 256)).isEmpty = false := by
      simp [Nat.toDigits_ne_nil]
    have hlast : (octets a).getLast? = some (Nat.toDigits 10 (a % 256)) := rfl
    rw [endsInNumber, labels_octets a, hlast]
    dsimp only
    rw [hdigits, hempty]
    rfl
  refine ⟨?_, isApart_of_allowed hallowed⟩
  rw [parse_of_toAscii? hallowed ?_ (hrender ▸ hname), toList_render_ipv4, hends, if_pos rfl,
    ipv4?_octets ha]
  · rfl
  · intro hnil
    exact render_ipv4_ne_empty a (String.toList_eq_nil_iff.1 hnil)

end Host

end XmlAudit.Url
