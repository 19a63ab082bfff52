import Mathlib
import XmlAudit.Proofs.Remote.CachePath

/-!
# Addresses are read back

* `IsApart`: the text of a host stays apart from what stands around it in an address.
* `IsOverNet`: the parts of an address over the net, as they are read.
* `isOverNet_of_parse`: what is read has such parts.
* `parse_text`: an address over the net is read as the text of its host is.
* `parse_render`: it is read back from its written form, if its host is.
-/

namespace XmlAudit.Url

open Remote (IsDiskName isKept)

/-! ## Texts taken apart -/

theorem cut_of_forall {isMark : Char → Bool} {cs : List Char} (h : ∀ c ∈ cs, isMark c = false) :
    cut isMark cs = (cs, none) := by
  have hkept : ∀ c ∈ cs, (!isMark c) = true := fun c hc => by rw [h c hc]; rfl
  rw [cut, List.dropWhile_eq_nil_iff.2 hkept, List.takeWhile_eq_self_iff.2 hkept]

theorem cut_append {isMark : Char → Bool} {cs : List Char} (h : ∀ c ∈ cs, isMark c = false) {m : Char}
    (hm : isMark m) (rest : List Char) : cut isMark (cs ++ m :: rest) = (cs, some rest) := by
  have hkept : ∀ c ∈ cs, (!isMark c) = true := fun c hc => by rw [h c hc]; rfl
  rw [cut, List.dropWhile_append_of_pos hkept, List.takeWhile_append_of_pos hkept]
  simp [hm]

/-- A text in which no character is a space or below one is read as it stands. -/
theorem clean_of_forall {s : String} (h : ∀ c ∈ s.toList, 0x20 < c.toNat) : clean s = s.toList := by
  have hstart : ∀ cs : List Char, (∀ c ∈ cs, 0x20 < c.toNat) → cs.dropWhile isEdge = cs := by
    intro cs hcs
    cases cs with
    | nil => rfl
    | cons c cs =>
      have hc := hcs c List.mem_cons_self
      rw [List.dropWhile_cons_of_neg (by simp [isEdge]; omega)]
  unfold clean
  rw [hstart _ h, hstart _ (by simpa using h), List.reverse_reverse]
  apply List.filter_eq_self.2
  intro c hc
  have hlow := h c hc
  have hne : ∀ d : Char, d.toNat ≤ 0x20 → c ≠ d := by
    rintro d hd rfl
    omega
  simp [hne '\t' (by decide), hne '\n' (by decide), hne '\r' (by decide)]

/-- A text without what is to be encoded stays as it is. -/
theorem percentEncode_eq_self {encoded : Char → Bool} {cs : List Char}
    (h : ∀ c ∈ cs, c.toNat < 0x80 ∧ encoded c = false) : percentEncode encoded cs = cs := by
  induction cs with
  | nil => rfl
  | cons c cs ih =>
    obtain ⟨hc, hcs⟩ := List.forall_mem_cons.1 h
    have hplain : ¬(c.toNat ≥ 0x80 || encoded c) := by
      rw [hc.2]
      simp
      omega
    rw [percentEncode, List.flatMap_cons, if_neg hplain]
    exact congrArg (c :: ·) (ih hcs)

/-! ## Who asks -/

/-- A user name or a password as it stands in an address. -/
def IsEncoded (s : String) : Prop := ∀ c ∈ s.toList, c.toNat < 0x80 ∧ inUserinfo c = false

/-- **What is encoded for a user name** needs no further encoding. -/
theorem isEncoded_percentEncode (cs : List Char) :
    IsEncoded (String.ofList (percentEncode inUserinfo cs)) := by
  have hdigit : ∀ n < 16, (hexDigit n).toNat < 0x80 ∧ inUserinfo (hexDigit n) = false := by decide
  intro c hc
  rw [String.toList_ofList, percentEncode, List.mem_flatMap] at hc
  obtain ⟨d, -, hc⟩ := hc
  split_ifs at hc with hplain
  · obtain ⟨b, -, hb⟩ := List.mem_flatMap.1 hc
    have hlt : b.toNat < 256 := b.toNat_lt
    simp only [percentOctet, List.mem_cons, List.not_mem_nil, or_false] at hb
    rcases hb with rfl | rfl | rfl
    · decide
    · exact hdigit _ (by omega)
    · exact hdigit _ (by omega)
  · rw [List.mem_singleton.1 hc]
    simpa using hplain

theorem IsEncoded.encode_toList {s : String} (h : IsEncoded s) :
    String.ofList (percentEncode inUserinfo s.toList) = s := by
  rw [percentEncode_eq_self h, String.ofList_toList]

theorem isEncoded_empty : IsEncoded "" := by simp [IsEncoded]

theorem isEncoded_ofChars (cs : List Char) :
    IsEncoded (Userinfo.ofChars cs).user ∧ IsEncoded (Userinfo.ofChars cs).password :=
  ⟨isEncoded_percentEncode _, isEncoded_percentEncode _⟩

/-- No encoded character is a mark of an address. -/
theorem IsEncoded.not_mem {s : String} (h : IsEncoded s) {c : Char} (hc : inUserinfo c) :
    c ∉ s.toList := by
  intro hmem
  rw [(h c hmem).2] at hc
  cases hc

theorem cutUserinfo_of_not_mem {cs : List Char} (h : '@' ∉ cs) : cutUserinfo cs = (none, cs) := by
  have hdrop : cs.reverse.dropWhile (· ≠ '@') = [] := by
    apply List.dropWhile_eq_nil_iff.2
    intro c hc
    have hne : c ≠ '@' := by
      rintro rfl
      exact h (List.mem_reverse.1 hc)
    simpa using hne
  rw [cutUserinfo, hdrop]

theorem cutUserinfo_append {rest : List Char} (h : '@' ∉ rest) (user : List Char) :
    cutUserinfo (user ++ '@' :: rest) = (some user, rest) := by
  have hkept : ∀ c ∈ rest.reverse, decide (c ≠ '@') = true := by
    intro c hc
    have hne : c ≠ '@' := by
      rintro rfl
      exact h (List.mem_reverse.1 hc)
    simpa using hne
  rw [cutUserinfo, List.reverse_append, List.reverse_cons, List.append_assoc,
    List.dropWhile_append_of_pos hkept, List.takeWhile_append_of_pos hkept]
  simp

/-- **Who asks is read back**, in front of a text without `@`. -/
theorem ofChars_cutUserinfo {i : Userinfo} (huser : IsEncoded i.user) (hpassword : IsEncoded i.password)
    {rest : List Char} (h : '@' ∉ rest) :
    ((cutUserinfo (i.render.toList ++ rest)).1.map Userinfo.ofChars).getD ⟨"", ""⟩ = i ∧
      (cutUserinfo (i.render.toList ++ rest)).2 = rest := by
  obtain ⟨user, password⟩ := i
  have hcolon : ∀ c ∈ user.toList, decide (c = ':') = false := by
    intro c hc
    have hne : c ≠ ':' := by
      rintro rfl
      exact huser.not_mem (by decide) hc
    simpa using hne
  -- nothing is written of an empty pair, and no colon before an empty password
  by_cases hnone : user = "" ∧ password = ""
  · rw [Userinfo.render, if_pos hnone, hnone.1, hnone.2, String.toList_empty, List.nil_append,
      cutUserinfo_of_not_mem h]
    exact ⟨rfl, rfl⟩
  by_cases hword : password = ""
  · have htext : (Userinfo.render ⟨user, password⟩).toList ++ rest = user.toList ++ '@' :: rest := by
      have huser : user ≠ "" := fun hempty => hnone ⟨hempty, hword⟩
      simp [Userinfo.render, hword, huser]
    rw [htext, cutUserinfo_append h, Option.map_some, Option.getD_some, Userinfo.ofChars,
      cut_of_forall hcolon]
    refine ⟨?_, rfl⟩
    dsimp only
    rw [huser.encode_toList, hword]
    rfl
  · have htext : (Userinfo.render ⟨user, password⟩).toList ++ rest =
        (user.toList ++ ':' :: password.toList) ++ '@' :: rest := by
      simp [Userinfo.render, hword]
    rw [htext, cutUserinfo_append h, Option.map_some, Option.getD_some, Userinfo.ofChars,
      cut_append hcolon (by decide)]
    refine ⟨?_, rfl⟩
    dsimp only
    rw [huser.encode_toList, Option.getD_some, hpassword.encode_toList]

/-! ## The host and the number after it -/

/-- A character that stands apart from the marks of an address. -/
def isInner (c : Char) : Bool := 0x20 < c.toNat && !(['/', '\\', '?', '#', '@'].contains c)

/-- **The text of a host stays apart from what stands around it** in an address. -/
structure IsApart (text : List Char) : Prop where
  inner : ∀ c ∈ text, isInner c
  passed : ∀ host rest, cutNumber false host (text ++ rest) =
    cutNumber false (text.reverse ++ host) rest

/-- The number after a host as written. -/
def numberText (number : Option Nat) : List Char :=
  (number.map fun p => ':' :: Nat.toDigits 10 p).getD []

theorem isInner_of_mem_numberText {number : Option Nat} {c : Char} (h : c ∈ numberText number) :
    isInner c := by
  cases number with
  | none => cases h
  | some p =>
    rcases List.mem_cons.1 h with rfl | h
    · decide
    · have hdigit := Nat.isDigit_of_mem_toDigits (by decide) (Nat.le_refl 10) h
      simp only [Char.isDigit, Bool.and_eq_true, decide_eq_true_eq, ge_iff_le, UInt32.le_iff_toNat_le]
        at hdigit
      have hlow : 48 ≤ c.toNat := hdigit.1
      have hhigh : c.toNat ≤ 57 := hdigit.2
      have hne : ∀ d : Char, (d.toNat < 48 ∨ 57 < d.toNat) → c ≠ d := by
        rintro d hd rfl
        omega
      simp [isInner, hne '/' (by decide), hne '\\' (by decide), hne '?' (by decide),
        hne '#' (by decide), hne '@' (by decide)]
      omega

/-- **The number after a host is read back.** -/
theorem numberOf_toDigits {scheme : String} {p : Nat} (hp : p < 65536)
    (hother : defaultNumber? scheme ≠ some p) :
    numberOf scheme (some (Nat.toDigits 10 p)) = .ok (some p) := by
  obtain ⟨c, cs, hcs⟩ := List.exists_cons_of_ne_nil (Nat.toDigits_ne_nil (b := 10) (n := p))
  have hvalue : (Nat.toDigits 10 p).foldl (fun n c => n * 10 + (c.toNat - 48)) 0 = p := by
    have hofDigits := Nat.ofDigitChars_ten_toDigits (n := p)
    rw [Nat.ofDigitChars_eq_foldl] at hofDigits
    simpa [Nat.mul_comm] using hofDigits
  have hdigits : (Nat.toDigits 10 p).all Char.isDigit = true :=
    List.all_eq_true.2 fun c hc => Nat.isDigit_of_mem_toDigits (by decide) (Nat.le_refl 10) hc
  rw [hcs] at hvalue hdigits ⊢
  rw [numberOf, hvalue, hdigits]
  · simp [hother]
    omega
  · simp

theorem number_of_numberOf {scheme : String} {cs : Option (List Char)} {p : Nat}
    (h : numberOf scheme cs = .ok (some p)) : p < 65536 ∧ defaultNumber? scheme ≠ some p := by
  unfold numberOf at h
  split at h
  · cases h
  · cases h
  · dsimp only at h
    split_ifs at h with hbad husual
    · cases h
    · cases h
      simp only [Bool.or_eq_true, decide_eq_true_eq, not_or] at hbad
      exact ⟨by omega, husual⟩

theorem cutNumber_numberText (host : List Char) (number : Option Nat) :
    cutNumber false host (numberText number) = (host.reverse, number.map (Nat.toDigits 10)) := by
  cases number <;> simp [numberText, cutNumber]

/-! ## The route -/

/-- The segments of a route as written. -/
def routeText (ss : List String) : List Char := ss.flatMap ('/' :: ·.toList)

theorem toList_render_segments (ss : List String) : (Route.segments ss).render.toList = routeText ss := by
  induction ss with
  | nil => rfl
  | cons s ss ih =>
    rw [Route.render] at ih ⊢
    rw [List.map_cons, String.join_cons, String.toList_append, ih, String.toList_append, routeText,
      routeText, List.flatMap_cons]
    rfl

theorem splitSlashes_append {special : Bool} {s part rest : List Char}
    (h : ∀ c ∈ s, isSlash special c = false) :
    splitSlashes special part (s ++ rest) = splitSlashes special (s.reverse ++ part) rest := by
  induction s generalizing part with
  | nil => rfl
  | cons c s ih =>
    obtain ⟨hc, hs⟩ := List.forall_mem_cons.1 h
    rw [List.cons_append, splitSlashes, hc, if_neg (by decide), ih hs, List.reverse_cons,
      List.append_assoc, List.singleton_append]

/-- **The segments of a route between its slashes.** -/
theorem splitSlashes_routeText {special : Bool} {ss : List String}
    (h : ∀ s ∈ ss, ∀ c ∈ s.toList, isSlash special c = false) (part : List Char) :
    splitSlashes special part (routeText ss) = part.reverse :: ss.map String.toList := by
  induction ss generalizing part with
  | nil => rfl
  | cons s ss ih =>
    obtain ⟨hs, hss⟩ := List.forall_mem_cons.1 h
    have hmark : isSlash special '/' = true := by simp [isSlash]
    rw [routeText, List.flatMap_cons, List.cons_append, splitSlashes, if_pos hmark,
      splitSlashes_append hs]
    have hrest := ih hss s.toList.reverse
    rw [List.reverse_reverse] at hrest
    rw [List.append_nil]
    exact congrArg (part.reverse :: ·) hrest

/-- A character that small letters leave is that character, unless it is a letter. -/
theorem eq_of_toLower_eq {c d : Char} (h : c.toLower = d) (hd : d.isAlpha = false) : c = d := by
  have hc : c.isAlpha = false := by rw [← Char.isAlpha_toLower_eq_isAlpha, h, hd]
  have hupper : ¬c.isUpper := by
    intro hupper
    rw [Char.isAlpha, hupper] at hc
    cases hc
  rw [← h, Char.toLower_eq_of_not_isUpper hupper]

variable {s : String}

theorem toNat_lt_of_isKept {c : Char} (h : isKept c) : 0x20 < c.toNat ∧ c.toNat < 0x80 := by
  simp only [isKept, Text.isAsciiAlphanumeric, Char.isAlpha, Char.isUpper, Char.isLower, Char.isDigit,
    Bool.or_eq_true, Bool.and_eq_true, decide_eq_true_eq, ge_iff_le, UInt32.le_iff_toNat_le] at h
  have hval : c.val.toNat = c.toNat := rfl
  rw [hval] at h
  rcases h with ((((h | h) | h) | rfl) | rfl) | rfl
  · have hlow : 65 ≤ c.toNat := h.1
    have hhigh : c.toNat ≤ 90 := h.2
    omega
  · have hlow : 97 ≤ c.toNat := h.1
    have hhigh : c.toNat ≤ 122 := h.2
    omega
  · have hlow : 48 ≤ c.toNat := h.1
    have hhigh : c.toNat ≤ 57 := h.2
    omega
  · decide
  · decide
  · decide

/-- What holds of each ASCII character that names on disk keep. -/
theorem of_isKept {p : Char → Bool}
    (h : (List.range 0x80).all fun n => !isKept (Char.ofNat n) || p (Char.ofNat n)) {c : Char}
    (hc : isKept c) : p c := by
  have hn := List.all_eq_true.1 h c.toNat (List.mem_range.2 (toNat_lt_of_isKept hc).2)
  rwa [Char.ofNat_toNat, hc] at hn

theorem isInner_of_isKept {c : Char} (h : isKept c) : isInner c := of_isKept (by decide) h

theorem ne_of_isKept {c d : Char} (h : isKept c) (hd : isKept d = false) : c ≠ d := by
  rintro rfl
  rw [h] at hd
  cases hd

/-- No word of dots, plain or encoded, is a name on disk. -/
theorem not_mem_dots (h : IsDiskName s) {words : List String}
    (hwords : words.all fun w => w.toList.contains '%' || w.toList.all (· = '.')) :
    words.contains (String.ofList (s.toList.map Char.toLower)) = false := by
  rw [List.contains_eq_mem, decide_eq_false_iff_not]
  intro hmem
  rcases Bool.or_eq_true_iff.1 (List.all_eq_true.1 hwords _ hmem) with hpercent | hdots
  · rw [String.toList_ofList, List.contains_iff_mem] at hpercent
    obtain ⟨c, hc, hlower⟩ := List.mem_map.1 hpercent
    exact ne_of_isKept (h.kept c hc) (by decide) (eq_of_toLower_eq hlower (by decide))
  · obtain ⟨c, hc, hdot⟩ := h.undotted
    rw [String.toList_ofList] at hdots
    have hlower := List.all_eq_true.1 hdots _ (List.mem_map_of_mem hc)
    exact hdot (eq_of_toLower_eq (of_decide_eq_true hlower) (by decide))

theorem isUp_of_isDiskName (h : IsDiskName s) : isUp s.toList = false :=
  not_mem_dots h (by cbv)

theorem isHere_of_isDiskName (h : IsDiskName s) : isHere s.toList = false := by
  have hnone := @not_mem_dots s h [".", "%2e"] (by cbv)
  simpa [isHere] using hnone

theorem percentEncode_inPath (h : IsDiskName s) : String.ofList (percentEncode inPath s.toList) = s := by
  rw [percentEncode_eq_self, String.ofList_toList]
  intro c hc
  have hkept := h.kept c hc
  have hplain : !inPath c := of_isKept (p := fun c => !inPath c) (by decide) hkept
  exact ⟨(toNat_lt_of_isKept hkept).2, by simpa using hplain⟩

theorem walk_diskNames {ss done : List String} (h : ∀ s ∈ ss, IsDiskName s) :
    walk done (ss.map String.toList) = done ++ ss := by
  induction ss generalizing done with
  | nil => simp [walk]
  | cons s ss ih =>
    obtain ⟨hs, hss⟩ := List.forall_mem_cons.1 h
    rw [List.map_cons, walk, isUp_of_isDiskName hs, isHere_of_isDiskName hs, if_neg (by decide),
      if_neg (by decide), percentEncode_inPath hs, ih hss, List.append_assoc, List.singleton_append]

/-! ## Addresses over the net -/

/-- **The parts of an address over the net**, as they are read. -/
structure IsOverNet (u : Url) : Prop where
  web : u.isWeb
  user : IsEncoded u.userinfo.user
  password : IsEncoded u.userinfo.password
  host : ∃ host cs, u.host = some host ∧ Host.parse cs = .ok host
  number : ∀ p, u.number = some p → p < 65536 ∧ defaultNumber? u.scheme ≠ some p
  route : ∃ ss, ss ≠ [] ∧ u.route = .segments ss

theorem walk_ne_nil {done : List String} {parts : List (List Char)} (h : done ≠ [] ∨ parts ≠ []) :
    walk done parts ≠ [] := by
  induction parts generalizing done with
  | nil => exact h.resolve_right (absurd rfl)
  | cons s rest ih =>
    unfold walk
    cases rest with
    | nil =>
      simp only [List.isEmpty_nil, if_true]
      split_ifs <;> simp [walk]
    | cons t rest => split_ifs <;> exact ih (.inr (List.cons_ne_nil _ _))

theorem splitSlashes_ne_nil (special : Bool) (part cs : List Char) : splitSlashes special part cs ≠ [] := by
  induction cs generalizing part with
  | nil => exact List.cons_ne_nil _ _
  | cons c cs ih =>
    unfold splitSlashes
    split_ifs
    · exact List.cons_ne_nil _ _
    · exact ih _

theorem exists_absoluteRoute (cs : List Char) : ∃ ss, ss ≠ [] ∧ absoluteRoute true cs = .segments ss := by
  unfold absoluteRoute
  split
  · exact ⟨[""], List.cons_ne_nil _ _, rfl⟩
  · split_ifs
    · exact ⟨_, walk_ne_nil (.inr (splitSlashes_ne_nil _ _ _)), rfl⟩
    · exact ⟨_, walk_ne_nil (.inr (splitSlashes_ne_nil _ _ _)), rfl⟩

theorem scheme_of_withAuthority {scheme : String} {cs : List Char} {u : Url}
    (h : withAuthority scheme cs = .ok u) : u.scheme = scheme := by
  obtain ⟨host, -, h⟩ := bind_eq_ok.1 h
  split_ifs at h
  obtain ⟨number, -, h⟩ := bind_eq_ok.1 h
  cases h
  rfl

theorem scheme_of_ofFile {cs : List Char} {u : Url} (h : ofFile none cs = .ok u) :
    u.scheme = "file" := by
  unfold ofFile at h
  simp only [Option.filter_none] at h
  split_ifs at h
  · cases h
    rfl
  · obtain ⟨host, -, h⟩ := bind_eq_ok.1 h
    cases h
    rfl
  · cases h
    rfl

theorem isSpecial_of_isWeb {u : Url} (h : u.isWeb) : isSpecial u.scheme = true ∧ u.scheme ≠ "file" := by
  simp only [isWeb, Bool.or_eq_true, decide_eq_true_eq] at h
  rcases h with h | h <;> rw [h] <;> decide

theorem isOverNet_of_withAuthority {scheme : String} {cs : List Char} {u : Url}
    (h : withAuthority scheme cs = .ok u) (hweb : u.isWeb) : IsOverNet u := by
  have hscheme := scheme_of_withAuthority h
  have hspecial : isSpecial scheme = true := hscheme ▸ (isSpecial_of_isWeb hweb).1
  obtain ⟨host, hhost, h⟩ := bind_eq_ok.1 h
  split_ifs at h
  obtain ⟨number, hnumber, h⟩ := bind_eq_ok.1 h
  cases h
  rw [hostOf, if_pos hspecial] at hhost
  obtain ⟨parsed, hparsed, rfl⟩ := map_eq_ok.1 hhost
  have hencoded : ∀ user : Option (List Char),
      IsEncoded ((user.map Userinfo.ofChars).getD ⟨"", ""⟩).user ∧
        IsEncoded ((user.map Userinfo.ofChars).getD ⟨"", ""⟩).password := by
    intro user
    cases user with
    | none => exact ⟨isEncoded_empty, isEncoded_empty⟩
    | some cs => exact isEncoded_ofChars cs
  refine ⟨hweb, (hencoded _).1, (hencoded _).2, ⟨parsed, _, rfl, hparsed⟩, ?_, ?_⟩
  · rintro p rfl
    exact number_of_numberOf hnumber
  · rw [hspecial]
    exact exists_absoluteRoute _

/-- **What is read as an address over the net** has the parts of one. -/
theorem isOverNet_of_parse {s : String} {u : Url} (h : parse s = .ok u) (hweb : u.isWeb) :
    IsOverNet u := by
  obtain ⟨hspecial, hfile⟩ := isSpecial_of_isWeb hweb
  unfold parse read at h
  obtain ⟨v, hv, h⟩ := bind_eq_ok.1 h
  cases h
  suffices hover : IsOverNet v from
    ⟨hover.web, hover.user, hover.password, hover.host, hover.number, hover.route⟩
  have hweb' : v.isWeb := hweb
  have hspecial' : isSpecial v.scheme = true := hspecial
  have hfile' : v.scheme ≠ "file" := hfile
  unfold resolve at hv
  split at hv
  · simp only [ofScheme, Option.filter_none] at hv
    split_ifs at hv with hscheme hknown
    · exact absurd (scheme_of_ofFile hv) hfile'
    · exact isOverNet_of_withAuthority hv hweb'
    · split at hv
      · exact isOverNet_of_withAuthority hv hweb'
      · cases hv
        exact absurd hspecial' hknown
      · cases hv
        exact absurd hspecial' hknown
  · cases hv

/-! ## Reading what is written -/

variable {u : Url} {host : Host} {text : List Char} {ss : List String}

/-- What stands between the slashes before a host of some text and the route. -/
def authorityText (u : Url) (text : List Char) : List Char :=
  u.userinfo.render.toList ++ (text ++ numberText u.number)

/-- An address over the net with a host of some text and a route of segments. -/
def netText (u : Url) (text : List Char) (ss : List String) : List Char :=
  u.scheme.toList ++ ':' :: '/' :: '/' :: (authorityText u text ++ routeText ss)

theorem toList_render (hhost : u.host = some host) (hroute : u.route = .segments ss)
    (hquery : u.query = none) (hfragment : u.fragment = none) :
    u.render.toList = netText u host.render.toList ss := by
  have hnumber : ((u.number.map fun p => ":" ++ toString p).getD "").toList = numberText u.number := by
    cases u.number with
    | none => rfl
    | some p => simp [numberText]
  rw [render, renderAuthority, hhost, hquery, hfragment, hroute]
  simp only [Option.map_none, Option.getD_none, String.append_empty, String.toList_append,
    toList_render_segments, hnumber, netText, authorityText]
  simp

theorem isInner_of_isEncoded {s : String} (h : IsEncoded s) {c : Char} (hc : c ∈ s.toList) :
    isInner c := by
  have hne : ∀ d : Char, inUserinfo d → c ≠ d := by
    rintro d hd rfl
    exact h.not_mem hd hc
  have hcontrol : isControl c = false := by
    have hplain := (h c hc).2
    simp only [inUserinfo, inPath, inFragment, controlOr, Bool.or_eq_false_iff] at hplain
    exact hplain.1.1.1
  have hspace : c.toNat ≠ 0x20 := fun heq => hne ' ' (by decide) (Char.toNat_inj.1 heq)
  have hmarks := hne '/' (by decide)
  have hback := hne '\\' (by decide)
  have hquestion := hne '?' (by decide)
  have hhash := hne '#' (by decide)
  have hat := hne '@' (by decide)
  simp only [isControl, Bool.or_eq_false_iff, decide_eq_false_iff_not] at hcontrol
  simp [isInner, hmarks, hback, hquestion, hhash, hat]
  omega

/-- No character before the route ends the part of an address where the host stands. -/
theorem of_mem_authorityText (hover : IsOverNet u) (hapart : IsApart text) {c : Char}
    (hc : c ∈ authorityText u text) : isInner c ∨ c = '@' := by
  rw [authorityText, List.mem_append, List.mem_append] at hc
  rcases hc with hc | hc | hc
  · unfold Userinfo.render at hc
    split_ifs at hc with hnone hword
    · cases hc
    · simp only [String.append_empty, String.toList_append, List.mem_append] at hc
      rcases hc with hc | hc
      · exact .inl (isInner_of_isEncoded hover.user hc)
      · exact .inr (by simpa using hc)
    · simp only [String.toList_append, List.mem_append] at hc
      rcases hc with (hc | hc | hc) | hc
      · exact .inl (isInner_of_isEncoded hover.user hc)
      · have hcolon : c = ':' := by simpa using hc
        exact .inl (by rw [hcolon]; decide)
      · exact .inl (isInner_of_isEncoded hover.password hc)
      · exact .inr (by simpa using hc)
  · exact .inl (hapart.inner c hc)
  · exact .inl (isInner_of_mem_numberText hc)

theorem of_mem_routeText (hss : ∀ s ∈ ss, IsDiskName s) {c : Char} (hc : c ∈ routeText ss) :
    isKept c ∨ c = '/' := by
  obtain ⟨s, hs, hc⟩ := List.mem_flatMap.1 hc
  rcases List.mem_cons.1 hc with rfl | hc
  · exact .inr rfl
  · exact .inl ((hss s hs).kept c hc)

theorem isSlash_of_isInner {c : Char} (h : isInner c ∨ c = '@') : isSlash true c = false := by
  rcases h with h | rfl
  · simp only [isInner, Bool.and_eq_true, Bool.not_eq_true'] at h
    simp_all [isSlash]
  · decide

theorem isSlash_of_isKept {c : Char} (special : Bool) (h : isKept c) : isSlash special c = false := by
  have hslash := ne_of_isKept h (d := '/') (by decide)
  have hback := ne_of_isKept h (d := '\\') (by decide)
  simp [isSlash, hslash, hback]

theorem absoluteRoute_routeText (hss : ∀ s ∈ ss, IsDiskName s) (hne : ss ≠ []) :
    absoluteRoute true (routeText ss) = .segments ss := by
  obtain ⟨first, rest, rfl⟩ := List.exists_cons_of_ne_nil hne
  have hkept : ∀ s ∈ first :: rest, ∀ c ∈ s.toList, isSlash true c = false :=
    fun s hs c hc => isSlash_of_isKept true ((hss s hs).kept c hc)
  obtain ⟨hfirst, hrest⟩ := List.forall_mem_cons.1 hkept
  have htext : routeText (first :: rest) = '/' :: (first.toList ++ routeText rest) := by
    rw [routeText, List.flatMap_cons, List.cons_append]
    rfl
  have hwalk := @walk_diskNames (first :: rest) [] hss
  rw [htext, absoluteRoute, if_pos (by decide), walkText, splitSlashes_append hfirst,
    splitSlashes_routeText hrest, List.append_nil, List.reverse_reverse, ← List.map_cons, hwalk,
    List.nil_append]

/-- The authority of an address ends where its route starts. -/
theorem span_authorityText (hover : IsOverNet u) (hapart : IsApart text) (hne : ss ≠ []) :
    (authorityText u text ++ routeText ss).takeWhile (!isSlash true ·) = authorityText u text ∧
      (authorityText u text ++ routeText ss).dropWhile (!isSlash true ·) = routeText ss := by
  have hinner : ∀ c ∈ authorityText u text, (!isSlash true c) = true := by
    intro c hc
    rw [isSlash_of_isInner (of_mem_authorityText hover hapart hc)]
    rfl
  obtain ⟨rest, hrest⟩ : ∃ rest, routeText ss = '/' :: rest := by
    obtain ⟨s, tail, rfl⟩ := List.exists_cons_of_ne_nil hne
    exact ⟨_, rfl⟩
  rw [List.takeWhile_append_of_pos hinner, List.dropWhile_append_of_pos hinner, hrest,
    List.takeWhile_cons_of_neg (by decide), List.dropWhile_cons_of_neg (by decide), List.append_nil]
  exact ⟨rfl, rfl⟩

theorem at_not_mem_hostText (hapart : IsApart text) (number : Option Nat) :
    '@' ∉ text ++ numberText number := by
  intro hmem
  have hbad : isInner '@' = true := by
    rcases List.mem_append.1 hmem with hmem | hmem
    · exact hapart.inner _ hmem
    · exact isInner_of_mem_numberText hmem
  revert hbad
  decide

/-- **The part of an address behind its scheme is read as its host is.** -/
theorem withAuthority_text (hover : IsOverNet u) (hapart : IsApart text)
    (hroute : u.route = .segments ss) (hss : ∀ s ∈ ss, IsDiskName s) (hne : ss ≠ [])
    (hquery : u.query = none) (hfragment : u.fragment = none) :
    withAuthority u.scheme (authorityText u text ++ routeText ss) =
      (Host.parse text).map fun host => { u with host := some host } := by
  have hspecial := (isSpecial_of_isWeb hover.web).1
  obtain ⟨htake, hdrop⟩ := span_authorityText hover hapart hne
  obtain ⟨huser, hhostNumber⟩ :=
    ofChars_cutUserinfo hover.user hover.password (at_not_mem_hostText hapart u.number)
  have hcut : cutNumber false [] (text ++ numberText u.number) =
      (text, u.number.map (Nat.toDigits 10)) := by
    rw [hapart.passed, cutNumber_numberText, List.append_nil, List.reverse_reverse]
  have hnumber : numberOf u.scheme (u.number.map (Nat.toDigits 10)) = .ok u.number := by
    cases hp : u.number with
    | none => rfl
    | some p => exact numberOf_toDigits (hover.number p hp).1 (hover.number p hp).2
  unfold withAuthority
  rw [hspecial]
  dsimp only
  rw [htake, hdrop]
  rw [authorityText, hhostNumber, hcut, huser, absoluteRoute_routeText hss hne, hostOf,
    if_pos hspecial]
  cases Host.parse text with
  | error f => rfl
  | ok host =>
    dsimp only [Except.map, bind, Except.bind]
    rw [if_neg (by simp), hnumber]
    obtain ⟨scheme, userinfo, host', number, route, query, fragment⟩ := u
    cases hroute
    cases hquery
    cases hfragment
    rfl

/-- The scheme of an address over the net is read first. -/
theorem scheme?_append (hweb : u.isWeb) (rest : List Char) :
    scheme? (u.scheme.toList ++ ':' :: rest) = some (u.scheme, rest) := by
  simp only [isWeb, Bool.or_eq_true, decide_eq_true_eq] at hweb
  rcases hweb with hscheme | hscheme <;> rw [hscheme] <;> rfl

/-- Every character of an address over the net, up to its query. -/
theorem of_mem_netText (hover : IsOverNet u) (hapart : IsApart text) (hss : ∀ s ∈ ss, IsDiskName s)
    {c : Char} (hc : c ∈ netText u text ss) : isInner c ∨ c = '@' ∨ c = '/' := by
  have hscheme : u.scheme.toList.all isInner := by
    have hweb := hover.web
    simp only [isWeb, Bool.or_eq_true, decide_eq_true_eq] at hweb
    rcases hweb with hscheme | hscheme <;> rw [hscheme] <;> decide
  rw [netText, List.mem_append, List.mem_cons, List.mem_cons, List.mem_cons, List.mem_append] at hc
  rcases hc with hc | rfl | rfl | rfl | hc | hc
  · exact .inl (List.all_eq_true.1 hscheme c hc)
  · exact .inl (by decide)
  · exact .inr (.inr rfl)
  · exact .inr (.inr rfl)
  · exact (of_mem_authorityText hover hapart hc).imp_right .inl
  · rcases of_mem_routeText hss hc with hkept | hslash
    · exact .inl (isInner_of_isKept hkept)
    · exact .inr (.inr hslash)

theorem unmarked_of_isInner {c : Char} (h : isInner c ∨ c = '@' ∨ c = '/') :
    0x20 < c.toNat ∧ decide (c = '#') = false ∧ decide (c = '?') = false := by
  rcases h with h | rfl | rfl
  · simp only [isInner, Bool.and_eq_true, Bool.not_eq_true', decide_eq_true_eq] at h
    simp_all
  · decide
  · decide

/-- **An address over the net is read as the text of its host is.** -/
theorem parse_text (hover : IsOverNet u) (hapart : IsApart text) (htext : text ≠ [])
    (hroute : u.route = .segments ss) (hss : ∀ s ∈ ss, IsDiskName s) (hne : ss ≠ [])
    (hquery : u.query = none) (hfragment : u.fragment = none) :
    parse (String.ofList (netText u text ss)) =
      (Host.parse text).map fun host => { u with host := some host } := by
  obtain ⟨hspecial, hfile⟩ := isSpecial_of_isWeb hover.web
  have hplain : ∀ c ∈ netText u text ss,
      0x20 < c.toNat ∧ decide (c = '#') = false ∧ decide (c = '?') = false :=
    fun c hc => unmarked_of_isInner (of_mem_netText hover hapart hss hc)
  have hclean : clean (String.ofList (netText u text ss)) = netText u text ss := by
    rw [clean_of_forall (by simpa using fun c hc => (hplain c hc).1), String.toList_ofList]
  -- Behind the two slashes the host or who asks starts, so that no further slash is skipped.
  obtain ⟨first, rest, hfirst⟩ : ∃ first rest, authorityText u text = first :: rest := by
    apply List.exists_cons_of_ne_nil
    intro hnil
    simp only [authorityText, List.append_eq_nil_iff] at hnil
    exact htext hnil.2.1
  have hslash : isSlash true first = false :=
    isSlash_of_isInner (of_mem_authorityText hover hapart (hfirst ▸ List.mem_cons_self))
  have hslashes : (('/' :: '/' :: (authorityText u text ++ routeText ss)).takeWhile
      (isSlash true)).length = 2 := by
    have hmark : isSlash true '/' = true := by decide
    rw [hfirst, List.cons_append, List.takeWhile_cons_of_pos hmark, List.takeWhile_cons_of_pos hmark,
      List.takeWhile_cons_of_neg (by rw [hslash]; decide)]
    rfl
  have hresolve : resolve none (netText u text ss) false =
      (Host.parse text).map fun host => { u with host := some host } := by
    rw [resolve, netText, scheme?_append hover.web]
    dsimp only
    rw [ofScheme, if_neg hfile, if_pos hspecial]
    dsimp only [Option.filter_none]
    rw [hslashes]
    exact withAuthority_text hover hapart hroute hss hne hquery hfragment
  unfold parse read
  rw [hclean, cut_of_forall fun c hc => (hplain c hc).2.1]
  dsimp only
  rw [cut_of_forall fun c hc => (hplain c hc).2.2]
  dsimp only
  rw [Option.isSome_none, Bool.and_false, hresolve]
  obtain ⟨scheme, userinfo, host', number, route, query, fragment⟩ := u
  cases hquery
  cases hfragment
  cases Host.parse text <;> rfl

/-- **An address over the net is read back** from its written form, if its host is. -/
theorem parse_render (hover : IsOverNet u) (hhost : u.host = some host)
    (hread : Host.parse host.render.toList = .ok host) (hapart : IsApart host.render.toList)
    (hroute : u.route = .segments ss) (hss : ∀ s ∈ ss, IsDiskName s) (hne : ss ≠ [])
    (hquery : u.query = none) (hfragment : u.fragment = none) : parse u.render = .ok u := by
  have hsome : host.render.toList ≠ [] := fun hnil =>
    Host.render_ne_empty_of_parse hread (String.toList_eq_nil_iff.1 hnil)
  rw [← String.ofList_toList (s := u.render), toList_render hhost hroute hquery hfragment,
    parse_text hover hapart hsome hroute hss hne hquery hfragment, hread, Except.map, ← hhost]

end XmlAudit.Url
