import Mathlib
import XmlAudit.Files.Path
import XmlAudit.Proofs.Text.Words

/-!
# Paths below a directory

* `Path.IsName`: a name that takes a step down wherever it stands.
* `ofText_text`: a path is told by its text.
* `exists_parent?`: the path without its last name, as far as it matters where it leads.
* `AreNames.join`: the path to names below a directory.
* `AreNames.components_join_inj`: such paths are told apart by their names.
* `AreNames.stripPrefix?_join`: what remains of such a path is the names.
-/

namespace XmlAudit.Files.Path

variable {p dir : Path} {s : String} {names names' init : List String}

/-! ## Segments -/

/-- A name that takes a step down wherever it stands. -/
structure IsName (s : String) : Prop where
  busy : isIdle s = false
  ne_up : s ≠ ".."

/-- A name that takes a step down wherever it stands, and that a file can have. -/
structure IsPlain (s : String) : Prop extends IsName s where
  noNul : '\x00' ∉ s.toList

theorem IsName.ne_empty (h : IsName s) : s ≠ "" := by
  rintro rfl
  cases h.busy

theorem step?_of_isName (h : IsName s) : step? s = some (.name s) := by
  rw [step?, if_neg (by simp [h.busy]), if_neg h.ne_up]

theorem trimIdle_isPrefix (segments : List String) : trimIdle segments <+: segments := by
  have hsuffix := List.dropWhile_suffix (l := segments.reverse) isIdle
  rw [trimIdle, ← List.reverse_suffix, List.reverse_reverse]
  exact hsuffix

theorem filter_trimIdle (segments : List String) :
    (trimIdle segments).filter (!isIdle ·) = segments.filter (!isIdle ·) := by
  have hdrop : ∀ segments : List String,
      (segments.dropWhile isIdle).filter (!isIdle ·) = segments.filter (!isIdle ·) := by
    intro segments
    induction segments with
    | nil => rfl
    | cons s rest ih =>
      by_cases hidle : isIdle s
      · rw [List.dropWhile_cons_of_pos hidle, ih, List.filter_cons_of_neg (by simp [hidle])]
      · rw [List.dropWhile_cons_of_neg hidle]
  rw [trimIdle, ← List.reverse_inj, ← List.filter_reverse, List.reverse_reverse, hdrop,
    List.filter_reverse]

theorem trimIdle_concat (h : isIdle s = false) : trimIdle (init ++ [s]) = init ++ [s] := by
  rw [trimIdle, List.reverse_concat, List.dropWhile_cons_of_neg (by simp [h]), List.reverse_cons,
    List.reverse_reverse]

theorem utf8ByteSize_text_le {a b : List String} (h : a <+: b) :
    (text ⟨a⟩).utf8ByteSize ≤ (text ⟨b⟩).utf8ByteSize := by
  induction a generalizing b with
  | nil => simp [text]
  | cons x a ih =>
    obtain ⟨b, rfl⟩ : ∃ b', b = x :: b' := by
      obtain ⟨rest, rfl⟩ := h
      exact ⟨_, rfl⟩
    have hrest : a <+: b := (List.prefix_cons_inj x).1 h
    cases b with
    | nil => rw [List.prefix_nil.1 hrest]
    | cons y b =>
      cases a with
      | nil => simp [text, String.intercalate_cons_cons, String.utf8ByteSize_append]; omega
      | cons z a =>
        have hle := ih hrest
        simp only [text, String.intercalate_cons_cons, String.utf8ByteSize_append] at hle ⊢
        omega

/-! ## Paths and texts -/

/-- **A path is told by its text**, unless there are slashes within its segments. -/
theorem ofText_text (hne : p.segments ≠ []) (hslash : ∀ s ∈ p.segments, '/' ∉ s.toList) :
    ofText p.text = p := by
  have htext : p.text.toList = ['/'].intercalate (p.segments.map String.toList) := by
    rw [text, String.toList_intercalate]
    rfl
  rw [ofText, Text.splitAt, htext,
    Text.splitFrom_intercalate (List.forall_mem_map.2 hslash) (by simpa using hne), List.map_map]
  congr 1
  exact (List.map_congr_left fun s _ => String.ofList_toList).trans (List.map_id _)

/-- A name without a slash is a path by itself. -/
theorem ofText_name (h : '/' ∉ s.toList) : ofText s = ⟨[s]⟩ := by
  have htext : text ⟨[s]⟩ = s := by simp [text]
  rw [← htext]
  exact ofText_text (List.cons_ne_nil _ _) (by simpa using h)

theorem not_mem_segments_ofText {text : String} (h : s ∈ (ofText text).segments) : '/' ∉ s.toList := by
  obtain ⟨word, hword, rfl⟩ := List.mem_map.1 h
  rw [String.toList_ofList]
  exact Text.not_mem_of_mem_splitFrom hword

/-! ## The path without its last name -/

theorem lead_root (x : String) (rest : List String) :
    lead ⟨"" :: x :: rest⟩ = (some "", x :: rest) := rfl

theorem lead_here (rest : List String) : lead ⟨"." :: rest⟩ = (some ".", rest) := rfl

theorem lead_other {segments : List String} (hroot : segments.head? ≠ some "")
    (hhere : segments.head? ≠ some ".") : lead ⟨segments⟩ = (none, segments) := by
  unfold lead
  dsimp only
  split
  · exact absurd rfl hroot
  · exact absurd rfl hhere
  · rfl

/-- What a path starts with, where a name follows at its end. -/
theorem lead_cases (hp : p.segments = init ++ [s]) (hs : isIdle s = false) :
    (∃ init', init = "" :: init' ∧ p.lead = (some "", init' ++ [s])) ∨
    (∃ init', init = "." :: init' ∧ p.lead = (some ".", init' ++ [s])) ∨
    init.head? ≠ some "" ∧ init.head? ≠ some "." ∧ p.lead = (none, init ++ [s]) := by
  obtain rfl : p = ⟨init ++ [s]⟩ := by rw [← hp]
  cases init with
  | nil =>
    have hne : s ≠ "" ∧ s ≠ "." := by
      constructor <;> (rintro rfl; cases hs)
    exact .inr (.inr ⟨by simp, by simp, lead_other (by simp [hne.1]) (by simp [hne.2])⟩)
  | cons x init =>
    by_cases hroot : x = ""
    · obtain ⟨y, rest, hy⟩ : ∃ y rest, init ++ [s] = y :: rest :=
        List.exists_cons_of_ne_nil (by simp)
      refine .inl ⟨init, by rw [hroot], ?_⟩
      rw [hroot, List.cons_append, hy]
      exact lead_root y rest
    by_cases hhere : x = "."
    · refine .inr (.inl ⟨init, by rw [hhere], ?_⟩)
      rw [hhere, List.cons_append]
      exact lead_here _
    · exact .inr (.inr ⟨by simpa using hroot, by simpa using hhere,
        lead_other (by simpa using hroot) (by simpa using hhere)⟩)

theorem parent?_of_lead {l : Option String} {rest : List String} (hlead : p.lead = (l, rest ++ [s]))
    (hs : isIdle s = false) : p.parent? = some (assemble l (trimIdle rest)) := by
  obtain ⟨x, tail, hx⟩ : ∃ x tail, rest ++ [s] = x :: tail := List.exists_cons_of_ne_nil (by simp)
  have hbody : (x :: tail).dropLast = rest := by rw [← hx, List.dropLast_concat]
  have htrim : trimIdle (rest ++ [s]) = x :: tail := by rw [trimIdle_concat hs, hx]
  unfold parent?
  rw [hlead]
  dsimp only
  rw [htrim]
  split
  · next heq => cases heq
  · next heq => cases heq
  · next heq => cases heq
  · rw [hbody]

theorem holdsNul_of_isPrefix {q : Path} (h : q.segments <+: p.segments) (hq : q.holdsNul) :
    p.holdsNul := by
  unfold holdsNul at hq ⊢
  rw [List.any_eq_true] at hq ⊢
  obtain ⟨x, hx, hnul⟩ := hq
  exact ⟨x, h.subset hx, hnul⟩

/-- What the path of a directory shares with a path to a name in it, before which there are the segments
`init`: where it starts and what it names, and it is no longer. -/
structure Precedes (q p : Path) (init : List String) : Prop where
  absolute : q.isAbsolute = p.isAbsolute
  noNul : q.holdsNul → p.holdsNul
  named : q.segments.filter (!isIdle ·) = init.filter (!isIdle ·)
  short : q.text.utf8ByteSize ≤ p.text.utf8ByteSize

theorem precedes_of_isPrefix {q : Path} (hp : p.segments = init ++ [s])
    (habs : q.isAbsolute = p.isAbsolute) (hq : q.segments <+: init)
    (hnamed : q.segments.filter (!isIdle ·) = init.filter (!isIdle ·)) : q.Precedes p init := by
  have hq' : q.segments <+: p.segments := hq.trans (hp ▸ List.prefix_append _ _)
  exact ⟨habs, holdsNul_of_isPrefix hq', hnamed, utf8ByteSize_text_le hq'⟩

theorem precedes_root (hp : p.segments = "" :: init ++ [s]) (habs : p.isAbsolute = true) :
    (assemble (some "") (trimIdle init)).Precedes p ("" :: init) := by
  have hfilter := filter_trimIdle init
  have htrim := trimIdle_isPrefix init
  cases hbody : trimIdle init with
  | nil =>
    rw [hbody] at hfilter
    -- nothing but the root is left of the path
    have htext : 1 ≤ p.text.utf8ByteSize := by
      obtain ⟨y, rest, hy⟩ : ∃ y rest, init ++ [s] = y :: rest :=
        List.exists_cons_of_ne_nil (by simp)
      rw [text, hp, List.cons_append, hy, String.intercalate_cons_cons]
      simp only [String.utf8ByteSize_append]
      have hslash : "/".utf8ByteSize = 1 := rfl
      omega
    refine ⟨?_, ?_, ?_, ?_⟩
    · rw [habs]
      rfl
    · simp [assemble, holdsNul]
    · rw [List.filter_cons_of_neg (by decide), ← hfilter]
      rfl
    · have hroot : (assemble (some "") []).text.utf8ByteSize = 1 := by decide
      omega
  | cons y rest =>
    have hassemble : (assemble (some "") (y :: rest)).segments = "" :: trimIdle init := by
      rw [hbody]
      rfl
    refine precedes_of_isPrefix hp ?_ ?_ ?_
    · rw [habs]
      rfl
    · rw [hassemble]
      exact (List.prefix_cons_inj _).2 htrim
    · rw [hassemble, List.filter_cons_of_neg (by decide), hfilter,
        List.filter_cons_of_neg (by decide)]

theorem precedes_here (hp : p.segments = "." :: init ++ [s]) (habs : p.isAbsolute = false) :
    (assemble (some ".") (trimIdle init)).Precedes p ("." :: init) := by
  have hassemble : assemble (some ".") (trimIdle init) = ⟨"." :: trimIdle init⟩ := by
    cases trimIdle init <;> rfl
  rw [hassemble]
  refine precedes_of_isPrefix hp ?_ ((List.prefix_cons_inj _).2 (trimIdle_isPrefix init)) ?_
  · rw [habs, isAbsolute, lead_here]
    rfl
  · rw [List.filter_cons_of_neg (by decide), List.filter_cons_of_neg (by decide), filter_trimIdle]

theorem precedes_other (hp : p.segments = init ++ [s]) (habs : p.isAbsolute = false)
    (hroot : init.head? ≠ some "") (hhere : init.head? ≠ some ".") :
    (assemble none (trimIdle init)).Precedes p init := by
  have hfilter := filter_trimIdle init
  have htrim := trimIdle_isPrefix init
  cases hbody : trimIdle init with
  | nil =>
    rw [hbody] at hfilter
    refine ⟨?_, ?_, ?_, ?_⟩
    · rw [habs]
      decide
    · simp [assemble, holdsNul]
    · rw [← hfilter]
      rfl
    · have hnothing : (assemble none []).text.utf8ByteSize = 0 := by decide
      omega
  | cons y rest =>
    rw [hbody] at hfilter htrim
    refine precedes_of_isPrefix hp ?_ htrim hfilter
    obtain ⟨after, rfl⟩ := htrim
    have hassemble : assemble none (y :: rest) = ⟨y :: rest⟩ := rfl
    rw [habs, isAbsolute, hassemble, lead_other (by simpa using hroot) (by simpa using hhere)]
    rfl

/-- **The path without its last name** leads to the directory of the name. -/
theorem exists_parent? (hp : p.segments = init ++ [s]) (hs : isIdle s = false) :
    ∃ q, p.parent? = some q ∧ q.Precedes p init := by
  rcases lead_cases hp hs with ⟨init', rfl, hlead⟩ | ⟨init', rfl, hlead⟩ | ⟨hroot, hhere, hlead⟩
  · exact ⟨_, parent?_of_lead hlead hs, precedes_root hp (by simp [isAbsolute, hlead])⟩
  · exact ⟨_, parent?_of_lead hlead hs, precedes_here hp (by simp [isAbsolute, hlead])⟩
  · exact ⟨_, parent?_of_lead hlead hs, precedes_other hp (by simp [isAbsolute, hlead]) hroot hhere⟩

/-! ## Names below a directory -/

/-- The segments of a path in front of those that are joined to it. -/
def base (dir : Path) : List String :=
  if dir.segments.getLast? = some "" then dir.segments.dropLast else dir.segments

theorem mem_of_mem_base (h : s ∈ dir.base) : s ∈ dir.segments := by
  unfold base at h
  split at h
  · exact List.mem_of_mem_dropLast h
  · exact h

theorem filter_base (dir : Path) :
    dir.base.filter (!isIdle ·) = dir.segments.filter (!isIdle ·) := by
  unfold base
  split
  · next hlast =>
    obtain ⟨init, hinit⟩ := List.getLast?_eq_some_iff.1 hlast
    rw [hinit, List.dropLast_concat, List.filter_append, List.filter_cons_of_neg (by decide),
      List.filter_nil, List.append_nil]
  · rfl

theorem holdsNul_base (dir : Path) :
    dir.base.any (·.toList.contains '\x00') = dir.holdsNul := by
  unfold base holdsNul
  split
  · next hlast =>
    obtain ⟨init, hinit⟩ := List.getLast?_eq_some_iff.1 hlast
    simp [hinit]
  · rfl

/-- What segments start with, where names follow. -/
def leadOf (segments : List String) : Option String × List String :=
  if segments.head? = some "" then (some "", segments.tail)
  else if segments.head? = some "." then (some ".", segments.tail)
  else (none, segments)

theorem lead_eq_leadOf {segments : List String} (h : segments ≠ [""]) :
    lead ⟨segments⟩ = leadOf segments := by
  unfold leadOf
  split_ifs with hroot hhere
  · obtain ⟨rest, rfl⟩ := List.head?_eq_some_iff.1 hroot
    obtain ⟨y, rest, rfl⟩ := List.exists_cons_of_ne_nil (show rest ≠ [] by rintro rfl; exact h rfl)
    exact lead_root y rest
  · obtain ⟨rest, rfl⟩ := List.head?_eq_some_iff.1 hhere
    exact lead_here rest
  · exact lead_other hroot hhere

theorem leadOf_append {segments : List String} (h : segments ≠ []) (names : List String) :
    leadOf (segments ++ names) = ((leadOf segments).1, (leadOf segments).2 ++ names) := by
  obtain ⟨x, rest, rfl⟩ := List.exists_cons_of_ne_nil h
  simp only [leadOf, List.cons_append, List.head?_cons, List.tail_cons, Option.some.injEq]
  by_cases hroot : x = ""
  · simp only [if_pos hroot]
  by_cases hhere : x = "."
  · simp only [if_neg hroot, if_pos hhere]
  · simp only [if_neg hroot, if_neg hhere, List.cons_append]

/-- A slash at the end of a path does not matter to what it starts with and to its steps. -/
theorem lead_base (dir : Path) :
    dir.lead.1 = (leadOf dir.base).1 ∧
      dir.lead.2.filterMap step? = (leadOf dir.base).2.filterMap step? := by
  obtain ⟨segments⟩ := dir
  unfold base
  split
  · next hlast =>
    obtain ⟨init, rfl⟩ := List.getLast?_eq_some_iff.1 hlast
    rw [List.dropLast_concat]
    by_cases hinit : init = []
    · rw [hinit]
      exact ⟨rfl, rfl⟩
    · rw [lead_eq_leadOf (by simpa using hinit), leadOf_append hinit, List.filterMap_append]
      exact ⟨rfl, List.append_nil _⟩
  · next hlast =>
    have hne : segments ≠ [""] := by
      rintro rfl
      exact hlast rfl
    rw [lead_eq_leadOf hne]
    exact ⟨rfl, rfl⟩

/-- Names that take a step down each, and of which there are some. -/
structure AreNames (names : List String) : Prop where
  named : ∀ s ∈ names, IsName s
  ne_nil : names ≠ []

/-- Names that take a step down each and that files can have, and of which there are some. -/
structure ArePlain (names : List String) : Prop extends AreNames names where
  noNul : ∀ s ∈ names, '\x00' ∉ s.toList

theorem ArePlain.plain (h : ArePlain names) : ∀ s ∈ names, IsPlain s :=
  fun s hs => ⟨h.named s hs, h.noNul s hs⟩

theorem arePlain_of_forall (h : ∀ s ∈ names, IsPlain s) (hne : names ≠ []) : ArePlain names :=
  ⟨⟨fun s hs => (h s hs).toIsName, hne⟩, fun s hs => (h s hs).noNul⟩

namespace AreNames

theorem head?_ne (h : AreNames names) {s : String} (hs : isIdle s) : names.head? ≠ some s := by
  intro hhead
  have hbusy := (h.named s (List.mem_of_head? hhead)).busy
  rw [hs] at hbusy
  cases hbusy

theorem lead_eq (h : AreNames names) : lead ⟨names⟩ = (none, names) :=
  lead_other (h.head?_ne (by decide)) (h.head?_ne (by decide))

theorem lead_append (h : AreNames names) (segments : List String) :
    lead ⟨segments ++ names⟩ = ((leadOf segments).1, (leadOf segments).2 ++ names) := by
  by_cases hsegments : segments = []
  · rw [hsegments]
    exact h.lead_eq
  · have hne : segments ++ names ≠ [""] := by
      obtain ⟨x, rest, rfl⟩ := List.exists_cons_of_ne_nil hsegments
      have hnames := h.ne_nil
      simp_all
    rw [lead_eq_leadOf hne, leadOf_append hsegments]

theorem isAbsolute_eq (h : AreNames names) : isAbsolute ⟨names⟩ = false := by
  rw [isAbsolute, h.lead_eq]
  rfl

theorem join (h : AreNames names) (dir : Path) : dir.join ⟨names⟩ = ⟨dir.base ++ names⟩ := by
  unfold Path.join base
  rw [h.isAbsolute_eq]
  split
  · next h => cases h
  · split <;> rfl

theorem isAbsolute_join (h : AreNames names) (dir : Path) :
    (dir.join ⟨names⟩).isAbsolute = dir.isAbsolute := by
  rw [h.join, isAbsolute, isAbsolute, h.lead_append, (lead_base dir).1]

theorem isEmpty_append (h : AreNames names) (segments : List String) :
    isEmpty ⟨segments ++ names⟩ = false := by
  obtain ⟨s, rest, rfl⟩ := List.exists_cons_of_ne_nil h.ne_nil
  have hs := (h.named s List.mem_cons_self).ne_empty
  rw [isEmpty, Bool.and_eq_false_iff]
  refine .inl (List.all_eq_false.2 ⟨s, ?_, by simpa using hs⟩)
  exact List.mem_append_right _ List.mem_cons_self

theorem isEmpty_join (h : AreNames names) (dir : Path) : (dir.join ⟨names⟩).isEmpty = false := by
  rw [h.join, h.isEmpty_append]

/-- The steps of names that take a step down each. -/
theorem filterMap_step? (h : AreNames names) : names.filterMap step? = names.map .name := by
  rw [← List.filterMap_eq_map]
  exact List.filterMap_congr fun s hs => step?_of_isName (h.named s hs)

theorem components_eq (h : AreNames names) : components ⟨names⟩ = names.map .name := by
  rw [components, h.lead_eq]
  exact h.filterMap_step?

/-- **The steps to names below a directory** are those to the directory, and then the names. -/
theorem components_join (h : AreNames names) (dir : Path) :
    (dir.join ⟨names⟩).components = dir.components ++ names.map .name := by
  rw [h.join, components, components, h.lead_append, (lead_base dir).1, (lead_base dir).2,
    List.filterMap_append, h.filterMap_step?, List.append_assoc]

/-- **Paths below a directory are told apart by their names.** -/
theorem components_join_inj (h : AreNames names) (h' : AreNames names') (dir : Path) :
    (dir.join ⟨names⟩).components = (dir.join ⟨names'⟩).components ↔ names = names' := by
  rw [h.components_join, h'.components_join, List.append_cancel_left_eq]
  exact (List.map_injective_iff.2 fun a b hab => Component.name.inj hab).eq_iff

theorem trimIdle_eq (h : AreNames names) : trimIdle names = names := by
  obtain ⟨init, last, rfl⟩ : ∃ init last, names = init ++ [last] :=
    ⟨_, _, (List.dropLast_append_getLast h.ne_nil).symm⟩
  exact trimIdle_concat (h.named last (by simp)).busy

/-- The last step to names below a directory is the last name. -/
theorem fileName?_join (h : AreNames names) (dir : Path) :
    (dir.join ⟨names⟩).fileName? = some (names.getLast h.ne_nil) := by
  have hlast : (dir.components ++ names.map Component.name).getLast? =
      some (.name (names.getLast h.ne_nil)) := by
    rw [List.getLast?_append_of_ne_nil _ (by simpa using h.ne_nil), List.getLast?_map,
      List.getLast?_eq_some_getLast h.ne_nil, Option.map_some]
  rw [fileName?, h.components_join, hlast]

/-- What is left behind the steps of a directory are the names, up to segments that take no step. -/
theorem dropSteps_append (h : AreNames names) (body : List String) :
    (dropSteps (body.filterMap step?).length (body ++ names)).dropWhile isIdle = names := by
  induction body with
  | nil =>
    obtain ⟨s, rest, rfl⟩ := List.exists_cons_of_ne_nil h.ne_nil
    have hs := (h.named s List.mem_cons_self).busy
    rw [List.filterMap_nil, List.length_nil, List.nil_append, dropSteps,
      List.dropWhile_cons_of_neg (by simp [hs])]
  | cons s body ih =>
    by_cases hidle : isIdle s
    · rw [List.filterMap_cons_none (by rw [step?, if_pos hidle]), List.cons_append]
      cases hsteps : (body.filterMap step?).length with
      | zero =>
        rw [hsteps, dropSteps] at ih
        rw [dropSteps, List.dropWhile_cons_of_pos hidle, ih]
      | succ n =>
        rw [hsteps] at ih
        rw [dropSteps, if_pos hidle, ih]
    · obtain ⟨c, hc⟩ : ∃ c, step? s = some c := by
        unfold step?
        rw [if_neg hidle]
        split_ifs <;> exact ⟨_, rfl⟩
      rw [List.filterMap_cons_some hc, List.length_cons, List.cons_append, dropSteps, if_neg hidle, ih]

/-- A path below a directory is told by its text. -/
theorem ofText_text_join (h : AreNames names) (hslash : ∀ s ∈ names, '/' ∉ s.toList) (text : String) :
    ofText ((ofText text).join ⟨names⟩).text = (ofText text).join ⟨names⟩ := by
  rw [h.join]
  refine ofText_text (List.append_ne_nil_of_right_ne_nil _ h.ne_nil) fun s hs => ?_
  rcases List.mem_append.1 hs with hs | hs
  · exact not_mem_segments_ofText (mem_of_mem_base hs)
  · exact hslash s hs

/-- **What remains of a path below a directory** are the names. -/
theorem stripPrefix?_join (h : AreNames names) (hdir : dir.components ≠ []) :
    (dir.join ⟨names⟩).stripPrefix? dir = some ⟨names⟩ := by
  have hinit : dir.components.isPrefixOf (dir.join ⟨names⟩).components := by
    rw [h.components_join, List.isPrefixOf_iff_prefix]
    exact List.prefix_append _ _
  have hsteps : dir.components.length - (leadOf dir.base).1.toList.length =
      ((leadOf dir.base).2.filterMap step?).length := by
    rw [components, (lead_base dir).1, (lead_base dir).2, List.length_append]
    cases (leadOf dir.base).1 <;> simp
  unfold stripPrefix?
  simp only [if_pos hinit, if_neg (List.length_eq_zero_iff.not.2 hdir)]
  rw [h.join, h.lead_append]
  simp only [hsteps, h.dropSteps_append, h.trimIdle_eq]
  obtain ⟨s, rest, rfl⟩ := List.exists_cons_of_ne_nil h.ne_nil
  rfl

/-- Nothing remains of it below a directory that does not lie on one way with its own. -/
theorem stripPrefix?_join_apart {other : Path} (h : AreNames names)
    (habove : ¬other.components <+: dir.components) (hbelow : ¬dir.components <+: other.components) :
    (dir.join ⟨names⟩).stripPrefix? other = none := by
  have hinit : ¬other.components.isPrefixOf (dir.join ⟨names⟩).components := by
    rw [h.components_join, List.isPrefixOf_iff_prefix]
    intro hinit
    rcases List.prefix_or_prefix_of_prefix hinit (List.prefix_append _ _) with hcase | hcase
    · exact habove hcase
    · exact hbelow hcase
  unfold stripPrefix?
  rw [if_neg hinit]

end AreNames

theorem ArePlain.holdsNul_join (h : ArePlain names) (dir : Path) :
    (dir.join ⟨names⟩).holdsNul = dir.holdsNul := by
  have hnames : names.any (·.toList.contains '\x00') = false := by
    rw [List.any_eq_false]
    exact fun s hs => by simpa using h.noNul s hs
  rw [h.join, ← holdsNul_base dir]
  unfold holdsNul
  rw [List.any_append, hnames, Bool.or_false]

end XmlAudit.Files.Path
