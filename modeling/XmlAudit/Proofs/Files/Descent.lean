import Mathlib
import XmlAudit.Proofs.Files.Growth
import XmlAudit.Proofs.Files.Paths

/-!
# Where names below a directory lead

* `follow_down`, `eq_of_follow_names`: names that take a step down each, followed.
* `makeFrom_down`, `makeFrom_blocked`: such names, made.
* `site`: the place of a directory, whatever is there.
* `eq_of_locate_join`: names below a directory lead below its place, or nowhere.
-/

namespace XmlAudit.Files

theorem Place.along_filter (k : Place) (segments : List String) :
    k.along (segments.filter (!Path.isIdle ·)) = k.along segments := by
  induction segments generalizing k with
  | nil => rfl
  | cons s rest ih =>
    by_cases hidle : Path.isIdle s
    · rw [List.filter_cons_of_neg (by simp [hidle]), ih, along, if_pos hidle]
    · rw [List.filter_cons_of_pos (by simp [hidle])]
      simp only [along, ih]

namespace FileTree

open XmlAudit.Files.Path (IsPlain ArePlain)

variable {t t' : FileTree} {dir : Path} {k k' : Place} {names : List String}

/-! ## Names that take a step down -/

theorem follow_name {s : String} (hk : t.find? k = some .directory) (hs : IsPlain s)
    (hshort : s.utf8ByteSize ≤ nameLimit) (rest : List String) :
    t.follow k (s :: rest) = t.follow (k ++ [s]) rest := by
  rw [follow_cons hk, if_neg (by simp [hs.busy]), if_neg hs.ne_up, if_neg (by omega)]

/-- **Names are followed** to the place that they spell, through directories. -/
theorem follow_down (hplain : ∀ s ∈ names, IsPlain s) (hshort : ∀ s ∈ names, s.utf8ByteSize ≤ nameLimit)
    (hdirs : ∀ m, m <+: names → m ≠ names → t.find? (k ++ m) = some .directory) :
    t.follow k names = .ok (k ++ names) := by
  induction names generalizing k with
  | nil => rw [List.append_nil]; rfl
  | cons s rest ih =>
    rw [List.forall_mem_cons] at hplain hshort
    have hk : t.find? k = some .directory := by
      simpa using hdirs [] List.nil_prefix (List.cons_ne_nil _ _).symm
    rw [follow_name hk hplain.1 hshort.1, ih hplain.2 hshort.2, List.append_assoc]
    · rfl
    · intro m hm hne
      rw [List.append_assoc]
      exact hdirs (s :: m) ((List.prefix_cons_inj s).2 hm) (by simpa using hne)

/-- Names lead nowhere but to the place that they spell. -/
theorem eq_of_follow_names (hplain : ∀ s ∈ names, IsPlain s) (h : t.follow k names = .ok k') :
    k' = k ++ names := by
  induction names generalizing k with
  | nil =>
    cases h
    rw [List.append_nil]
  | cons s rest ih =>
    rw [List.forall_mem_cons] at hplain
    rw [follow_cons (directory_of_follow h), if_neg (by simp [hplain.1.busy]),
      if_neg hplain.1.ne_up] at h
    split_ifs at h
    rw [ih hplain.2 h, List.append_assoc]
    rfl

theorem find?_withDirectory_ne (h : k' ≠ k) : (t.withDirectory k).find? k' = t.find? k' := by
  unfold withDirectory
  split
  · next hnone =>
    rw [find?_set _ _ _ _ (by rintro rfl; cases hnone), if_neg h]
  · rfl

/-- **Names are made** where no file is on the way, and nothing else is. -/
theorem makeFrom_down (hplain : ∀ s ∈ names, IsPlain s)
    (hshort : ∀ s ∈ names, s.utf8ByteSize ≤ nameLimit)
    (hfiles : ∀ m ≠ [], m <+: names → ∀ content, t.find? (k ++ m) ≠ some (.file content)) :
    ∃ t', t.makeFrom k names = (.ok (), t') ∧
      (∀ m ≠ [], m <+: names → t'.find? (k ++ m) = some .directory) ∧
      ∀ j, (∀ m ≠ [], m <+: names → j ≠ k ++ m) → t'.find? j = t.find? j := by
  induction names generalizing t k with
  | nil =>
    refine ⟨t, rfl, fun m hm hinit => absurd (List.prefix_nil.1 hinit) hm, fun j _ => rfl⟩
  | cons s rest ih =>
    rw [List.forall_mem_cons] at hplain hshort
    have hentered : ∀ content, t.find? (k ++ [s]) ≠ some (.file content) :=
      hfiles [s] (List.cons_ne_nil _ _) ((List.prefix_cons_inj s).2 List.nil_prefix)
    -- to make the first directory changes no file, so there is none further down either
    obtain ⟨t', hmade, hdirs, hothers⟩ := ih (t := t.withDirectory (k ++ [s])) (k := k ++ [s])
      hplain.2 hshort.2 (by
        intro m hm hinit content hfile
        rw [(widens_withDirectory t _).file_iff, List.append_assoc] at hfile
        exact hfiles (s :: m) (List.cons_ne_nil _ _) ((List.prefix_cons_inj s).2 hinit) _ hfile)
    rw [makeFrom_name (by simp [hplain.1.busy]) hplain.1.ne_up ⟨hshort.1, hentered⟩]
    refine ⟨t', hmade, fun m hm hinit => ?_, fun j hj => ?_⟩
    · obtain ⟨m', rfl⟩ : ∃ m', m = s :: m' := by
        cases m with
        | nil => exact absurd rfl hm
        | cons x m' => exact ⟨m', by rw [((List.cons_prefix_cons).1 hinit).1]⟩
      -- the first directory is none of those below it, so they leave it there
      by_cases hm' : m' = []
      · rw [hm', hothers _ fun m hm _ => by simpa using hm]
        exact find?_withDirectory hentered
      · rw [List.append_cons]
        exact hdirs m' hm' ((List.prefix_cons_inj s).1 hinit)
    · rw [hothers j fun m _ hinit => ?_, find?_withDirectory_ne]
      · exact hj [s] (List.cons_ne_nil _ _) ((List.prefix_cons_inj s).2 List.nil_prefix)
      · rw [List.append_assoc]
        exact hj (s :: m) (List.cons_ne_nil _ _) ((List.prefix_cons_inj s).2 hinit)

/-- No directory is made for names that lead through a file. -/
theorem makeFrom_blocked (hplain : ∀ s ∈ names, IsPlain s)
    (hshort : ∀ s ∈ names, s.utf8ByteSize ≤ nameLimit) (hrooted : t.Rooted) {m : List String}
    (hm : m ≠ []) (hinit : m <+: names) {content : List UInt8}
    (hfile : t.find? (k ++ m) = some (.file content)) :
    ∃ f, t.makeFrom k names = (.error f, t) := by
  induction names generalizing k m with
  | nil => exact absurd (List.prefix_nil.1 hinit) hm
  | cons s rest ih =>
    rw [List.forall_mem_cons] at hplain hshort
    obtain ⟨m', rfl⟩ : ∃ m', m = s :: m' := by
      cases m with
      | nil => exact absurd rfl hm
      | cons x m' => exact ⟨m', by rw [((List.cons_prefix_cons).1 hinit).1]⟩
    by_cases hm' : m' = []
    · rw [hm'] at hfile
      exact makeFrom_stops (by simp [hplain.1.busy]) hplain.1.ne_up (fun h => h.2 _ hfile) rest
    · rw [List.append_cons] at hfile
      have hdir := hrooted.above hm' (by rw [hfile]; exact Option.some_ne_none _)
      rw [makeFrom_name (by simp [hplain.1.busy]) hplain.1.ne_up ⟨hshort.1, by simp [hdir]⟩,
        withDirectory_eq_self hdir]
      exact ih hplain.2 hshort.2 hm' ((List.prefix_cons_inj s).1 hinit) hfile

/-! ## Names below a directory -/

/-- The place of a directory. -/
def site (t : FileTree) (dir : Path) : Place := (t.start dir).along dir.base

theorem along_segments (t : FileTree) (dir : Path) : (t.start dir).along dir.segments = t.site dir := by
  rw [site, ← Place.along_filter, ← Path.filter_base, Place.along_filter]

theorem Receives.site {files : List (Place × List UInt8)} (h : t.Receives t' files) (dir : Path) :
    t'.site dir = t.site dir := by
  rw [FileTree.site, FileTree.site, start, start, h.here]

theorem start_join (h : ArePlain names) (t : FileTree) (dir : Path) :
    t.start (dir.join ⟨names⟩) = t.start dir := by
  rw [start, h.isAbsolute_join, start]

/-- **Names below a directory lead below the place of the directory**, or nowhere. -/
theorem eq_of_locate_join (h : ArePlain names) (hjoin : t.locate (dir.join ⟨names⟩) = .ok k) :
    k = t.site dir ++ names := by
  obtain ⟨-, -, -, hfollow⟩ := locate_eq_ok.1 hjoin
  rw [start_join h, h.join, follow_append] at hfollow
  obtain ⟨m, hbase, hnames⟩ := bind_eq_ok.1 hfollow
  rw [eq_of_follow_names h.plain hnames, site, along_of_follow hbase]

end FileTree

end XmlAudit.Files
