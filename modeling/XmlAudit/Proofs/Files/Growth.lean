import Mathlib
import XmlAudit.Files.Tree
import XmlAudit.Proofs.Outcome

/-!
# What is in a tree of files stays there

Making directories and writing new files only adds to a tree; any other file that is written takes the
place of the one before.

* `FileTree.Rooted`: whatever is somewhere stands in a directory.
* `FileTree.Grows`: what is at a place stays there; `FileTree.Widens`: nothing but directories is
  added.
* `Place.along`: the place to which segments lead, whatever is there.
* `follow_append`, `makeFrom_append`: segments are followed, and made, in parts.
* `makeFrom_of_follow`, `follow_of_makeFrom`: directories that are there need not be made, and those
  that are made are there.
* `write_eq_ok`: when a file can be written; `locate_of_leads`: paths lead where they led before.
* `FileTree.Receives`: the files that a tree receives, with directories on the way to them, and nothing
  else; `Receives.trans`: files received one after the other; `receives_write`: writing a file.
-/

namespace XmlAudit.Files

/-- The place to which segments lead from another one. -/
def Place.along (k : Place) : List String → Place
  | [] => k
  | s :: rest =>
    if Path.isIdle s then along k rest
    else if s = ".." then along k.dropLast rest
    else along (k ++ [s]) rest

namespace FileTree

variable {t t' t'' : FileTree} {k k' : Place} {e : Entry} {segments : List String}

/-! ## Places -/

@[simp] theorem find?_root (t : FileTree) : t.find? [] = some .directory := rfl

theorem find?_set (t : FileTree) (k k' : Place) (e : Option Entry) (hk : k ≠ []) :
    (t.set k e).find? k' = if k' = k then e else t.find? k' := by
  unfold find? set
  by_cases hroot : k' = []
  · rw [if_pos hroot, if_pos hroot, if_neg (by rw [hroot]; exact hk.symm)]
  · rw [if_neg hroot, if_neg hroot, List.lookup_cons]
    by_cases h : k' = k
    · simp [h]
    · simp [h, beq_false_of_ne h]

/-- **Whatever is somewhere stands in a directory**, and relative paths start in one. -/
structure Rooted (t : FileTree) : Prop where
  here : t.find? t.here = some .directory
  parent : ∀ k s, t.find? (k ++ [s]) ≠ none → t.find? k = some .directory

theorem Rooted.above (h : t.Rooted) {m : List String} (hm : m ≠ [])
    (hfind : t.find? (k ++ m) ≠ none) : t.find? k = some .directory := by
  induction m using List.reverseRecOn with
  | nil => exact absurd rfl hm
  | append_singleton m s ih =>
    rw [← List.append_assoc] at hfind
    have hparent := h.parent _ _ hfind
    by_cases hm' : m = []
    · rwa [hm', List.append_nil] at hparent
    · exact ih hm' (by rw [hparent]; exact Option.some_ne_none _)

theorem Rooted.dropLast (h : t.Rooted) (hk : t.find? k = some .directory) :
    t.find? k.dropLast = some .directory := by
  induction k using List.reverseRecOn with
  | nil => exact hk
  | append_singleton k s _ =>
    rw [List.dropLast_concat]
    exact h.parent k s (by rw [hk]; exact Option.some_ne_none _)

theorem Rooted.start (h : t.Rooted) (p : Path) : t.find? (t.start p) = some .directory := by
  unfold FileTree.start
  split
  · rfl
  · exact h.here

/-- The tree without files holds the directories on the way to its starting place. -/
theorem find?_empty (here k : Place) :
    (empty here).find? k = if k <+: here then some .directory else none := by
  have hentries : (empty here).entries =
      (List.range (here.length + 1)).map fun n => (here.take n, some Entry.directory) := rfl
  by_cases hroot : k = []
  · rw [hroot, if_pos List.nil_prefix]
    rfl
  unfold find?
  rw [if_neg hroot, hentries]
  by_cases hinit : k <+: here
  · rw [if_pos hinit]
    cases hlookup : List.lookup k _ with
    | none =>
      -- the entry of a place on the way is that of its length
      have hlen := hinit.length_le
      have hmem : (k, some Entry.directory) ∈
          (List.range (here.length + 1)).map fun n => (here.take n, some Entry.directory) :=
        List.mem_map.2 ⟨k.length, List.mem_range.2 (by omega), by
          rw [← List.prefix_iff_eq_take.1 hinit]⟩
      have hne := List.lookup_eq_none_iff.1 hlookup _ hmem
      simp at hne
    | some v =>
      obtain ⟨n, -, hn⟩ := List.mem_map.1 (mem_of_lookup hlookup)
      rw [← (Prod.mk.inj hn).2]
      rfl
  · rw [if_neg hinit]
    cases hlookup : List.lookup k _ with
    | none => rfl
    | some v =>
      obtain ⟨n, -, hn⟩ := List.mem_map.1 (mem_of_lookup hlookup)
      exact absurd ((Prod.mk.inj hn).1 ▸ List.take_prefix _ _) hinit

theorem rooted_empty (here : Place) : (empty here).Rooted where
  here := by rw [find?_empty]; exact if_pos List.prefix_rfl
  parent k s h := by
    rw [find?_empty] at h ⊢
    by_contra hk
    rw [if_neg] at h
    · exact h rfl
    · intro hinit
      exact hk (if_pos ((List.prefix_append k [s]).trans hinit))

/-! ## Growth -/

/-- **What is at a place stays there.** -/
structure Grows (t t' : FileTree) : Prop where
  here : t'.here = t.here
  keeps : ∀ k e, t.find? k = some e → t'.find? k = some e

/-- **Nothing but directories is added**, where there was nothing. -/
structure Widens (t t' : FileTree) : Prop where
  here : t'.here = t.here
  adds : ∀ k, t'.find? k = t.find? k ∨ t.find? k = none ∧ t'.find? k = some .directory

theorem Grows.refl (t : FileTree) : t.Grows t := ⟨rfl, fun _ _ h => h⟩

theorem Grows.trans (h : t.Grows t') (h' : t'.Grows t'') : t.Grows t'' :=
  ⟨h'.here.trans h.here, fun k e hk => h'.keeps k e (h.keeps k e hk)⟩

theorem Widens.refl (t : FileTree) : t.Widens t := ⟨rfl, fun _ => .inl rfl⟩

/-- Nothing but a directory is added in two steps where nothing else is in either of them. -/
theorem adds_trans {a b c : Option Entry} (h : b = a ∨ a = none ∧ b = some .directory)
    (h' : c = b ∨ b = none ∧ c = some .directory) : c = a ∨ a = none ∧ c = some .directory := by
  rcases h with rfl | ⟨rfl, rfl⟩
  · exact h'
  · rcases h' with rfl | ⟨hnone, -⟩
    · exact .inr ⟨rfl, rfl⟩
    · cases hnone

theorem Widens.trans (h : t.Widens t') (h' : t'.Widens t'') : t.Widens t'' :=
  ⟨h'.here.trans h.here, fun k => adds_trans (h.adds k) (h'.adds k)⟩

theorem Widens.grows (h : t.Widens t') : t.Grows t' := by
  refine ⟨h.here, fun k e hk => ?_⟩
  rcases h.adds k with heq | ⟨hnone, -⟩
  · rw [heq, hk]
  · rw [hk] at hnone
    cases hnone

/-- The files of a tree with more directories are those that were there. -/
theorem Widens.file_iff (h : t.Widens t') {content : List UInt8} :
    t'.find? k = some (.file content) ↔ t.find? k = some (.file content) := by
  rcases h.adds k with heq | ⟨hnone, hdir⟩
  · rw [heq]
  · simp [hnone, hdir]

theorem Grows.start (h : t.Grows t') (p : Path) : t'.start p = t.start p := by
  unfold FileTree.start
  rw [h.here]

/-- A new file or directory in a directory is added to a tree. -/
theorem grows_set (hk : t.find? k = none) : t.Grows (t.set k (some e)) := by
  have hne : k ≠ [] := by
    rintro rfl
    cases hk
  refine ⟨rfl, fun k' e' hk' => ?_⟩
  rw [find?_set _ _ _ _ hne, if_neg]
  · exact hk'
  · rintro rfl
    rw [hk'] at hk
    cases hk

theorem widens_set (hk : t.find? k = none) : t.Widens (t.set k (some .directory)) := by
  have hne : k ≠ [] := by
    rintro rfl
    cases hk
  refine ⟨rfl, fun k' => ?_⟩
  rw [find?_set _ _ _ _ hne]
  by_cases h : k' = k
  · exact .inr ⟨h ▸ hk, if_pos h⟩
  · exact .inl (if_neg h)

theorem Rooted.set {s : String} (h : t.Rooted) (hk : t.find? k = some .directory)
    (hnew : t.find? (k ++ [s]) = none) : (t.set (k ++ [s]) (some e)).Rooted := by
  have hgrows : t.Grows (t.set (k ++ [s]) (some e)) := grows_set hnew
  have hne : k ++ [s] ≠ [] := List.append_ne_nil_of_right_ne_nil _ (List.cons_ne_nil _ _)
  refine ⟨hgrows.keeps _ _ h.here, fun k' s' hk' => ?_⟩
  rw [find?_set _ _ _ _ hne] at hk'
  by_cases heq : k' ++ [s'] = k ++ [s]
  · rw [(List.append_inj' heq rfl).1]
    exact hgrows.keeps _ _ hk
  · rw [if_neg heq] at hk'
    exact hgrows.keeps _ _ (h.parent _ _ hk')

/-! ## Following segments -/

theorem follow_cons (hk : t.find? k = some .directory) (s : String) (rest : List String) :
    t.follow k (s :: rest) =
      if Path.isIdle s then t.follow k rest
      else if s = ".." then t.follow k.dropLast rest
      else if s.utf8ByteSize > nameLimit then .error .nameTooLong
      else t.follow (k ++ [s]) rest := by
  rw [follow, hk]

/-- A step is taken from a directory only. -/
theorem directory_of_follow {s : String} {rest : List String}
    (h : t.follow k (s :: rest) = .ok k') : t.find? k = some .directory := by
  rw [follow] at h
  cases hk : t.find? k with
  | none =>
    rw [hk] at h
    cases h
  | some e =>
    cases e with
    | directory => rfl
    | file _ =>
      rw [hk] at h
      cases h

theorem follow_append (t : FileTree) (k : Place) (a b : List String) :
    t.follow k (a ++ b) = t.follow k a >>= fun k' => t.follow k' b := by
  induction a generalizing k with
  | nil => rfl
  | cons s a ih =>
    simp only [List.cons_append, follow]
    cases t.find? k with
    | none => rfl
    | some e =>
      cases e with
      | file _ => rfl
      | directory =>
        simp only
        split_ifs
        · exact ih k
        · exact ih _
        · rfl
        · exact ih _

/-- Segments lead to the place that they spell. -/
theorem along_of_follow (h : t.follow k segments = .ok k') : k.along segments = k' := by
  induction segments generalizing k with
  | nil => exact Except.ok.inj h
  | cons s rest ih =>
    rw [follow_cons (directory_of_follow h)] at h
    rw [Place.along]
    split_ifs at h ⊢
    · exact ih h
    · exact ih h
    · exact ih h

/-- **Segments lead where they led before**, as long as no directory is lost. -/
theorem follow_of_leads
    (hleads : ∀ k, t.find? k = some .directory → t'.find? k = some .directory)
    (h : t.follow k segments = .ok k') : t'.follow k segments = .ok k' := by
  induction segments generalizing k with
  | nil => exact h
  | cons s rest ih =>
    have hk := directory_of_follow h
    rw [follow_cons hk] at h
    rw [follow_cons (hleads k hk)]
    split_ifs at h ⊢
    · exact ih h
    · exact ih h
    · exact ih h

theorem Grows.follow (hgrows : t.Grows t') (h : t.follow k segments = .ok k') :
    t'.follow k segments = .ok k' :=
  follow_of_leads (fun k hk => hgrows.keeps k _ hk) h

/-- No name is followed that is too long for a file. -/
theorem short_of_follow (h : t.follow k segments = .ok k') :
    ∀ s ∈ segments, ¬Path.isIdle s → s ≠ ".." → s.utf8ByteSize ≤ nameLimit := by
  induction segments generalizing k with
  | nil => simp
  | cons s rest ih =>
    rw [follow_cons (directory_of_follow h)] at h
    rw [List.forall_mem_cons]
    split_ifs at h with hidle hup hlong
    · exact ⟨fun hbusy => absurd hidle hbusy, ih h⟩
    · exact ⟨fun _ hdown => absurd hup hdown, ih h⟩
    · exact ⟨fun _ _ => by omega, ih h⟩

/-- Segments that take no step up lead further down. -/
theorem prefix_of_follow (hup : ".." ∉ segments) (h : t.follow k segments = .ok k') : k <+: k' := by
  induction segments generalizing k with
  | nil =>
    cases h
    exact List.prefix_rfl
  | cons s rest ih =>
    rw [follow_cons (directory_of_follow h)] at h
    rw [List.mem_cons, not_or] at hup
    split_ifs at h with hidle hs
    · exact ih hup.2 h
    · exact absurd hs.symm hup.1
    · exact (List.prefix_append k [s]).trans (ih hup.2 h)

/-- **What was there before a tree grew was found then as it is now**, where no step is taken up. -/
theorem Grows.follow_of_find? (hgrows : t.Grows t') (hrooted : t.Rooted) (hup : ".." ∉ segments)
    (h : t'.follow k segments = .ok k') (hk' : t.find? k' ≠ none) : t.follow k segments = .ok k' := by
  induction segments generalizing k with
  | nil => exact h
  | cons s rest ih =>
    have hdir : t.find? k = some .directory := by
      obtain ⟨m, rfl⟩ := prefix_of_follow hup h
      by_cases hm : m = []
      · rw [hm, List.append_nil] at hk'
        obtain ⟨e, he⟩ := Option.ne_none_iff_exists'.1 hk'
        rw [he, ← hgrows.keeps _ _ he]
        exact directory_of_follow h
      · exact hrooted.above hm hk'
    rw [follow_cons (directory_of_follow h)] at h
    rw [follow_cons hdir]
    rw [List.mem_cons, not_or] at hup
    split_ifs at h ⊢ with hidle hs
    · exact ih hup.2 h
    · exact absurd hs.symm hup.1
    · exact ih hup.2 h

/-- What segments lead to stands in a directory, even if there is nothing yet. -/
theorem Rooted.directory_of_follow {s : String} (hrooted : t.Rooted)
    (hstart : t.find? k = some .directory) (h : t.follow k segments = .ok (k' ++ [s])) :
    t.find? k' = some .directory := by
  induction segments generalizing k with
  | nil =>
    obtain rfl : k = k' ++ [s] := Except.ok.inj h
    exact hrooted.parent k' s (by rw [hstart]; exact Option.some_ne_none _)
  | cons x rest ih =>
    rw [follow_cons hstart] at h
    split_ifs at h
    · exact ih hstart h
    · exact ih (hrooted.dropLast hstart) h
    · cases rest with
      | nil =>
        obtain ⟨rfl, -⟩ := List.append_inj' (Except.ok.inj h) rfl
        exact hstart
      | cons y rest => exact ih (FileTree.directory_of_follow h) h

/-! ## Making directories -/

/-- The tree with a directory at a place where there was nothing. -/
def withDirectory (t : FileTree) (k : Place) : FileTree :=
  if t.find? k = none then t.set k (some .directory) else t

theorem widens_withDirectory (t : FileTree) (k : Place) : t.Widens (t.withDirectory k) := by
  unfold withDirectory
  split
  · next hnone => exact widens_set hnone
  · exact .refl t

theorem find?_withDirectory (hfile : ∀ content, t.find? k ≠ some (.file content)) :
    (t.withDirectory k).find? k = some .directory := by
  unfold withDirectory
  cases hk : t.find? k with
  | none =>
    have hne : k ≠ [] := by
      rintro rfl
      cases hk
    rw [if_pos rfl, find?_set _ _ _ _ hne, if_pos rfl]
  | some e =>
    cases e with
    | directory => simpa using hk
    | file content => exact absurd hk (hfile content)

theorem withDirectory_eq_self (hk : t.find? k = some e) : t.withDirectory k = t := by
  rw [withDirectory, if_neg (by rw [hk]; exact Option.some_ne_none _)]

theorem Rooted.withDirectory {s : String} (h : t.Rooted) (hk : t.find? k = some .directory) :
    (t.withDirectory (k ++ [s])).Rooted := by
  unfold FileTree.withDirectory
  split
  · next hnone => exact h.set hk hnone
  · exact h

/-- Whether a directory of some name can be in a directory. -/
def Enters (t : FileTree) (k : Place) (s : String) : Prop :=
  s.utf8ByteSize ≤ nameLimit ∧ ∀ content, t.find? (k ++ [s]) ≠ some (.file content)

theorem makeFrom_idle {s : String} (h : Path.isIdle s) (t : FileTree) (k : Place)
    (rest : List String) : t.makeFrom k (s :: rest) = t.makeFrom k rest := if_pos h

theorem makeFrom_up (t : FileTree) (k : Place) (rest : List String) :
    t.makeFrom k (".." :: rest) = t.makeFrom k.dropLast rest :=
  (if_neg (by decide)).trans (if_pos rfl)

theorem makeFrom_name {s : String} (hidle : ¬Path.isIdle s) (hup : s ≠ "..")
    (h : t.Enters k s) (rest : List String) :
    t.makeFrom k (s :: rest) = (t.withDirectory (k ++ [s])).makeFrom (k ++ [s]) rest := by
  rw [makeFrom, if_neg hidle, if_neg hup, if_neg (by have := h.1; omega)]
  cases hk : t.find? (k ++ [s]) with
  | none => rw [withDirectory, if_pos hk]
  | some e =>
    cases e with
    | directory => rw [withDirectory_eq_self hk]
    | file content => exact absurd hk (h.2 content)

theorem makeFrom_stops {s : String} (hidle : ¬Path.isIdle s) (hup : s ≠ "..")
    (h : ¬t.Enters k s) (rest : List String) : ∃ f, t.makeFrom k (s :: rest) = (.error f, t) := by
  rw [makeFrom, if_neg hidle, if_neg hup]
  by_cases hlong : s.utf8ByteSize > nameLimit
  · exact ⟨_, if_pos hlong⟩
  · rw [if_neg hlong]
    cases hk : t.find? (k ++ [s]) with
    | none => exact absurd ⟨by omega, by simp [hk]⟩ h
    | some e =>
      cases e with
      | directory => exact absurd ⟨by omega, by simp [hk]⟩ h
      | file content => exact ⟨_, rfl⟩

/-- **What making directories goes through**: idle segments, the directory above, directories that
are there or are made, and the first that cannot be. -/
theorem makeFrom_induction {motive : FileTree → Place → List String → Prop}
    (nil : ∀ t k, motive t k [])
    (idle : ∀ t k s rest, Path.isIdle s → motive t k rest → motive t k (s :: rest))
    (up : ∀ t k rest, motive t k.dropLast rest → motive t k (".." :: rest))
    (name : ∀ t k s rest, ¬Path.isIdle s → s ≠ ".." → t.Enters k s →
      motive (t.withDirectory (k ++ [s])) (k ++ [s]) rest → motive t k (s :: rest))
    (stop : ∀ t k s rest, ¬Path.isIdle s → s ≠ ".." → ¬t.Enters k s → motive t k (s :: rest))
    (t : FileTree) (k : Place) (segments : List String) : motive t k segments := by
  induction segments generalizing t k with
  | nil => exact nil t k
  | cons s rest ih =>
    by_cases hidle : Path.isIdle s
    · exact idle t k s rest hidle (ih t k)
    by_cases hup : s = ".."
    · rw [hup]
      exact up t k rest (ih t _)
    by_cases henters : t.Enters k s
    · exact name t k s rest hidle hup henters (ih _ _)
    · exact stop t k s rest hidle hup henters

theorem widens_makeFrom (t : FileTree) (k : Place) (segments : List String) :
    t.Widens (t.makeFrom k segments).2 := by
  induction t, k, segments using makeFrom_induction with
  | nil t k => exact .refl t
  | idle t k s rest h ih => rwa [makeFrom_idle h]
  | up t k rest ih => rwa [makeFrom_up]
  | name t k s rest hidle hup h ih =>
    rw [makeFrom_name hidle hup h]
    exact (widens_withDirectory t _).trans ih
  | stop t k s rest hidle hup h =>
    obtain ⟨f, hf⟩ := makeFrom_stops hidle hup h rest
    rw [hf]
    exact .refl t

theorem rooted_makeFrom (hrooted : t.Rooted) (hk : t.find? k = some .directory)
    (segments : List String) : (t.makeFrom k segments).2.Rooted := by
  induction t, k, segments using makeFrom_induction with
  | nil t k => exact hrooted
  | idle t k s rest h ih =>
    rw [makeFrom_idle h]
    exact ih hrooted hk
  | up t k rest ih =>
    rw [makeFrom_up]
    exact ih hrooted (hrooted.dropLast hk)
  | name t k s rest hidle hup h ih =>
    rw [makeFrom_name hidle hup h]
    exact ih (hrooted.withDirectory hk) (find?_withDirectory h.2)
  | stop t k s rest hidle hup h =>
    obtain ⟨f, hf⟩ := makeFrom_stops hidle hup h rest
    rwa [hf]

/-- Idle segments make no difference to the directories that are made. -/
theorem makeFrom_filter (t : FileTree) (k : Place) (segments : List String) :
    t.makeFrom k (segments.filter (!Path.isIdle ·)) = t.makeFrom k segments := by
  induction segments generalizing t k with
  | nil => rfl
  | cons s rest ih =>
    by_cases hidle : Path.isIdle s
    · rw [List.filter_cons_of_neg (by simp [hidle]), ih, makeFrom_idle hidle]
    · have hall : (rest.filter (!Path.isIdle ·)).all Path.isIdle = rest.all Path.isIdle := by
        rw [List.all_filter, Bool.eq_iff_iff]
        simp only [List.all_eq_true]
        exact forall₂_congr fun x _ => by cases Path.isIdle x <;> simp
      rw [List.filter_cons_of_pos (by simp [hidle])]
      simp only [makeFrom, ih, hall]

/-- Directories are made in parts. -/
theorem makeFrom_append {a : List String} (h : t.makeFrom k a = (.ok (), t')) (b : List String) :
    t.makeFrom k (a ++ b) = t'.makeFrom (k.along a) b := by
  induction t, k, a using makeFrom_induction with
  | nil t k =>
    cases h
    rfl
  | idle t k s rest hidle ih =>
    rw [makeFrom_idle hidle] at h
    rw [List.cons_append, makeFrom_idle hidle, Place.along, if_pos hidle]
    exact ih h
  | up t k rest ih =>
    rw [makeFrom_up] at h
    rw [List.cons_append, makeFrom_up, Place.along, if_neg (by decide), if_pos rfl]
    exact ih h
  | name t k s rest hidle hup henters ih =>
    rw [makeFrom_name hidle hup henters] at h
    rw [List.cons_append, makeFrom_name hidle hup henters, Place.along, if_neg hidle, if_neg hup]
    exact ih h
  | stop t k s rest hidle hup henters =>
    obtain ⟨f, hf⟩ := makeFrom_stops hidle hup henters rest
    rw [hf] at h
    cases h

/-- **Directories that are there need not be made.** -/
theorem makeFrom_of_follow (h : t.follow k segments = .ok k') (hk : t.find? k' = some .directory) :
    t.makeFrom k segments = (.ok (), t) := by
  induction segments generalizing k with
  | nil => rfl
  | cons s rest ih =>
    rw [follow_cons (directory_of_follow h)] at h
    split_ifs at h with hidle hup hlong
    · rw [makeFrom_idle hidle]
      exact ih h
    · rw [hup, makeFrom_up]
      exact ih h
    · have hdir : t.find? (k ++ [s]) = some .directory := by
        cases rest with
        | nil =>
          cases h
          exact hk
        | cons s' rest => exact directory_of_follow h
      have henters : t.Enters k s := ⟨by omega, by simp [hdir]⟩
      rw [makeFrom_name hidle hup henters, withDirectory_eq_self hdir]
      exact ih h

/-- **Directories that are made are there.** -/
theorem follow_of_makeFrom (hrooted : t.Rooted) (hk : t.find? k = some .directory)
    (h : t.makeFrom k segments = (.ok (), t')) :
    t'.follow k segments = .ok (k.along segments) ∧
      t'.find? (k.along segments) = some .directory := by
  -- what is there at some step stays, so each step can be followed in the tree that comes of all
  have hgrows : ∀ (t : FileTree) (k : Place) (segments : List String),
      t.makeFrom k segments = (.ok (), t') → t.Grows t' := by
    intro t k segments h
    have hwidens := widens_makeFrom t k segments
    rw [h] at hwidens
    exact hwidens.grows
  induction t, k, segments using makeFrom_induction with
  | nil t k =>
    cases h
    exact ⟨rfl, hk⟩
  | idle t k s rest hidle ih =>
    rw [follow_cons ((hgrows _ _ _ h).keeps _ _ hk), Place.along, if_pos hidle, if_pos hidle]
    rw [makeFrom_idle hidle] at h
    exact ih hrooted hk h
  | up t k rest ih =>
    rw [follow_cons ((hgrows _ _ _ h).keeps _ _ hk), Place.along, if_neg (by decide), if_pos rfl,
      if_neg (by decide), if_pos rfl]
    rw [makeFrom_up] at h
    exact ih hrooted (hrooted.dropLast hk) h
  | name t k s rest hidle hup henters ih =>
    rw [follow_cons ((hgrows _ _ _ h).keeps _ _ hk), Place.along, if_neg hidle, if_neg hup,
      if_neg hidle, if_neg hup, if_neg (by have := henters.1; omega)]
    rw [makeFrom_name hidle hup henters] at h
    exact ih (hrooted.withDirectory hk) (find?_withDirectory henters.2) h
  | stop t k s rest hidle hup henters =>
    obtain ⟨f, hf⟩ := makeFrom_stops hidle hup henters rest
    rw [hf] at h
    cases h

theorem makeDirectories_eq_ok {p : Path} :
    t.makeDirectories p = .ok t' ↔ t.prepare p = (.ok (), t') := by
  unfold makeDirectories
  cases h : t.prepare p with
  | mk outcome made =>
    cases outcome <;> simp [Except.map]

theorem prepare_eq_ok {p : Path} :
    t.prepare p = (.ok (), t') ↔ p.holdsNul = false ∧ p.text.utf8ByteSize ≤ pathLimit ∧
      t.makeFrom (t.start p) p.segments = (.ok (), t') := by
  unfold prepare
  split_ifs with hnul hlong
  · simp [hnul]
  · simp only [Prod.mk.injEq, reduceCtorEq, false_and, false_iff]
    omega
  · simp [hnul]
    omega

theorem prepare_widens (t : FileTree) (p : Path) :
    t.Widens (t.prepare p).2 ∧ (t.Rooted → (t.prepare p).2.Rooted) := by
  unfold prepare
  split_ifs
  · exact ⟨.refl t, id⟩
  · exact ⟨.refl t, id⟩
  · exact ⟨widens_makeFrom _ _ _, fun h => rooted_makeFrom h (h.start p) _⟩

/-! ## Writing files -/

theorem locate_eq_ok {p : Path} :
    t.locate p = .ok k ↔ p.holdsNul = false ∧ p.isEmpty = false ∧
      p.text.utf8ByteSize ≤ pathLimit ∧ t.follow (t.start p) p.segments = .ok k := by
  unfold locate
  split_ifs with hnul hempty hlong
  · simp [hnul]
  · simp [hempty]
  · simp only [false_iff]
    omega
  · simp [hnul, hempty]
    omega

theorem write_eq_ok {p : Path} {content : List UInt8} :
    t.write p content = .ok t' ↔ ∃ k, t.locate p = .ok k ∧ t.find? k ≠ some .directory ∧
      t' = t.set k (some (.file content)) := by
  unfold write
  rw [bind_eq_ok]
  refine exists_congr fun k => and_congr_right fun _ => ?_
  split
  · next hdir => simp [hdir, throw, throwThe, MonadExceptOf.throw]
  · next hdir =>
    have hne : t.find? k ≠ some .directory := hdir
    simp [hne, pure, Except.pure, eq_comm]

theorem write_directory {p : Path} (hk : t.locate p = .ok k) (hdir : t.find? k = some .directory)
    (content : List UInt8) : t.write p content = .error .isADirectory := by
  unfold write
  refine bind_eq_error.2 (.inr ⟨k, hk, ?_⟩)
  rw [hdir]
  rfl

theorem entry_eq_ok {p : Path} :
    t.entry p = .ok e ↔ ∃ k, t.locate p = .ok k ∧ t.find? k = some e := by
  unfold entry
  rw [bind_eq_ok]
  refine exists_congr fun k => and_congr_right fun _ => ?_
  cases t.find? k <;> simp [throw, throwThe, MonadExceptOf.throw, pure, Except.pure]

theorem read_eq_ok {p : Path} {content : List UInt8} :
    t.read p = .ok content ↔ ∃ k, t.locate p = .ok k ∧ t.find? k = some (.file content) := by
  unfold read
  rw [bind_eq_ok, ← entry_eq_ok]
  constructor
  · rintro ⟨e, he, h⟩
    cases e with
    | file content' =>
      cases h
      exact he
    | directory => cases h
  · intro h
    exact ⟨_, h, rfl⟩

/-- A path leads to a file exactly where there is a content to read. -/
theorem isFile_iff {p : Path} : t.isFile p ↔ ∃ content, t.read p = .ok content := by
  simp only [read_eq_ok, ← entry_eq_ok, isFile]
  cases t.entry p with
  | error f => simp
  | ok e => cases e <;> simp

/-- Paths lead where they led before, as long as no directory is lost. -/
theorem locate_of_leads (hhere : t'.here = t.here)
    (hleads : ∀ k, t.find? k = some .directory → t'.find? k = some .directory) {p : Path}
    (h : t.locate p = .ok k) : t'.locate p = .ok k := by
  obtain ⟨hnul, hempty, hlong, hfollow⟩ := locate_eq_ok.1 h
  refine locate_eq_ok.2 ⟨hnul, hempty, hlong, ?_⟩
  rw [start, hhere]
  exact follow_of_leads hleads hfollow

theorem Grows.locate (hgrows : t.Grows t') {p : Path} (h : t.locate p = .ok k) :
    t'.locate p = .ok k :=
  locate_of_leads hgrows.here (fun k hk => hgrows.keeps k _ hk) h

theorem Grows.read (hgrows : t.Grows t') {p : Path} {content : List UInt8}
    (h : t.read p = .ok content) : t'.read p = .ok content := by
  obtain ⟨k, hk, hfile⟩ := read_eq_ok.1 h
  exact read_eq_ok.2 ⟨k, hgrows.locate hk, hgrows.keeps _ _ hfile⟩

/-- Where only directories are added, a path without steps up leads to a file if it did before. -/
theorem Widens.isFile_iff (hwidens : t.Widens t') (hrooted : t.Rooted) {p : Path}
    (hup : ".." ∉ p.segments) : t'.isFile p ↔ t.isFile p := by
  rw [FileTree.isFile_iff, FileTree.isFile_iff]
  constructor
  · rintro ⟨content, hread⟩
    obtain ⟨k, hk, hfile⟩ := read_eq_ok.1 hread
    obtain ⟨hnul, hempty, hlong, hfollow⟩ := locate_eq_ok.1 hk
    have hfile' := hwidens.file_iff.1 hfile
    rw [hwidens.grows.start] at hfollow
    have hfollow' := hwidens.grows.follow_of_find? hrooted hup hfollow (by simp [hfile'])
    exact ⟨content, read_eq_ok.2 ⟨k, locate_eq_ok.2 ⟨hnul, hempty, hlong, hfollow'⟩, hfile'⟩⟩
  · rintro ⟨content, hread⟩
    exact ⟨content, hwidens.grows.read hread⟩

/-! ## Receiving files

Unlike copies, which are added to what is there, files that are written may take the place of others.
-/

section

variable {files files' : List (Place × List UInt8)}

/-- **A tree receives files**: then they are there, in place of files that were there before; no
directory is lost, and nothing else is changed but for directories that are made. -/
structure Receives (t t' : FileTree) (files : List (Place × List UInt8)) : Prop where
  here : t'.here = t.here
  holds : ∀ a ∈ files, t'.find? a.1 = some (.file a.2)
  leads : ∀ k, t.find? k = some .directory → t'.find? k = some .directory
  spares : ∀ k, (∀ a ∈ files, k ≠ a.1) →
    t'.find? k = t.find? k ∨ t.find? k = none ∧ t'.find? k = some .directory

theorem Widens.receives (h : t.Widens t') : t.Receives t' [] where
  here := h.here
  holds _ ha := nomatch ha
  leads k hk := h.grows.keeps k _ hk
  spares k _ := h.adds k

theorem Receives.refl (t : FileTree) : t.Receives t [] := (Widens.refl t).receives

namespace Receives

/-- **Files are received one after the other**, and the later ones take no place of an earlier one. -/
theorem trans (h : t.Receives t' files) (h' : t'.Receives t'' files')
    (hapart : ∀ a ∈ files, ∀ b ∈ files', a.1 ≠ b.1) : t.Receives t'' (files ++ files') where
  here := h'.here.trans h.here
  holds a ha := by
    rcases List.mem_append.1 ha with ha | ha
    · rcases h'.spares a.1 (hapart a ha) with hsame | ⟨hnone, -⟩
      · rw [hsame, h.holds a ha]
      · rw [h.holds a ha] at hnone
        cases hnone
    · exact h'.holds a ha
  leads k hk := h'.leads k (h.leads k hk)
  spares k hk := by
    obtain ⟨hfiles, hfiles'⟩ := List.forall_mem_append.1 hk
    exact adds_trans (h.spares k hfiles) (h'.spares k hfiles')

theorem locate (h : t.Receives t' files) {p : Path} (hp : t.locate p = .ok k) :
    t'.locate p = .ok k :=
  locate_of_leads h.here h.leads hp

end Receives

/-- **A file that is written is received** at the place to which its path leads. -/
theorem receives_write {p : Path} {content : List UInt8} (h : t.write p content = .ok t') :
    ∃ k, t'.locate p = .ok k ∧ t.Receives t' [(k, content)] := by
  obtain ⟨k, hk, hfree, rfl⟩ := write_eq_ok.1 h
  have hne : k ≠ [] := by
    rintro rfl
    exact hfree rfl
  have hreceives : t.Receives (t.set k (some (.file content))) [(k, content)] := by
    refine ⟨rfl, ?_, fun k' hk' => ?_, fun k' hk' => .inl ?_⟩
    · simp [find?_set _ _ _ _ hne]
    · rw [find?_set _ _ _ _ hne, if_neg]
      · exact hk'
      · rintro rfl
        exact hfree hk'
    · rw [find?_set _ _ _ _ hne, if_neg (by simpa using hk')]
  exact ⟨k, hreceives.locate hk, hreceives⟩

/-- Directories that are made take no place of a file. -/
theorem receives_makeDirectories {p : Path} (h : t.makeDirectories p = .ok t') : t.Receives t' [] := by
  have hwidens := (prepare_widens t p).1
  rw [makeDirectories_eq_ok.1 h] at hwidens
  exact hwidens.receives

end

end FileTree

end XmlAudit.Files
