import Mathlib
import XmlAudit.Artifact.SearchPath
import XmlAudit.Proofs.Files.Paths

/-!
# Where references lead

A copy of an artifact may have been made somewhere else. References are then spelled from the place of
the copy, and are to lead where they would from the place of the artifact.

* `TellsPath`: a reference that is neither an address nor starts with a word for local files.
* `SearchPath.candidates`: the files that names may stand for, in the order in which they are tried.
* `SearchPath.resolveLocal?_join`: names below a directory stand for the first of them that is there.
* `SearchPath.resolve?_copied`: so they do below the place of the copy, and for the same file.
-/

namespace XmlAudit.Artifact

open Files (Path FileTree)
open Files.Path (AreNames)

/-- **A reference that tells a path**, and does not start with a word that is looked at first. -/
def TellsPath (systemId : String) : Prop :=
  ∀ word ∈ ["http://", "https://", "file://"], ¬word.toList <+: systemId.toList

instance (systemId : String) : Decidable (TellsPath systemId) :=
  inferInstanceAs (Decidable (∀ word ∈ ["http://", "https://", "file://"],
    ¬word.toList <+: systemId.toList))

namespace SearchPath

variable {s : SearchPath} {t : FileTree} {dir other : Path} {names : List String} {systemId : String}

theorem dropWord_of_tellsPath (h : TellsPath systemId) {word : String}
    (hword : word ∈ ["http://", "https://", "file://"]) :
    Text.dropWord word.toList systemId.toList = none := by
  rw [Option.eq_none_iff_forall_ne_some]
  intro rest hrest
  exact h word hword ⟨rest, (Text.dropWord_eq_some_iff.1 hrest).symm⟩

/-- A reference that tells a path is looked up as that path. -/
theorem resolve?_of_tellsPath (s : SearchPath) (t : FileTree) (h : TellsPath systemId) :
    s.resolve? t systemId = s.resolveLocal? t (Path.ofText systemId) := by
  have hremote : isRemote systemId = false := by
    rw [isRemote, dropWord_of_tellsPath h (by simp), dropWord_of_tellsPath h (by simp)]
    rfl
  rw [resolve?, hremote, if_neg (by decide), localPath, dropWord_of_tellsPath h (by simp)]
  rfl

/-- The files that names may stand for: they are tried below each of the directories, and then the last
of them is. -/
def candidates (s : SearchPath) (names : List String) : List Path :=
  s.directories.map (·.join ⟨names⟩) ++ s.directories.map (·.join ⟨names.getLast?.toList⟩)

theorem findUnder?_names (h : AreNames names) (s : SearchPath) (t : FileTree) :
    s.findUnder? t ⟨names⟩ = (s.directories.map (·.join ⟨names⟩)).find? t.isFile := by
  rw [findUnder?, h.isAbsolute_eq, if_neg (by decide)]

/-- **Names that remain of a path** stand for the first file that is there: at the path itself, and else
among those that they may stand for. -/
theorem resolveLocal?_join (h : AreNames names) (hslash : ∀ n ∈ names, '/' ∉ n.toList)
    (hrest : s.remainder? (dir.join ⟨names⟩) = some ⟨names⟩) (t : FileTree) :
    s.resolveLocal? t (dir.join ⟨names⟩) =
      if t.isFile (dir.join ⟨names⟩) then some (dir.join ⟨names⟩)
      else (s.candidates names).find? t.isFile := by
  have hlast : AreNames [names.getLast h.ne_nil] :=
    ⟨by simpa using h.named _ (List.getLast_mem h.ne_nil), List.cons_ne_nil _ _⟩
  have hname : (dir.join ⟨names⟩).fileName?.map Path.ofText = some ⟨[names.getLast h.ne_nil]⟩ := by
    rw [h.fileName?_join, Option.map_some, Path.ofText_name (hslash _ (List.getLast_mem h.ne_nil))]
  unfold resolveLocal? candidates
  split
  · rfl
  · rw [hrest, hname, List.getLast?_eq_some_getLast h.ne_nil, List.find?_append]
    simp only [Option.toList_some, List.singleton_append, List.findSome?_cons, List.findSome?_nil,
      findUnder?_names h, findUnder?_names hlast]
    cases (s.directories.map (·.join ⟨names⟩)).find? t.isFile with
    | some p => rfl
    | none => cases (s.directories.map (·.join ⟨[names.getLast h.ne_nil]⟩)).find? t.isFile <;> rfl

/-- What remains of a path below the directory of the artifact. -/
theorem remainder?_artifact (h : AreNames names) (hdir : s.artifactDir.components ≠ []) :
    s.remainder? (s.artifactDir.join ⟨names⟩) = some ⟨names⟩ := by
  have hempty : Path.isEmpty ⟨names⟩ = false := h.isEmpty_append []
  rw [remainder?, List.findSome?_cons, h.stripPrefix?_join hdir]
  exact Option.filter_some_pos (by simp [hempty])

/-- What remains of a path below the directory of the copy. -/
theorem remainder?_copy (h : AreNames names) (hw : s.loadedFrom = some dir)
    (habove : ¬s.artifactDir.components <+: dir.components)
    (hbelow : ¬dir.components <+: s.artifactDir.components) :
    s.remainder? (dir.join ⟨names⟩) = some ⟨names⟩ := by
  have hempty : Path.isEmpty ⟨names⟩ = false := h.isEmpty_append []
  have hdir : dir.components ≠ [] := fun hnil => hbelow (hnil ▸ List.nil_prefix)
  rw [remainder?, List.findSome?_cons, h.stripPrefix?_join_apart habove hbelow, hw]
  simp only [Option.toList_some, List.findSome?_cons, h.stripPrefix?_join hdir]
  exact Option.filter_some_pos (by simp [hempty])

/-- **References from the place of a copy lead where those from the place of the artifact do**: to the
first file that is there among those that the names may stand for. -/
theorem resolve?_copied {a w : String} (ha : s.artifactDir = .ofText a)
    (hw : s.loadedFrom = some (.ofText w))
    (hapart : ¬(Path.ofText a).components <+: (Path.ofText w).components)
    (hapart' : ¬(Path.ofText w).components <+: (Path.ofText a).components) (hnames : AreNames names)
    (hslash : ∀ n ∈ names, '/' ∉ n.toList)
    (htells : TellsPath ((Path.ofText a).join ⟨names⟩).text)
    (htells' : TellsPath ((Path.ofText w).join ⟨names⟩).text)
    (hmissing : ¬t.isFile ((Path.ofText w).join ⟨names⟩)) :
    s.resolve? t ((Path.ofText w).join ⟨names⟩).text =
        s.resolve? t ((Path.ofText a).join ⟨names⟩).text ∧
      s.resolve? t ((Path.ofText a).join ⟨names⟩).text = (s.candidates names).find? t.isFile := by
  have hdir : s.artifactDir.components ≠ [] := by
    rw [ha]
    exact fun hnil => hapart (hnil ▸ List.nil_prefix)
  have hartifact : s.resolve? t ((Path.ofText a).join ⟨names⟩).text =
      (s.candidates names).find? t.isFile := by
    rw [resolve?_of_tellsPath s t htells, hnames.ofText_text_join hslash, ← ha,
      resolveLocal?_join hnames hslash (remainder?_artifact hnames hdir)]
    split
    · -- the file at the path itself is the first one that is tried
      next hthere => exact (List.find?_cons_of_pos hthere).symm
    · rfl
  have hcopy : s.resolve? t ((Path.ofText w).join ⟨names⟩).text =
      (s.candidates names).find? t.isFile := by
    rw [resolve?_of_tellsPath s t htells', hnames.ofText_text_join hslash,
      resolveLocal?_join hnames hslash (remainder?_copy hnames hw (ha ▸ hapart) (ha ▸ hapart')),
      if_neg hmissing]
  exact ⟨hcopy.trans hartifact.symm, hartifact⟩

/-- A file beside an artifact is found among those that the request brings along, whether it is looked
for from the place of the artifact or of the copy. -/
theorem resolve?_copied_library :
    let s : SearchPath := { ofDirectory (.ofText "/rules") with
      loadedFrom := some (.ofText "/work/"), externalDir := some (.ofText "up") }
    let t := ((((FileTree.empty []).set ["up"] (some .directory)).set ["up", "lib"]
      (some .directory)).set ["up", "a.xsl"] (some (.file []))).set ["up", "lib", "a.xsl"] (some (.file []))
    let names := ["lib", "a.xsl"]
    ¬t.isFile ((Path.ofText "/work/").join ⟨names⟩) ∧
      s.resolve? t ((Path.ofText "/work/").join ⟨names⟩).text =
        s.resolve? t ((Path.ofText "/rules").join ⟨names⟩).text ∧
      s.resolve? t ((Path.ofText "/rules").join ⟨names⟩).text = (s.candidates names).find? t.isFile ∧
      (s.candidates names).find? t.isFile = some (.ofText "up/lib/a.xsl") := by
  intro s t names
  have hmissing : ¬t.isFile ((Path.ofText "/work/").join ⟨names⟩) := by decide
  have hnames : AreNames names := by
    refine ⟨fun n hn => ?_, List.cons_ne_nil _ _⟩
    rcases List.mem_pair.1 hn with rfl | rfl <;> exact ⟨rfl, by decide⟩
  have hcopied := resolve?_copied (s := s) (t := t) (a := "/rules") (w := "/work/") rfl rfl (by decide)
    (by decide) hnames (by decide) (by decide) (by decide) hmissing
  exact ⟨hmissing, hcopied.1, hcopied.2, by decide⟩

/-- Below a copy whose place is spelled like an address, a reference is taken for that address. -/
theorem resolve?_copied_address :
    let s : SearchPath := { ofDirectory (.ofText "a") with loadedFrom := some (.ofText "http://h") }
    let t := ((FileTree.empty []).set ["a"] (some .directory)).set ["a", "r"] (some (.file []))
    ¬(Path.ofText "a").components <+: (Path.ofText "http://h").components ∧
      ¬(Path.ofText "http://h").components <+: (Path.ofText "a").components ∧
      ¬t.isFile ((Path.ofText "http://h").join ⟨["r"]⟩) ∧
      s.resolve? t ((Path.ofText "http://h").join ⟨["r"]⟩).text = none ∧
      s.resolve? t ((Path.ofText "a").join ⟨["r"]⟩).text = some (.ofText "a/r") := by
  decide

end SearchPath

end XmlAudit.Artifact
