import XmlAudit.Proofs.Remote.Stock

/-!
# Copies stay below their directory

Addresses of copies come from files that were fetched, so nothing is known of them.

* `Path.IsInside`: a path that goes on from another one, and only down.
* `locate_join`: names below a directory lead below the place of the directory, or nowhere.
* `cachePath_inside`: the path of a copy is inside whatever directory it is joined to.
-/

namespace XmlAudit

open Files (Path FileTree Place)

/-- **A path inside another one**: it takes the steps of that one and then some more, all of them
down. -/
def Files.Path.IsInside (p dir : Path) : Prop :=
  ∃ names : List String, names ≠ [] ∧ p.components = dir.components ++ names.map .name

namespace Remote

open Files.FileTree
open Files.Path (ArePlain)

variable {t : FileTree} {dir : Path} {k k' : Place} {names : List String}

theorem isInside_join (h : ArePlain names) (dir : Path) : (dir.join ⟨names⟩).IsInside dir :=
  ⟨names, h.ne_nil, h.components_join dir⟩

/-- What is below a directory that is there leads below its place, or nowhere. -/
theorem locate_join (h : ArePlain names) (hdir : t.locate dir = .ok k)
    (hjoin : t.locate (dir.join ⟨names⟩) = .ok k') : k' = k ++ names := by
  obtain ⟨-, -, -, hfollow⟩ := locate_eq_ok.1 hdir
  rw [eq_of_locate_join h hjoin, ← along_segments, along_of_follow hfollow]

/-- **The path of a copy stays inside the directory of copies**, whatever the address.

* It is relative and not empty, and each of its names is written in letters and digits of ASCII, dots,
  hyphens and underscores; none is empty, and none stands for a directory or for the one above.
* Joined to a directory it is a path inside that directory, and in a tree of files it leads below the
  place of that directory, if anywhere. -/
theorem cachePath_inside (url : String) :
    (cachePath url).isAbsolute = false ∧ (cachePath url).segments ≠ [] ∧
    (cachePath url).components = (cachePath url).segments.map .name ∧
    (∀ name ∈ (cachePath url).segments, name ≠ "" ∧ name ≠ "." ∧ name ≠ ".." ∧
      ∀ c ∈ name.toList, c.isAlpha ∨ c.isDigit ∨ c = '.' ∨ c = '-' ∨ c = '_') ∧
    ∀ dir : Path, (dir.join (cachePath url)).IsInside dir ∧
      ∀ (t : FileTree) (k k' : Place), t.locate dir = .ok k →
        t.locate (dir.join (cachePath url)) = .ok k' → k <+: k' ∧ k ≠ k' := by
  have hplain := arePlain_cacheNames url
  unfold cachePath
  generalize hnames : cacheNames url = names at hplain
  refine ⟨hplain.isAbsolute_eq, hplain.ne_nil, hplain.components_eq, fun name hname => ?_,
    fun dir => ⟨isInside_join hplain dir, fun t k k' hdir hjoin => ?_⟩⟩
  · have hdisk := isDiskName_of_mem_cacheNames (hnames ▸ hname)
    refine ⟨hdisk.isPlain.ne_empty, ?_, hdisk.isPlain.ne_up, fun c hc => ?_⟩
    · rintro rfl
      cases hdisk.isPlain.busy
    · simpa [isKept, Text.isAsciiAlphanumeric, or_assoc] using hdisk.kept c hc
  · rw [locate_join hplain hdir hjoin]
    exact ⟨List.prefix_append _ _, by simpa using hplain.ne_nil.symm⟩

/-- An address that climbs wherever it can, in place of its host and behind it: its copy is two steps
below the directory. -/
theorem cachePath_inside_climbing :
    let url := "foo://../..\\..%2f?x"
    let t := (FileTree.empty ["c"]).set ["c", "__"] (some .directory)
    let dir := Path.ofText "/c"
    let place := ["c", "__", "71485807d3577122-.._.._2f"]
    t.locate dir = .ok ["c"] ∧ t.locate (dir.join (cachePath url)) = .ok place ∧
      ["c"] <+: place ∧ ["c"] ≠ place := by
  intro url t dir place
  have hdir : t.locate dir = .ok ["c"] := by rfl
  have hjoin : t.locate (dir.join (cachePath url)) = .ok place := by decide +kernel
  exact ⟨hdir, hjoin, ((cachePath_inside url).2.2.2.2 dir).2 t _ _ hdir hjoin⟩

end Remote

end XmlAudit
