import Mathlib
import XmlAudit.Proofs.Files.Descent
import XmlAudit.Proofs.Files.Listing
import XmlAudit.Proofs.Remote.Fetching

/-!
# What is below a directory of copies

A directory that is empty at first holds the copies that were placed in it, the directories on the way
to them, and nothing else.

* `below`, `Stocks`: what is below a directory that holds some files.
* `stocks_empty`: an empty directory holds none.
* `Stocks.read_iff`: a file can be read exactly if it is held.
* `Stocks.place_nested`, `Stocks.place_apart`: a file is placed unless its path leads through one that
  is held, or to a directory on the way to one.
* `Keeps`: a session that keeps a stock in a directory, and what a call does to it.
-/

namespace XmlAudit

namespace Files.FileTree

/-- There is nothing in a directory without names in it. -/
theorem find?_of_names {t : FileTree} {p : Files.Path} (h : t.names p = .ok []) :
    ∃ k, t.locate p = .ok k ∧ ∀ s, t.find? (k ++ [s]) = none := by
  obtain ⟨k, hk, -, -⟩ := names_eq_ok.1 h
  refine ⟨k, hk, fun s => Option.not_isSome_iff_eq_none.1 fun hs => ?_⟩
  cases (mem_names h hk).2 hs

end Files.FileTree

/-! ## Paths below a directory -/

namespace Remote

open Files (Path FileTree Place Entry)
open Files.FileTree
open Files.Path (IsPlain ArePlain isIdle)
open Store (target)

variable {t t' made : FileTree} {dir : Path} {k : Place} {names init : List String}
  {content : List UInt8}

/-- Names that lead to a file below a directory: each takes a step down, and none is too long. -/
structure Fits (dir : Path) (names : List String) : Prop where
  plain : ArePlain names
  short : ∀ s ∈ names, s.utf8ByteSize ≤ nameLimit
  near : (dir.join ⟨names⟩).text.utf8ByteSize ≤ pathLimit

/-- A directory that can be made, with the tree in which it is there. -/
structure Made (t : FileTree) (dir : Path) (made : FileTree) : Prop where
  noNul : dir.holdsNul = false
  run : t.makeFrom (t.start dir) dir.base = (.ok (), made)
  there : made.follow (t.start dir) dir.base = .ok (site t dir)
  directory : made.find? (site t dir) = some .directory
  widens : t.Widens made
  rooted : made.Rooted

theorem made_of_prepare (hrooted : t.Rooted) (h : t.prepare dir = (.ok (), made)) : Made t dir made := by
  obtain ⟨hnul, -, hmake⟩ := prepare_eq_ok.1 h
  have hprepared := prepare_widens t dir
  rw [h] at hprepared
  have hbase : t.makeFrom (t.start dir) dir.base = (.ok (), made) := by
    rw [← makeFrom_filter, Path.filter_base, makeFrom_filter, hmake]
  obtain ⟨hthere, hdir⟩ := follow_of_makeFrom hrooted (hrooted.start dir) hbase
  exact ⟨hnul, hbase, hthere, hdir, hprepared.1, hprepared.2 hrooted⟩

namespace Fits

theorem locate (hfits : Fits dir names) (hnul : dir.holdsNul = false) (t : FileTree) :
    t.locate (dir.join ⟨names⟩) = t.follow (t.start dir) (dir.base ++ names) := by
  unfold FileTree.locate
  rw [hfits.plain.holdsNul_join, hnul, hfits.plain.isEmpty_join, start_join hfits.plain, if_neg (by simp),
    if_neg (by simp), if_neg (by have := hfits.near; omega), hfits.plain.join]

/-- A file below a directory is where its names lead. -/
theorem read_iff (hfits : Fits dir names) (hnul : dir.holdsNul = false) (hrooted : t.Rooted)
    (hthere : t.follow (t.start dir) dir.base = .ok k) :
    t.read (dir.join ⟨names⟩) = .ok content ↔ t.find? (k ++ names) = some (.file content) := by
  rw [read_eq_ok, hfits.locate hnul, follow_append, hthere]
  constructor
  · rintro ⟨k', hfollow, hfile⟩
    rwa [← eq_of_follow_names hfits.plain.plain hfollow]
  · intro hfile
    refine ⟨k ++ names, follow_down hfits.plain.plain hfits.short fun m hm hne => ?_, hfile⟩
    obtain ⟨rest, rfl⟩ := hm
    rw [← List.append_assoc] at hfile
    exact hrooted.above (by simpa using hne) (by rw [hfile]; exact Option.some_ne_none _)

/-- The directories on the way to a file below a directory are made from there. -/
theorem prepareAbove_eq {s : String} (hfits : Fits dir (init ++ [s])) (hmade : Made t dir made) :
    prepareAbove t (dir.join ⟨init ++ [s]⟩) = made.makeFrom (site t dir) init := by
  have hs := (hfits.plain.plain s (by simp)).busy
  have hsplit : (dir.join ⟨init ++ [s]⟩).segments = dir.base ++ init ++ [s] := by
    rw [hfits.plain.join, List.append_assoc]
  obtain ⟨q, hq, habs, hnul, hfilter, htext⟩ := Path.exists_parent? hsplit hs
  have hstart : t.start q = t.start dir := by
    unfold FileTree.start
    rw [habs, hfits.plain.isAbsolute_join]
  have hnul' : q.holdsNul = false := by
    rw [hfits.plain.holdsNul_join, hmade.noNul] at hnul
    simpa using hnul
  have hprepare : t.prepare q = t.makeFrom (t.start q) q.segments := by
    unfold prepare
    rw [hnul', if_neg (by simp), if_neg (by have := hfits.near; omega)]
  rw [prepareAbove, hq, Option.map_some, Option.getD_some, hprepare, hstart, ← makeFrom_filter,
    hfilter, makeFrom_filter, makeFrom_append hmade.run]
  rfl

end Fits

/-! ## Stocks -/

/-- Files by the names that lead to them, and their contents. -/
abbrev Stock := List (List String × List UInt8)

/-- What is below a directory that holds a stock, and nothing else but the directories on the way. -/
def below (stock : Stock) (m : List String) : Option Entry :=
  match stock.lookup m with
  | some content => some (.file content)
  | none => if stock.any (m.isPrefixOf ·.1) then some .directory else none

/-- **A tree that holds a stock in a directory**, which is there as soon as something is in it. -/
structure Stocks (dir : Path) (stock : Stock) (t : FileTree) : Prop where
  rooted : t.Rooted
  named : ∀ a ∈ stock, a.1 ≠ []
  prepared : ∃ made, Made t dir made ∧ (stock ≠ [] → made = t) ∧
    ∀ m ≠ [], made.find? (site t dir ++ m) = below stock m

/-- Names of which one leads through the other. -/
def Nested (a b : List String) : Prop := a ≠ b ∧ (a <+: b ∨ b <+: a)

theorem Nested.symm {a b : List String} (h : Nested a b) : Nested b a := ⟨h.1.symm, h.2.symm⟩

variable {stock : Stock}

/-- Files that stand apart still do with one more that stands apart from each. -/
theorem forall_not_nested_cons (h : ∀ a ∈ stock, ∀ b ∈ stock, ¬Nested a.1 b.1)
    (hnew : ∀ a ∈ stock, ¬Nested a.1 names) :
    ∀ a ∈ (names, content) :: stock, ∀ b ∈ (names, content) :: stock, ¬Nested a.1 b.1 := by
  simp only [List.forall_mem_cons]
  exact ⟨⟨fun hself => hself.1 rfl, fun b hb hnested => hnew b hb hnested.symm⟩,
    fun a ha => ⟨hnew a ha, h a ha⟩⟩

theorem exists_mem_of_lookup (h : stock.lookup names = some content) :
    ∃ a ∈ stock, a.1 = names ∧ a.2 = content :=
  ⟨_, mem_of_lookup h, rfl, rfl⟩

theorem lookup_eq_none {m : List String} : stock.lookup m = none ↔ ∀ a ∈ stock, a.1 ≠ m := by
  simp only [List.lookup_eq_none_iff, bne_iff_ne, ne_comm]

theorem exists_lookup {a : List String × List UInt8} (ha : a ∈ stock) :
    ∃ content, stock.lookup a.1 = some content := by
  rw [← Option.ne_none_iff_exists', ne_eq, lookup_eq_none]
  exact fun h => h a ha rfl

theorem below_eq_file {m : List String} :
    below stock m = some (.file content) ↔ stock.lookup m = some content := by
  unfold below
  cases stock.lookup m with
  | some content' => simp
  | none => simp

theorem below_eq_directory {m : List String} :
    below stock m = some .directory ↔ stock.lookup m = none ∧ ∃ a ∈ stock, m <+: a.1 := by
  unfold below
  cases stock.lookup m with
  | some content' => simp
  | none => simp

/-- **An empty directory holds nothing.** -/
theorem stocks_empty (hrooted : t.Rooted) (hmade : t.makeDirectories dir = .ok made)
    (hnames : made.names dir = .ok []) : Stocks dir [] t := by
  have hdir := made_of_prepare hrooted (makeDirectories_eq_ok.1 hmade)
  refine ⟨hrooted, by simp, made, hdir, fun h => absurd rfl h, fun m hm => ?_⟩
  obtain ⟨k, hk, hnone⟩ := find?_of_names hnames
  have hsite : k = site t dir := by
    rw [← along_of_follow (locate_eq_ok.1 hk).2.2.2, hdir.widens.grows.start, along_segments]
  obtain ⟨s, rest, rfl⟩ := List.exists_cons_of_ne_nil hm
  by_contra hsome
  have hchild := hnone s
  rw [hsite] at hchild
  by_cases hrest : rest = []
  · rw [hrest, hchild] at hsome
    exact hsome rfl
  · rw [List.append_cons] at hsome
    rw [hdir.rooted.above hrest hsome] at hchild
    cases hchild

namespace Stocks

/-- **A file can be read exactly if it is held.** -/
theorem read_iff (h : Stocks dir stock t) (hfits : Fits dir names) :
    t.read (dir.join ⟨names⟩) = .ok content ↔ stock.lookup names = some content := by
  obtain ⟨made, hmade, hsame, hbelow⟩ := h.prepared
  have hread : made.read (dir.join ⟨names⟩) = .ok content ↔ stock.lookup names = some content := by
    rw [hfits.read_iff hmade.noNul hmade.rooted (by rw [hmade.widens.grows.start]; exact hmade.there),
      hbelow _ hfits.plain.ne_nil, below_eq_file]
  by_cases hstock : stock = []
  · refine ⟨fun hfile => hread.1 (hmade.widens.grows.read hfile), fun hlookup => ?_⟩
    rw [hstock] at hlookup
    cases hlookup
  · rwa [hsame hstock] at hread

theorem isFile_iff (h : Stocks dir stock t) (hfits : Fits dir names) :
    t.isFile (dir.join ⟨names⟩) ↔ (stock.lookup names).isSome := by
  rw [FileTree.isFile_iff, Option.isSome_iff_exists]
  exact exists_congr fun content => h.read_iff hfits

/-- **A file cannot be placed** whose names lead through another one, or to a directory on the way. -/
theorem place_nested (h : Stocks dir stock t) (hfits : Fits dir names)
    (hnew : stock.lookup names = none) (hnested : ∃ a ∈ stock, Nested a.1 names)
    (content : List UInt8) : ∃ f, place t (dir.join ⟨names⟩) content = (.error f, t) := by
  obtain ⟨a, ha, hne, hrelated⟩ := hnested
  obtain ⟨made, hmade, hsame, hbelow⟩ := h.prepared
  rw [hsame (List.ne_nil_of_mem ha)] at hmade hbelow
  obtain ⟨init, s, rfl⟩ : ∃ init s, names = init ++ [s] :=
    ⟨_, _, (List.dropLast_append_getLast hfits.plain.ne_nil).symm⟩
  have hplain : ∀ x ∈ init, IsPlain x := fun x hx => hfits.plain.plain x (List.mem_append_left _ hx)
  have hshort : ∀ x ∈ init, x.utf8ByteSize ≤ nameLimit :=
    fun x hx => hfits.short x (List.mem_append_left _ hx)
  have habove := hfits.prepareAbove_eq hmade
  -- either a file is on the way, or the names end at a directory on the way to one
  by_cases hthrough : ∃ b ∈ stock, b.1 <+: init
  · obtain ⟨b, hb, hinit⟩ := hthrough
    obtain ⟨content', hcontent⟩ := exists_lookup hb
    have hfile : t.find? (site t dir ++ b.1) = some (.file content') := by
      rw [hbelow _ (h.named b hb), below_eq_file, hcontent]
    obtain ⟨f, hf⟩ := makeFrom_blocked hplain hshort hmade.rooted (h.named b hb) hinit hfile
    exact ⟨f, place_unprepared (habove.trans hf) content⟩
  · have hdown : init ++ [s] <+: a.1 := by
      rcases hrelated with hinit | hinit
      · rcases List.prefix_concat_iff.1 hinit with heq | hinit
        · exact absurd heq hne
        · exact absurd ⟨a, ha, hinit⟩ hthrough
      · exact hinit
    have hdirs : ∀ m, m <+: init ++ [s] → t.find? (site t dir ++ m) = some .directory := by
      intro m hm
      by_cases hnil : m = []
      · rw [hnil, List.append_nil]
        exact hmade.directory
      rw [hbelow m hnil, below_eq_directory]
      refine ⟨lookup_eq_none.2 fun b hb heq => ?_, a, ha, hm.trans hdown⟩
      rcases List.prefix_concat_iff.1 hm with hwhole | hm
      · exact lookup_eq_none.1 hnew b hb (heq.trans hwhole)
      · exact hthrough ⟨b, hb, heq ▸ hm⟩
    have hfollow := follow_down hplain hshort fun m hm _ => hdirs m (hm.trans (List.prefix_append _ _))
    have hthere := makeFrom_of_follow hfollow (hdirs init (List.prefix_append _ _))
    have hlocate : t.locate (dir.join ⟨init ++ [s]⟩) = .ok (site t dir ++ (init ++ [s])) := by
      rw [hfits.locate hmade.noNul, follow_append, hmade.there]
      exact follow_down hfits.plain.plain hfits.short fun m hm _ => hdirs m hm
    refine ⟨.isADirectory, ?_⟩
    rw [place_prepared (habove.trans hthere), write_directory hlocate (hdirs _ List.prefix_rfl)]

theorem below_cons {m : List String} (hm : m ≠ names) (hinit : ¬m <+: names) :
    below ((names, content) :: stock) m = below stock m := by
  have hnot : m.isPrefixOf names = false :=
    Bool.eq_false_iff.2 fun h => hinit (List.isPrefixOf_iff_prefix.1 h)
  unfold below
  rw [List.lookup_cons, beq_false_of_ne hm, List.any_cons, hnot, Bool.false_or]

section

variable {s : String} {t₁ : FileTree}

/-- The directories on the way to a file that stands apart are made, and nothing else is. -/
theorem makeFrom_apart (hmade : Made t dir made)
    (hbelow : ∀ m ≠ [], made.find? (site t dir ++ m) = below stock m)
    (hfits : Fits dir (init ++ [s])) (hfree : ∀ m, m <+: init → stock.lookup m = none) :
    ∃ t₁, made.makeFrom (site t dir) init = (.ok (), t₁) ∧ made.Widens t₁ ∧ t₁.Rooted ∧
      (∀ m, m <+: init → t₁.find? (site t dir ++ m) = some .directory) ∧
      ∀ j, (∀ m ≠ [], m <+: init → j ≠ site t dir ++ m) → t₁.find? j = made.find? j := by
  have hplain : ∀ x ∈ init, IsPlain x := fun x hx => hfits.plain.plain x (List.mem_append_left _ hx)
  have hshort : ∀ x ∈ init, x.utf8ByteSize ≤ nameLimit :=
    fun x hx => hfits.short x (List.mem_append_left _ hx)
  have hfiles : ∀ m ≠ [], m <+: init → ∀ content,
      made.find? (site t dir ++ m) ≠ some (.file content) := by
    intro m hm hinit content hfile
    rw [hbelow m hm, below_eq_file, hfree m hinit] at hfile
    cases hfile
  obtain ⟨t₁, hmake, hdirs, hothers⟩ := makeFrom_down hplain hshort hfiles
  have hwidens := widens_makeFrom made (site t dir) init
  have hrooted := rooted_makeFrom hmade.rooted hmade.directory init
  rw [hmake] at hwidens hrooted
  refine ⟨t₁, hmake, hwidens, hrooted, fun m hm => ?_, hothers⟩
  by_cases hnil : m = []
  · rw [hnil, List.append_nil]
    exact hwidens.grows.keeps _ _ hmade.directory
  · exact hdirs m hnil hm

/-- What is below a directory once a file is written on the way to which there are directories. -/
theorem find?_set_apart (hbelow : ∀ m ≠ [], made.find? (site t dir ++ m) = below stock m)
    (hfree : ∀ m, m <+: init → stock.lookup m = none)
    (hdirs : ∀ m, m <+: init → t₁.find? (site t dir ++ m) = some .directory)
    (hothers : ∀ j, (∀ m ≠ [], m <+: init → j ≠ site t dir ++ m) → t₁.find? j = made.find? j)
    (content : List UInt8) {m : List String} (hm : m ≠ []) :
    (t₁.set (site t dir ++ (init ++ [s])) (some (.file content))).find? (site t dir ++ m) =
      below ((init ++ [s], content) :: stock) m := by
  have hne : site t dir ++ (init ++ [s]) ≠ [] := by simp
  rw [find?_set _ _ _ _ hne]
  by_cases hwhole : m = init ++ [s]
  · rw [hwhole, if_pos rfl, eq_comm, below_eq_file, List.lookup_cons_self]
  rw [if_neg fun heq => hwhole (List.append_cancel_left heq)]
  by_cases hinit : m <+: init
  · -- a directory on the way
    rw [hdirs m hinit, eq_comm, below_eq_directory, List.lookup_cons, beq_false_of_ne hwhole]
    exact ⟨hfree m hinit, _, List.mem_cons_self, hinit.trans (List.prefix_append _ _)⟩
  · -- a place that nothing was done to
    have hnot : ¬m <+: init ++ [s] := fun h => (List.prefix_concat_iff.1 h).elim hwhole hinit
    rw [below_cons hwhole hnot, hothers, hbelow m hm]
    intro m' _ hm' heq
    rw [List.append_cancel_left heq] at hinit
    exact hinit hm'

/-- The tree in which a file is written below a directory, apart from all that is held. -/
theorem write_apart (h : Stocks dir stock t) (hmade : Made t dir made)
    (hbelow : ∀ m ≠ [], made.find? (site t dir ++ m) = below stock m)
    (hfits : Fits dir (init ++ [s])) (hout : ∀ a ∈ stock, ¬a.1 <+: init ++ [s])
    (hin : ∀ a ∈ stock, ¬init ++ [s] <+: a.1) (content : List UInt8) :
    ∃ t₁ t₂, made.makeFrom (site t dir) init = (.ok (), t₁) ∧
      t₁.write (dir.join ⟨init ++ [s]⟩) content = .ok t₂ ∧
      Stocks dir ((init ++ [s], content) :: stock) t₂ := by
  have hfree : ∀ m, m <+: init ++ [s] → stock.lookup m = none := fun m hm =>
    lookup_eq_none.2 fun a ha heq => hout a ha (heq ▸ hm)
  have hfree' : ∀ m, m <+: init → stock.lookup m = none := fun m hm =>
    hfree m (hm.trans (List.prefix_append _ _))
  obtain ⟨t₁, hmake, hwidens, hrooted, hdirs, hothers⟩ := makeFrom_apart hmade hbelow hfits hfree'
  have hstart : t₁.start dir = t.start dir := by
    rw [hwidens.grows.start, hmade.widens.grows.start]
  -- the file is written where there was nothing
  have hnew : t₁.find? (site t dir ++ (init ++ [s])) = none := by
    rw [hothers, hbelow _ hfits.plain.ne_nil]
    · unfold below
      rw [hfree _ List.prefix_rfl, if_neg]
      simpa using hin
    · intro m _ hm heq
      have hlen := hm.length_le
      rw [← List.append_cancel_left heq] at hlen
      simp at hlen
  have hlocate : t₁.locate (dir.join ⟨init ++ [s]⟩) = .ok (site t dir ++ (init ++ [s])) := by
    rw [hfits.locate hmade.noNul, follow_append, hstart, hwidens.grows.follow hmade.there]
    refine follow_down hfits.plain.plain hfits.short fun m hm hne => ?_
    exact hdirs m ((List.prefix_concat_iff.1 hm).resolve_left hne)
  let t₂ := t₁.set (site t dir ++ (init ++ [s])) (some (.file content))
  have hwrite : t₁.write (dir.join ⟨init ++ [s]⟩) content = .ok t₂ :=
    write_eq_ok.2 ⟨_, hlocate, by simp [hnew], rfl⟩
  -- and the directory is where it was
  have hgrows : t₁.Grows t₂ := grows_set hnew
  have hthere : t₂.follow (t₂.start dir) dir.base = .ok (site t dir) := by
    rw [hgrows.start, hstart]
    exact hgrows.follow (hwidens.grows.follow hmade.there)
  have hsite : site t₂ dir = site t dir := along_of_follow hthere
  have hdirectory : t₂.find? (site t dir) = some .directory := by
    have hroot := hdirs [] List.nil_prefix
    rw [List.append_nil] at hroot
    exact hgrows.keeps _ _ hroot
  have hrooted₂ : t₂.Rooted := by
    simp only [t₂, ← List.append_assoc] at hnew ⊢
    exact hrooted.set (hdirs init List.prefix_rfl) hnew
  have hmade₂ : Made t₂ dir t₂ := ⟨hmade.noNul, makeFrom_of_follow hthere hdirectory, hsite ▸ hthere,
    hsite ▸ hdirectory, .refl _, hrooted₂⟩
  refine ⟨t₁, t₂, hmake, hwrite, hrooted₂, List.forall_mem_cons.2 ⟨hfits.plain.ne_nil, h.named⟩, t₂,
    hmade₂, fun _ => rfl, fun m hm => ?_⟩
  rw [hsite]
  exact find?_set_apart hbelow hfree' hdirs hothers content hm

end

/-- **A file can be placed** otherwise, and is held then. -/
theorem place_apart (h : Stocks dir stock t) (hfits : Fits dir names)
    (hnew : stock.lookup names = none) (hapart : ∀ a ∈ stock, ¬Nested a.1 names)
    (content : List UInt8) : ∃ t', place t (dir.join ⟨names⟩) content = (.ok (), t') ∧
      Stocks dir ((names, content) :: stock) t' := by
  obtain ⟨made, hmade, -, hbelow⟩ := h.prepared
  obtain ⟨init, s, rfl⟩ : ∃ init s, names = init ++ [s] :=
    ⟨_, _, (List.dropLast_append_getLast hfits.plain.ne_nil).symm⟩
  have hne := lookup_eq_none.1 hnew
  obtain ⟨t₁, t₂, hmake, hwrite, hstocks⟩ := h.write_apart hmade hbelow hfits
    (fun a ha hinit => hapart a ha ⟨hne a ha, .inl hinit⟩)
    (fun a ha hinit => hapart a ha ⟨hne a ha, .inr hinit⟩) content
  refine ⟨t₂, ?_, hstocks⟩
  rw [place_prepared ((hfits.prepareAbove_eq hmade).trans hmake), hwrite]

end Stocks

/-! ## Calls into a directory -/

/-- An address of which a directory can hold the copy: no name on the way is too long for a file, and
the path is not. -/
structure FitsIn (dir : Path) (url : String) : Prop where
  short : ∀ s ∈ cacheNames url, s.utf8ByteSize ≤ nameLimit
  near : (target url dir).text.utf8ByteSize ≤ pathLimit

theorem FitsIn.fits {url : String} (h : FitsIn dir url) : Fits dir (cacheNames url) :=
  ⟨arePlain_cacheNames url, h.short, h.near⟩

/-- **A session that keeps a stock in a directory**: it holds it there, and knows of all of it. -/
structure Keeps (dir : Path) (stock : Stock) (s : Session) : Prop where
  stocks : Stocks dir stock s.files
  held : ∀ url, (target url dir).components ∈ s.held ↔ (stock.lookup (cacheNames url)).isSome

theorem keeps_start {files : FileTree} (h : Stocks dir [] files) : Keeps dir [] (.start files) :=
  ⟨h, fun url => by simp [Session.start]⟩

namespace Keeps

variable {c : Store} {s : Session} {url : String}

/-- What is held is not asked for. -/
theorem fetchInto_known (h : Keeps dir stock s) (hknown : (stock.lookup (cacheNames url)).isSome) :
    c.fetchInto url dir s = (.ok (target url dir), s) :=
  (Store.Fetching.held ((h.held url).2 hknown)).run

theorem not_known (h : Keeps dir stock s) (hnew : stock.lookup (cacheNames url) = none) :
    (target url dir).components ∉ s.held := by
  rw [h.held, hnew]
  exact Bool.false_ne_true

theorem not_isFile (h : Keeps dir stock s) (hfits : FitsIn dir url)
    (hnew : stock.lookup (cacheNames url) = none) : ¬s.files.isFile (target url dir) := by
  have hiff := h.stocks.isFile_iff hfits.fits
  rw [hnew] at hiff
  exact fun hfile => Bool.false_ne_true (hiff.1 hfile)

theorem fetchInto_refused {e : AuditError} (h : Keeps dir stock s) (hfits : FitsIn dir url)
    (hnew : stock.lookup (cacheNames url) = none) (hanswer : c.network.answer s.asked url = .error e) :
    c.fetchInto url dir s =
      (.error (.ofCache (.write url e.message)), { s with asked := url :: s.asked }) :=
  (Store.Fetching.refused (h.not_known hnew) (h.not_isFile hfits hnew) hanswer).run

/-- A copy is not kept if its names lead through one that is, or the other way round. -/
theorem fetchInto_nested (h : Keeps dir stock s) (hfits : FitsIn dir url)
    (hnew : stock.lookup (cacheNames url) = none) (hnested : ∃ a ∈ stock, Nested a.1 (cacheNames url))
    (hanswer : c.network.answer s.asked url = .ok content) :
    ∃ e, c.fetchInto url dir s = (.error e, { s with asked := url :: s.asked }) := by
  obtain ⟨f, hplace⟩ := h.stocks.place_nested hfits.fits hnew hnested content
  exact ⟨_, (Store.Fetching.unplaced (h.not_known hnew) (h.not_isFile hfits hnew) hanswer hplace).run⟩

/-- A copy that stands apart is kept. -/
theorem fetchInto_apart (h : Keeps dir stock s) (hfits : FitsIn dir url)
    (hnew : stock.lookup (cacheNames url) = none) (hapart : ∀ a ∈ stock, ¬Nested a.1 (cacheNames url))
    (hanswer : c.network.answer s.asked url = .ok content) :
    ∃ s', c.fetchInto url dir s = (.ok (target url dir), s') ∧ s'.asked = url :: s.asked ∧
      Keeps dir ((cacheNames url, content) :: stock) s' := by
  obtain ⟨t', hplace, hstocks⟩ := h.stocks.place_apart hfits.fits hnew hapart content
  refine ⟨_, (Store.Fetching.fetched (h.not_known hnew) (h.not_isFile hfits hnew) hanswer hplace).run,
    rfl, hstocks, fun url' => ?_⟩
  have hsame := (arePlain_cacheNames url').components_join_inj (arePlain_cacheNames url).toAreNames dir
  rw [List.mem_cons, h.held, List.lookup_cons]
  by_cases heq : cacheNames url' = cacheNames url
  · rw [heq, beq_self_eq_true]
    exact iff_of_true (.inl (hsame.2 heq)) rfl
  · rw [beq_false_of_ne heq]
    exact or_iff_right fun h => heq (hsame.1 h)

end Keeps

end Remote

end XmlAudit
