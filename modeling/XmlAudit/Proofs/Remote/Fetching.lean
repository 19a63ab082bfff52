import Mathlib
import XmlAudit.Proofs.Files.Growth
import XmlAudit.Proofs.Files.Paths
import XmlAudit.Proofs.Remote.CachePath
import XmlAudit.Remote.Store

/-!
# One call for a copy

* `Placing`, `placing`: what placing a file does to a tree.
* `Store.Fetching`, `Store.fetching`: what a call for a copy does.
* `Fetching.asked`: a call asks exactly for what is neither known nor there.
* `Fetching.grows`: it changes nothing that is there, as long as its directory takes no step up.
* `Fetching.failed`: if it fails, it leaves nothing behind but directories.
* `Fetching.too_long`: it fails wherever a name is too long for a file.
-/

namespace XmlAudit.Remote

open Files (Path FileTree Place Entry Component)
open Files.FileTree

/-! ## Placing files -/

/-- **What placing a file does to a tree**: directories are made, and the file is written unless
something is in the way. -/
inductive Placing (t : FileTree) (p : Path) (content : List UInt8) :
    Except Files.Fault Unit × FileTree → Prop
  | stopped {f : Files.Fault} {made : FileTree} (widens : t.Widens made)
      (rooted : t.Rooted → made.Rooted) : Placing t p content (.error f, made)
  | placed {made : FileTree} {k : Place} (widens : t.Widens made)
      (rooted : t.Rooted → made.Rooted) (located : made.locate p = .ok k)
      (free : made.find? k ≠ some .directory) :
      Placing t p content (.ok (), made.set k (some (.file content)))

/-- The directories on the way to a path made as far as that can be done. -/
def prepareAbove (t : FileTree) (p : Path) : Except Files.Fault Unit × FileTree :=
  (p.parent?.map t.prepare).getD (.ok (), t)

section

variable {t made : FileTree} {p : Path} {f : Files.Fault}

theorem place_unprepared (h : prepareAbove t p = (.error f, made)) (content : List UInt8) :
    place t p content = (.error f, made) := by
  unfold prepareAbove at h
  rw [place, h]

theorem place_prepared (h : prepareAbove t p = (.ok (), made)) (content : List UInt8) :
    place t p content =
      match made.write p content with
      | .error f => (.error f, made)
      | .ok t' => (.ok (), t') := by
  unfold prepareAbove at h
  unfold place
  generalize (p.parent?.map t.prepare).getD (.ok (), t) = prepared at h ⊢
  subst h
  rfl

end

theorem placing (t : FileTree) (p : Path) (content : List UInt8) :
    Placing t p content (place t p content) := by
  have hprepared : t.Widens (prepareAbove t p).2 ∧ (t.Rooted → (prepareAbove t p).2.Rooted) := by
    unfold prepareAbove
    cases p.parent? with
    | none => exact ⟨.refl t, id⟩
    | some q => exact prepare_widens t q
  obtain ⟨hwidens, hrooted⟩ := hprepared
  cases h : prepareAbove t p with
  | mk outcome made =>
    rw [h] at hwidens hrooted
    cases outcome with
    | error f =>
      rw [place_unprepared h]
      exact .stopped hwidens hrooted
    | ok _ =>
      rw [place_prepared h]
      cases hwrite : made.write p content with
      | error f => exact .stopped hwidens hrooted
      | ok t' =>
        obtain ⟨k, hk, hfree, rfl⟩ := write_eq_ok.1 hwrite
        exact .placed hwidens hrooted hk hfree

/-- **A file placed where none was found** changes nothing that was there, where no step is taken
up. -/
theorem Placing.grows {t : FileTree} {p : Path} {content : List UInt8}
    {out : Except Files.Fault Unit × FileTree} (h : Placing t p content out) (hrooted : t.Rooted)
    (hup : ".." ∉ p.segments) (hmissing : ¬t.isFile p) : t.Grows out.2 ∧ out.2.Rooted := by
  cases h with
  | stopped hwidens hrooted' => exact ⟨hwidens.grows, hrooted' hrooted⟩
  | @placed made k hwidens hrooted' hlocated hfree =>
    have hnew : made.find? k = none := by
      by_contra hsome
      obtain ⟨e, he⟩ := Option.ne_none_iff_exists'.1 hsome
      cases e with
      | directory => exact hfree he
      | file content' =>
        -- the file would have been found before, too
        exact hmissing ((hwidens.isFile_iff hrooted hup).1
          (isFile_iff.2 ⟨content', read_eq_ok.2 ⟨k, hlocated, he⟩⟩))
    have hmade := hrooted' hrooted
    refine ⟨hwidens.grows.trans (grows_set hnew), ?_⟩
    obtain ⟨k₀, s, rfl⟩ : ∃ k₀ s, k = k₀ ++ [s] := by
      have hne : k ≠ [] := by
        rintro rfl
        cases hnew
      exact ⟨_, _, (List.dropLast_append_getLast hne).symm⟩
    exact hmade.set (hmade.directory_of_follow (hmade.start p) (locate_eq_ok.1 hlocated).2.2.2) hnew

/-! ## Calls -/

namespace Store

variable {c : Store} {url : String} {dir : Path} {s : Session}

/-- **What a call for a copy does**: nothing where the copy is known, no more than to learn of it where
it is on disk, and else it asks for it and places it. -/
inductive Fetching (c : Store) (url : String) (dir : Path) (s : Session) :
    Except AuditError Path → Session → Prop
  | held (known : (target url dir).components ∈ s.held) : Fetching c url dir s (.ok (target url dir)) s
  | found (unknown : (target url dir).components ∉ s.held) (there : s.files.isFile (target url dir)) :
      Fetching c url dir s (.ok (target url dir))
        { s with held := (target url dir).components :: s.held }
  | refused {e : AuditError} (unknown : (target url dir).components ∉ s.held)
      (missing : ¬s.files.isFile (target url dir)) (answer : c.network.answer s.asked url = .error e) :
      Fetching c url dir s (.error (.ofCache (.write url e.message)))
        { s with asked := url :: s.asked }
  | unplaced {content : List UInt8} {f : Files.Fault} {made : FileTree}
      (unknown : (target url dir).components ∉ s.held)
      (missing : ¬s.files.isFile (target url dir)) (answer : c.network.answer s.asked url = .ok content)
      (stopped : place s.files (target url dir) content = (.error f, made)) :
      Fetching c url dir s (.error (.ofCache (.write url (AuditError.ofFile f).message)))
        { s with files := made, asked := url :: s.asked }
  | fetched {content : List UInt8} {t : FileTree} (unknown : (target url dir).components ∉ s.held)
      (missing : ¬s.files.isFile (target url dir)) (answer : c.network.answer s.asked url = .ok content)
      (placed : place s.files (target url dir) content = (.ok (), t)) :
      Fetching c url dir s (.ok (target url dir))
        ⟨t, url :: s.asked, (target url dir).components :: s.held⟩

theorem ask_run (c : Store) (url : String) (s : Session) :
    c.ask url s = (c.network.answer s.asked url, { s with asked := url :: s.asked }) :=
  ofExcept_run _ _

theorem save_run {p : Path} {content : List UInt8} {outcome : Except Files.Fault Unit}
    {t : FileTree} (s : Session) (h : place s.files p content = (outcome, t)) :
    save p content s = (outcome.mapError .ofFile, { s with files := t }) := by
  refine (ofExcept_run _ _).trans ?_
  rw [h]

/-- A copy that is neither known nor there is attempted to be had. -/
theorem fetchInto_missing {attempt : Except AuditError Unit} {s' : Session}
    (unknown : (target url dir).components ∉ s.held) (missing : ¬s.files.isFile (target url dir))
    (h : (tryCatch (do save (target url dir) (← c.ask url))
      fun e => throw (.ofCache (.write url e.message)) : Step Unit) s = (attempt, s')) :
    c.fetchInto url dir s = match attempt with
      | .error e => (.error e, s')
      | .ok () => (.ok (target url dir),
        { s' with held := (target url dir).components :: s'.held }) := by
  unfold fetchInto
  refine (bind_run_ok (m := get) (a := s) rfl).trans ?_
  rw [if_pos (by simpa using unknown), if_pos (by simpa using missing)]
  cases attempt with
  | error e => exact bind_run_error h
  | ok u => exact (bind_run_ok h).trans rfl

theorem Fetching.run {outcome : Except AuditError Path} {after : Session}
    (h : Fetching c url dir s outcome after) : c.fetchInto url dir s = (outcome, after) := by
  have hask := c.ask_run url s
  cases h with
  | held known =>
    unfold fetchInto
    refine (bind_run_ok (m := get) (a := s) rfl).trans ?_
    rw [if_neg (by simpa using known)]
    rfl
  | found unknown there =>
    unfold fetchInto
    refine (bind_run_ok (m := get) (a := s) rfl).trans ?_
    rw [if_pos (by simpa using unknown), if_neg (by simpa using there)]
    rfl
  | refused unknown missing answer =>
    rw [answer] at hask
    exact fetchInto_missing unknown missing (tryCatch_run_error (bind_run_error hask))
  | unplaced unknown missing answer stopped =>
    rw [answer] at hask
    have hsave := save_run { s with asked := url :: s.asked } stopped
    exact fetchInto_missing unknown missing (tryCatch_run_error ((bind_run_ok hask).trans hsave))
  | fetched unknown missing answer placed =>
    rw [answer] at hask
    have hsave := save_run { s with asked := url :: s.asked } placed
    exact fetchInto_missing unknown missing (tryCatch_run_ok ((bind_run_ok hask).trans hsave))

theorem fetching (c : Store) (url : String) (dir : Path) (s : Session) :
    Fetching c url dir s (c.fetchInto url dir s).1 (c.fetchInto url dir s).2 := by
  have hone : ∃ outcome after, Fetching c url dir s outcome after := by
    by_cases hknown : (target url dir).components ∈ s.held
    · exact ⟨_, _, .held hknown⟩
    by_cases hthere : s.files.isFile (target url dir)
    · exact ⟨_, _, .found hknown hthere⟩
    cases hanswer : c.network.answer s.asked url with
    | error e => exact ⟨_, _, .refused hknown hthere hanswer⟩
    | ok content =>
      cases hplace : place s.files (target url dir) content with
      | mk outcome t =>
        cases outcome with
        | error f => exact ⟨_, _, .unplaced hknown hthere hanswer hplace⟩
        | ok u => exact ⟨_, _, .fetched hknown hthere hanswer hplace⟩
  obtain ⟨outcome, after, h⟩ := hone
  rw [h.run]
  exact h

/-- A copy that is had stands at the place of its address. -/
theorem Fetching.eq_target {outcome : Except AuditError Path} {after : Session} {p : Path}
    (h : Fetching c url dir s outcome after) (hp : outcome = .ok p) : p = target url dir := by
  cases h with
  | held | found | fetched => exact (Except.ok.inj hp).symm
  | refused | unplaced => cases hp

theorem fetchInto_eq_ok {p : Path} {s' : Session} (h : c.fetchInto url dir s = (.ok p, s')) :
    p = target url dir :=
  (c.fetching url dir s).eq_target (congrArg Prod.fst h)

/-- A schema that is had is the file that stands for its address, or else the copy. -/
theorem fetchSchema_eq_ok {profile type kind : String} {mappings : List (String × Path)}
    {schema : CachedSchema} {s' : Session}
    (h : c.fetchSchema profile type kind url mappings s = (.ok schema, s')) :
    schema.path = (mappings.lookup url).getD (target url (c.directory profile type kind)) := by
  unfold fetchSchema at h
  cases hmapped : mappings.lookup url with
  | some file =>
    rw [hmapped] at h
    cases h
    rfl
  | none =>
    rw [hmapped] at h
    obtain ⟨p, s₁, hp, h⟩ := bind_run_eq_ok.1 h
    obtain ⟨u, s₂, -, h⟩ := bind_run_eq_ok.1 h
    cases h
    rw [Option.getD_none]
    exact fetchInto_eq_ok hp

theorem target_eq (url : String) (dir : Path) : target url dir = ⟨dir.base ++ cacheNames url⟩ :=
  (arePlain_cacheNames url).join dir

/-- The way to a copy takes no step up below a directory to which none is taken. -/
theorem up_not_mem_target (url : String) (h : ".." ∉ dir.segments) :
    ".." ∉ (target url dir).segments := by
  rw [target_eq, List.mem_append, not_or]
  exact ⟨fun hbase => h (Path.mem_of_mem_base hbase),
    fun hnames => ((arePlain_cacheNames url).plain _ hnames).ne_up rfl⟩

section

variable {outcome : Except AuditError Path} {after : Session}

/-- A copy is known behind a call if it was before, or the call succeeded. -/
theorem Fetching.mem_held (h : Fetching c url dir s outcome after) {steps : List Component} :
    steps ∈ after.held ↔
      (∃ p, outcome = .ok p) ∧ (target url dir).components = steps ∨ steps ∈ s.held := by
  cases h with
  | held known =>
    simp only [Except.ok.injEq, exists_eq', true_and]
    exact ⟨.inr, fun h => h.elim (fun h => h ▸ known) id⟩
  | found => simp [eq_comm]
  | refused => simp
  | unplaced => simp
  | fetched => simp [eq_comm]

/-- **A call asks exactly for what is neither known nor there.** -/
theorem Fetching.asked (h : Fetching c url dir s outcome after) :
    after.asked = url :: s.asked ∧
        ¬s.files.isFile (target url dir) ∧ (target url dir).components ∉ s.held ∨
      after.asked = s.asked ∧
        (s.files.isFile (target url dir) ∨ (target url dir).components ∈ s.held) := by
  cases h with
  | held known => exact .inr ⟨rfl, .inr known⟩
  | found unknown there => exact .inr ⟨rfl, .inl there⟩
  | refused unknown missing => exact .inl ⟨rfl, missing, unknown⟩
  | unplaced unknown missing => exact .inl ⟨rfl, missing, unknown⟩
  | fetched unknown missing => exact .inl ⟨rfl, missing, unknown⟩

/-- **A call changes nothing that is there.** -/
theorem Fetching.grows (h : Fetching c url dir s outcome after) (hrooted : s.files.Rooted)
    (hup : ".." ∉ dir.segments) : s.files.Grows after.files ∧ after.files.Rooted := by
  cases h with
  | held => exact ⟨.refl _, hrooted⟩
  | found => exact ⟨.refl _, hrooted⟩
  | refused => exact ⟨.refl _, hrooted⟩
  | @unplaced content _ _ _ missing _ stopped =>
    have hplacing := placing s.files (target url dir) content
    rw [stopped] at hplacing
    exact hplacing.grows hrooted (up_not_mem_target url hup) missing
  | @fetched content _ _ missing _ placed =>
    have hplacing := placing s.files (target url dir) content
    rw [placed] at hplacing
    exact hplacing.grows hrooted (up_not_mem_target url hup) missing

/-- **A call that fails leaves nothing behind** but directories. -/
theorem Fetching.failed {e : AuditError} (h : Fetching c url dir s (.error e) after) :
    s.files.Widens after.files ∧ after.held = s.held ∧
      ¬s.files.isFile (target url dir) ∧ (target url dir).components ∉ s.held := by
  cases h with
  | refused unknown missing => exact ⟨.refl _, rfl, missing, unknown⟩
  | @unplaced content _ _ unknown missing _ stopped =>
    refine ⟨?_, rfl, missing, unknown⟩
    have hplacing := placing s.files (target url dir) content
    rw [stopped] at hplacing
    cases hplacing with
    | stopped hwidens => exact hwidens

/-- **A copy with a name that is too long is never had**, whatever is served. -/
theorem Fetching.too_long (h : Fetching c url dir s outcome after)
    (unknown : (target url dir).components ∉ s.held)
    (hlong : ∃ name ∈ cacheNames url, nameLimit < name.utf8ByteSize) :
    ∃ e, outcome = .error e := by
  have hnowhere : ∀ (t : FileTree) k, t.locate (target url dir) ≠ .ok k := by
    intro t k hlocate
    obtain ⟨name, hname, hlong⟩ := hlong
    have hplain := (arePlain_cacheNames url).plain name hname
    have hshort := short_of_follow (locate_eq_ok.1 hlocate).2.2.2 name
      (by rw [target_eq]; exact List.mem_append_right _ hname) (by simp [hplain.busy]) hplain.ne_up
    omega
  cases h with
  | held known => exact absurd known unknown
  | found _ there =>
    obtain ⟨content, hread⟩ := isFile_iff.1 there
    obtain ⟨k, hk, -⟩ := read_eq_ok.1 hread
    exact absurd hk (hnowhere _ k)
  | refused => exact ⟨_, rfl⟩
  | unplaced => exact ⟨_, rfl⟩
  | @fetched content _ _ _ _ placed =>
    have hplacing := placing s.files (target url dir) content
    rw [placed] at hplacing
    cases hplacing with
    | placed _ _ located => exact absurd located (hnowhere _ _)

end

end Store

end XmlAudit.Remote
