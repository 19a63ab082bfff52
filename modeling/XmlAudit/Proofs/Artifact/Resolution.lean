import XmlAudit.Artifact.Resolution
import XmlAudit.Proofs.Outcome
import XmlAudit.Proofs.Remote.Fetching

/-!
# When artifacts refuse a request

Looking for artifacts can fail in many ways, and few of them are faults of the request.

* `Spares`: a step whose faults leave the request standing.
* `Resolver.spares_own`, `Resolver.spares_preprocessed`: so do the profile's own artifacts and
  stylesheets.
* `Resolver.Exposes`: an archive of schemas that comes to light as ambiguous.
* `Resolver.resolve_unsupported`, `Resolver.resolve_exposed`, `Resolver.resolve_refused`: looking for
  artifacts refuses a request for what it may not bring or does not, and for such an archive, and for
  nothing else.
-/

namespace XmlAudit

open Files (Path FileTree)

/-! ## Steps that refuse no request -/

section

variable {σ α β : Type}

/-- **A step whose faults leave the request standing**, from any state. -/
def Spares (m : ExceptT AuditError (StateM σ) α) : Prop :=
  ∀ s f s', m s = (.error f, s') → f.refusesRequest = false

theorem spares_pure (a : α) : Spares (pure a : ExceptT AuditError (StateM σ) α) := by
  rintro s f s' ⟨⟩

theorem spares_lift (m : StateM σ α) : Spares (ExceptT.lift m) := by
  rintro s f s' ⟨⟩

theorem spares_ofExcept {x : Except AuditError α}
    (h : ∀ f, x = .error f → f.refusesRequest = false) :
    Spares (MonadExcept.ofExcept x : ExceptT AuditError (StateM σ) α) := by
  intro s f s' hrun
  rw [ofExcept_run] at hrun
  exact h f (congrArg Prod.fst hrun)

theorem spares_bind {m : ExceptT AuditError (StateM σ) α}
    {next : α → ExceptT AuditError (StateM σ) β} (hm : Spares m) (hnext : ∀ a, Spares (next a)) :
    Spares (m >>= next) := by
  intro s f s'' hrun
  cases h : m s with
  | mk outcome s' =>
    cases outcome with
    | ok a =>
      rw [bind_run_ok h] at hrun
      exact hnext a s' f s'' hrun
    | error f' =>
      rw [bind_run_error h] at hrun
      cases hrun
      exact hm s f s'' h

theorem spares_mapM {m : α → ExceptT AuditError (StateM σ) β} {as : List α}
    (h : ∀ a, Spares (m a)) : Spares (as.mapM m) := by
  induction as with
  | nil => exact spares_pure []
  | cons a as ih =>
    rw [List.mapM_cons]
    exact spares_bind (h a) fun b => spares_bind ih fun bs => spares_pure _

/-- What fails for a fault of its own kind spares the request if such faults do. -/
theorem refuses_mapError {ε : Type} {x : Except ε α} {wrap : ε → AuditError}
    (h : ∀ e, (wrap e).refusesRequest = false) :
    ∀ f, x.mapError wrap = .error f → f.refusesRequest = false := by
  cases x with
  | ok a => rintro f ⟨⟩
  | error e =>
    rintro f ⟨⟩
    exact h e

end

/-! ## Remote files -/

namespace Remote.Store

variable (c : Store)

theorem spares_fetchInto (url : String) (dir : Path) : Spares (c.fetchInto url dir) := by
  intro s f s' hrun
  have hfetching := c.fetching url dir s
  rw [hrun] at hfetching
  cases hfetching <;> rfl

theorem spares_content (p : Path) : Spares (content p) := by
  intro s f s' hrun
  unfold content at hrun
  rw [bind_run_ok (m := get) (a := s) rfl] at hrun
  cases h : s.files.read p <;> rw [h] at hrun <;> cases hrun
  rfl

theorem spares_follow (dir : Path) (mappings : List (String × Path)) (rounds : Nat) :
    ∀ found latest, Spares (c.follow dir mappings rounds found latest) := by
  induction rounds with
  | zero =>
    intro found latest
    cases latest with
    | nil => exact spares_pure ()
    | cons l latest => rintro s f s' ⟨⟩; rfl
  | succ n ih =>
    intro found latest
    cases latest with
    | nil => exact spares_pure ()
    | cons l latest =>
      refine spares_bind (spares_mapM fun l => ?_) fun links =>
        spares_bind (spares_mapM fun url => ?_) fun next => ih _ _
      · exact spares_bind (spares_content l.2) fun bytes => spares_pure _
      · exact spares_bind (c.spares_fetchInto url dir) fun p => spares_pure _

theorem spares_fetchSchema (profile type kind url : String) (mappings : List (String × Path)) :
    Spares (c.fetchSchema profile type kind url mappings) := by
  unfold fetchSchema
  cases mappings.lookup url with
  | some file => exact spares_pure _
  | none =>
    exact spares_bind (c.spares_fetchInto _ _) fun p =>
      spares_bind (c.spares_follow _ _ _ _ _) fun _ => spares_pure _

end Remote.Store

/-! ## Tasks -/

namespace Task

variable {Sheet α : Type}

theorem spares_ofStep {m : Remote.Step α} (h : Spares m) : Spares (ofStep m : Task Sheet α) := by
  intro w f w' hrun
  have houtcome : (m w.session).1 = .error f := congrArg Prod.fst hrun
  exact h w.session f _ (Prod.ext houtcome rfl)

theorem spares_ofFiles {look : FileTree → Except AuditError α}
    (h : ∀ t f, look t = .error f → f.refusesRequest = false) :
    Spares (ofFiles look : Task Sheet α) := by
  intro w f w' hrun
  exact h w.files f (congrArg Prod.fst hrun)

/-- What looks at the files only leaves them as they are. -/
theorem ofFiles_run {β : Type} (look : FileTree → Except AuditError α) (f : α → β) (w : Workspace Sheet) :
    (do return f (← ofFiles look) : Task Sheet β) w = ((look w.files).map f, w) := by
  have hlook : (ofFiles look : Task Sheet α) w = (look w.files, w) := rfl
  cases h : look w.files with
  | ok a =>
    rw [h] at hlook
    exact bind_run_ok hlook
  | error e =>
    rw [h] at hlook
    exact bind_run_error hlook

theorem spares_changeFiles (change : FileTree → Except Files.Fault FileTree) :
    Spares (changeFiles change : Task Sheet Unit) := by
  intro w f w' hrun
  unfold changeFiles at hrun
  cases h : change w.files <;> rw [h] at hrun <;> cases hrun
  rfl

end Task

namespace Artifact

/-! ## What a request brings along -/

/-- **A directory with another number of files in it than one.** -/
def Ambiguous (t : FileTree) (d : Path) (n : Nat) : Prop :=
  ∃ files, filesIn t d = .ok files ∧ files.length = n ∧ n ≠ 1

namespace Supplied

variable {t : FileTree} {s : Supplied} {d : Path} {n : Nat} {accepted : List String}

theorem files_ambiguous (h : Ambiguous t d n) :
    (unpacked d).files t .schema accepted = .error (.ambiguousArchive d n) := by
  obtain ⟨files, hfiles, rfl, hmany⟩ := h
  exact bind_eq_error.2 (.inr ⟨files, mapError_eq_ok.2 hfiles, if_neg hmany⟩)

/-- **What is brought along refuses a request** only as an archive of schemas that is ambiguous. -/
theorem files_refused {k : Kind} {f : AuditError} (h : s.files t k accepted = .error f)
    (hf : f.refusesRequest) :
    k = .schema ∧ ∃ d n, s = unpacked d ∧ f = .ambiguousArchive d n ∧ Ambiguous t d n := by
  cases s with
  | file p => cases h
  | unpacked d =>
    rcases bind_eq_error.1 h with hread | ⟨files, hread, h⟩
    · rw [refuses_mapError (fun fault => rfl) f hread] at hf
      cases hf
    · cases k with
      | ruleSet => cases h
      | schema =>
        dsimp only at h
        split at h <;> cases h
        exact ⟨rfl, d, _, rfl, rfl, files, mapError_eq_ok.1 hread, rfl, ‹_›⟩

end Supplied

/-- What is brought along against the profile refuses the request, and has no other fault. -/
theorem refuses_of_checkSupport {source : Option ArtifactSource} {k : Kind}
    {external : List Supplied} {f : AuditError} (h : checkSupport source k external = .error f) :
    f.refusesRequest := by
  unfold checkSupport at h
  split at h <;> cases h <;> rfl

theorem eq_nil_of_checkSupport {k : Kind} {external : List Supplied}
    (h : checkSupport none k external = .ok ()) : external = [] := by
  cases external with
  | nil => rfl
  | cons s external => cases h

/-! ## Looking for artifacts -/

namespace Resolver

variable {Sheet : Type} (x : Resolver Sheet) {p : Profile} {type : String} {k : Kind}
  {external : List Supplied} {workDir : Path} {w w' : Workspace Sheet} {f : AuditError}

theorem spares_fetch (p : Profile) (type : String) (k : Kind) (externalDir : Option Path)
    (url : String) : Spares (x.fetch p type k externalDir url) := by
  cases k with
  | schema => exact spares_bind (x.store.spares_fetchSchema _ _ _ _ _) fun c => spares_pure _
  | ruleSet => exact spares_bind (x.store.spares_fetchInto _ _) fun file => spares_pure _

/-- **The profile's own artifacts** never refuse a request, bundled or remote. -/
theorem spares_own (p : Profile) (type : String) (k : Kind) (externalDir : Option Path)
    (source : ArtifactSource) : Spares (x.own p type k externalDir source) := by
  unfold own
  cases source.localPath with
  | some bundled =>
    refine spares_bind (Task.spares_ofFiles fun t => refuses_mapError fun fault => rfl) fun files =>
      spares_pure _
  | none => exact spares_mapM fun url => Task.spares_ofStep (x.spares_fetch _ _ _ _ _)

theorem spares_preprocess (stylesheet copy workDir : Path) (a : Artifact) :
    Spares (x.preprocess stylesheet copy workDir a) := by
  unfold preprocess
  refine spares_bind (Task.spares_ofFiles fun t => refuses_mapError fun fault => rfl) fun content => ?_
  refine spares_bind (spares_lift _) fun compiled => ?_
  refine spares_bind (spares_ofExcept (refuses_mapError fun fault => rfl)) fun sheet => ?_
  refine spares_bind (Task.spares_ofFiles fun t => refuses_mapError fun fault => rfl) fun changed => ?_
  exact spares_bind (Task.spares_changeFiles _) fun _ => spares_pure _

/-- **The profile's stylesheet** never refuses a request. -/
theorem spares_preprocessed (source : Option ArtifactSource) (workDir : Path)
    (artifacts : List Artifact) : Spares (x.preprocessed source workDir artifacts) := by
  unfold preprocessed
  split
  · exact spares_pure _
  · exact spares_mapM fun a => x.spares_preprocess _ _ _ _

/-- What is brought along is looked at and left as it is. -/
theorem brought_run (p : Profile) (k : Kind) (s : Supplied) (w : Workspace Sheet) :
    brought p k s w = ((s.files w.files k (k.extensions p)).map fun files =>
      files.map fun f => ⟨f, k, .supplied, searchPath p (some s.directory) none f⟩, w) :=
  Task.ofFiles_run _ _ w

/-- **An archive of schemas comes to light as ambiguous**: the profile's own schemas are found, and
what is brought along before it holds one schema each. -/
def Exposes (p : Profile) (type : String) (external : List Supplied) (w : Workspace Sheet) (d : Path)
    (n : Nat) : Prop :=
  ∃ source ours w', Kind.schema.source? p type = some source ∧
    x.own p type .schema (external.head?.map (·.directory)) source w = (.ok ours, w') ∧
    ∃ before after, external = before ++ .unpacked d :: after ∧
      (∀ s ∈ before, ∃ files,
        s.files w'.files .schema (Kind.schema.extensions p) = .ok files) ∧
      Ambiguous w'.files d n

variable {x}

/-- **What may not be brought along or is missing** refuses the request before anything is looked
for. -/
theorem resolve_unsupported (h : checkSupport (k.source? p type) k external = .error f) :
    x.resolve p type k external workDir w = (.error f, w) := by
  unfold resolve
  refine bind_run_error ?_
  rw [ofExcept_run, h]

/-- What the profile has itself. -/
def ours (x : Resolver Sheet) (p : Profile) (type : String) (k : Kind) (external : List Supplied) :
    Task Sheet (List Artifact) :=
  match k.source? p type with
  | some source => x.own p type k (external.head?.map (·.directory)) source
  | none => pure []

/-- **What is brought along cannot be had** where the first of it fails that fails, in the files as they
are. -/
theorem brought_error_iff : external.mapM (brought p k) w = (.error f, w') ↔
    w' = w ∧ ∃ before s after, external = before ++ s :: after ∧
      (∀ s ∈ before, ∃ files, s.files w.files k (k.extensions p) = .ok files) ∧
      s.files w.files k (k.extensions p) = .error f := by
  rw [mapM_run fun s _ => brought_run p k s w, Prod.mk.injEq, mapM_eq_error_iff, and_comm,
    eq_comm (a := w)]
  simp only [map_eq_error, exists_map_eq_ok]

/-- Where the request brings what it may and must, artifacts are looked for. -/
theorem resolve_supported (h : checkSupport (k.source? p type) k external = .ok ()) :
    x.resolve p type k external workDir w = (do
      let found ← x.ours p type k external
      let theirs ← external.mapM (brought p k)
      x.preprocessed (k.source? p type) workDir (found ++ theirs.flatten) : Task Sheet _) w := by
  have hsupport : (MonadExcept.ofExcept (checkSupport (k.source? p type) k external) :
      Task Sheet Unit) w = (.ok (), w) := by rw [ofExcept_run, h]
  unfold resolve ours
  refine (bind_run_ok hsupport).trans ?_
  cases k.source? p type <;> rfl

/-- Looking for artifacts fails for what is brought along where the profile's own are found. -/
theorem resolve_brought {found : List Artifact}
    (hsupport : checkSupport (k.source? p type) k external = .ok ())
    (hours : x.ours p type k external w = (.ok found, w'))
    (htheirs : external.mapM (brought p k) w' = (.error f, w')) :
    x.resolve p type k external workDir w = (.error f, w') := by
  rw [resolve_supported hsupport, bind_run_ok hours, bind_run_error htheirs]

/-- **An archive that comes to light as ambiguous** refuses the request. -/
theorem resolve_exposed {d : Path} {n : Nat}
    (hsupport : checkSupport (Kind.schema.source? p type) .schema external = .ok ())
    (h : x.Exposes p type external w d n) :
    ∃ w', x.resolve p type .schema external workDir w = (.error (.ambiguousArchive d n), w') := by
  obtain ⟨source, found, w', hsource, hown, before, after, hexternal, hbefore, hambiguous⟩ := h
  have hours : x.ours p type .schema external w = (.ok found, w') := by
    unfold ours
    rw [hsource]
    exact hown
  exact ⟨w', resolve_brought hsupport hours (brought_error_iff.2
    ⟨rfl, before, _, after, hexternal, hbefore, Supplied.files_ambiguous hambiguous⟩)⟩

/-- Looking for artifacts refuses a request only for something that it brings along, once the profile's
own are found. -/
theorem brought_of_refused (hsupport : checkSupport (k.source? p type) k external = .ok ())
    (h : x.resolve p type k external workDir w = (.error f, w')) (hf : f.refusesRequest) :
    (∃ found, x.ours p type k external w = (.ok found, w')) ∧
      external.mapM (brought p k) w' = (.error f, w') := by
  rw [resolve_supported hsupport] at h
  cases hours : x.ours p type k external w with
  | mk outcome w₁ =>
  cases outcome with
  | error f' =>
    -- the profile's own artifacts are at fault, and that spares the request
    have hspares : Spares (x.ours p type k external) := by
      unfold ours
      split
      · exact x.spares_own _ _ _ _ _
      · exact spares_pure _
    rw [bind_run_error hours] at h
    cases h
    rw [hspares w f _ hours] at hf
    cases hf
  | ok found =>
    rw [bind_run_ok hours] at h
    cases hbrought : external.mapM (brought p k) w₁ with
    | mk outcome w₂ =>
    cases outcome with
    | error f' =>
      rw [bind_run_error hbrought] at h
      cases h
      obtain ⟨rfl, -⟩ := brought_error_iff.1 hbrought
      exact ⟨⟨found, rfl⟩, hbrought⟩
    | ok theirs =>
      rw [bind_run_ok hbrought] at h
      rw [x.spares_preprocessed _ _ _ _ f _ h] at hf
      cases hf

/-- **Nothing else refuses a request** than what may not be brought along or is missing, and an archive
that comes to light as ambiguous. -/
theorem resolve_refused (h : x.resolve p type k external workDir w = (.error f, w'))
    (hf : f.refusesRequest) :
    checkSupport (k.source? p type) k external = .error f ∨
      k = .schema ∧ ∃ d n, f = .ambiguousArchive d n ∧ x.Exposes p type external w d n := by
  cases hsupport : checkSupport (k.source? p type) k external with
  | error f' =>
    rw [resolve_unsupported hsupport] at h
    cases h
    exact .inl rfl
  | ok u =>
    refine .inr ?_
    obtain ⟨⟨found, hours⟩, hbrought⟩ := brought_of_refused hsupport h hf
    obtain ⟨-, before, s, after, hexternal, hbefore, hfiles⟩ := brought_error_iff.1 hbrought
    obtain ⟨rfl, d, n, rfl, rfl, hambiguous⟩ := Supplied.files_refused hfiles hf
    refine ⟨rfl, d, n, rfl, ?_⟩
    cases hsource : Kind.schema.source? p type with
    | none =>
      -- without a source nothing may be brought along
      rw [hsource] at hsupport
      rw [eq_nil_of_checkSupport hsupport] at hexternal
      simp at hexternal
    | some source =>
      unfold ours at hours
      rw [hsource] at hours
      exact ⟨source, found, w', hsource, hours, before, after, hexternal, hbefore, hambiguous⟩

end Resolver

end Artifact

end XmlAudit
