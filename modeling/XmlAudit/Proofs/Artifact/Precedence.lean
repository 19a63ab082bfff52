import XmlAudit.Proofs.Artifact.Resolution
import XmlAudit.Proofs.Files.Listing

/-!
# Which artifacts are found, and in which order

* `Listing`: the files right inside a directory, in order.
* `Bundled`, `Supplied.Holds`: the files of a bundled path and of what a request brings along.
* `Resolver.Own`: the artifacts of a profile itself, the bundled ones before the remote ones.
* `Resolver.resolve_ordered`: the artifacts of a profile, then those of each thing brought along.
-/

namespace XmlAudit.Artifact

open Files (Path FileTree)
open Files.FileTree

variable {t : FileTree} {d p : Path} {files : List Path} {accepted : List String}

/-! ## Directories -/

/-- **The files right inside a directory** that fit, each of them once and in the order of the names. -/
def Listing (t : FileTree) (d : Path) (fits : Path → Prop) (files : List Path) : Prop :=
  ∃ k, ∃ names : List String, t.locate d = .ok k ∧ t.find? k = some .directory ∧
    files = names.map d.child ∧ names.Pairwise (· < ·) ∧
    ∀ s, s ∈ names ↔ (∃ content, t.find? (k ++ [s]) = some (.file content)) ∧ fits (d.child s)

/-- **A file with an accepted extension**, letter case aside. -/
def HasAccepted (accepted : List String) (p : Path) : Prop :=
  ∃ e a, p.extension? = some e ∧ a ∈ accepted ∧ Text.asciiLowercase a = Text.asciiLowercase e

theorem hasExtension_iff : hasExtension accepted p ↔ HasAccepted accepted p := by
  unfold hasExtension extensionOf? HasAccepted
  cases p.extension? <;> simp

/-- All files of a directory are listed. -/
theorem filesIn_listing (h : filesIn t d = .ok files) : Listing t d (fun _ => True) files := by
  unfold filesIn at h
  obtain ⟨k, hk, h⟩ := bind_eq_ok.1 h
  obtain ⟨names, hnames, h⟩ := bind_eq_ok.1 h
  cases h
  obtain ⟨k', hk', hdir, -⟩ := names_eq_ok.1 hnames
  cases hk.symm.trans hk'
  refine ⟨k, _, hk, hdir, rfl, (pairwise_names hnames).filter _, fun s => ?_⟩
  rw [List.mem_filter, mem_names hnames hk, holdsFile_iff, and_true, and_iff_right_iff_imp]
  rintro ⟨content, hfile⟩
  rw [hfile]
  rfl

/-- Those that fit are listed if all are. -/
theorem Listing.filter (h : Listing t d (fun _ => True) files) (fits : Path → Bool) :
    Listing t d (fun p => fits p) (files.filter fits) := by
  obtain ⟨k, names, hk, hdir, rfl, hordered, hmem⟩ := h
  refine ⟨k, names.filter fun s => fits (d.child s), hk, hdir, ?_, hordered.filter _, fun s => ?_⟩
  · rw [List.filter_map]
    rfl
  · rw [List.mem_filter, hmem s, and_true]

/-- The files with an accepted extension are listed. -/
theorem listing_accepted (h : filesIn t d = .ok files) :
    Listing t d (HasAccepted accepted) (files.filter (hasExtension accepted)) := by
  have hlisting := (filesIn_listing h).filter (hasExtension accepted)
  simpa only [hasExtension_iff] using hlisting

/-! ## Bundled files and what a request brings along -/

/-- **The files of a bundled path**: the file itself, or those of a directory with an accepted
extension. -/
inductive Bundled (t : FileTree) (accepted : List String) (p : Path) : List Path → Prop
  | file (there : t.isFile p) : Bundled t accepted p [p]
  | directory {files : List Path} (listing : Listing t p (HasAccepted accepted) files) :
      Bundled t accepted p files

theorem bundled (h : bundledFiles t accepted p = .ok files) : Bundled t accepted p files := by
  unfold bundledFiles at h
  obtain ⟨entry, hentry, h⟩ := bind_eq_ok.1 h
  cases entry with
  | file content =>
    cases h
    exact .file (by rw [isFile, hentry])
  | directory =>
    obtain ⟨all, hall, h⟩ := bind_eq_ok.1 h
    cases h
    exact .directory (listing_accepted hall)

/-- **The files of what a request brings along**: the file itself, the only file of an archive for a
schema, and those of an archive with an accepted extension for sets of rules. -/
inductive Supplied.Holds (t : FileTree) (accepted : List String) : Kind → Supplied → List Path → Prop
  | file (k : Kind) (p : Path) : Holds t accepted k (.file p) [p]
  | schema {d p : Path} (listing : Listing t d (fun _ => True) [p]) :
      Holds t accepted .schema (.unpacked d) [p]
  | ruleSets {d : Path} {files : List Path} (listing : Listing t d (HasAccepted accepted) files) :
      Holds t accepted .ruleSet (.unpacked d) files

theorem Supplied.holds {k : Kind} {s : Supplied} (h : s.files t k accepted = .ok files) :
    s.Holds t accepted k files := by
  cases s with
  | file p =>
    cases h
    exact .file k p
  | unpacked d =>
    obtain ⟨all, hall, h⟩ := bind_eq_ok.1 h
    rw [mapError_eq_ok] at hall
    cases k with
    | ruleSet =>
      cases h
      exact .ruleSets (listing_accepted hall)
    | schema =>
      dsimp only at h
      split at h
      · next hone =>
        cases h
        obtain ⟨p, rfl⟩ := List.length_eq_one_iff.1 hone
        exact .schema (filesIn_listing hall)
      · cases h

/-! ## Artifacts of files -/

/-- **The artifacts of some files**, one for each, all of one kind and from one source. -/
structure ArtifactsOf (k : Kind) (source : Provenance) (files : List Path) (found : List Artifact) :
    Prop where
  paths : found.map Artifact.path = files
  origin : ∀ a ∈ found, a.kind = k ∧ a.provenance = source

theorem artifactsOf_map {k : Kind} {source : Provenance} {search : Path → SearchPath} :
    ArtifactsOf k source files (files.map fun f => ⟨f, k, source, search f⟩) where
  paths := by
    rw [List.map_map]
    exact List.map_id files
  origin := by
    intro a ha
    obtain ⟨f, -, rfl⟩ := List.mem_map.1 ha
    exact ⟨rfl, rfl⟩

theorem artifactsOf_forall₂ {k : Kind} {source : Provenance} {place : String → Path}
    {urls : List String} {found : List Artifact}
    (h : List.Forall₂ (fun url a => a.path = place url ∧ a.kind = k ∧ a.provenance = source) urls
      found) : ArtifactsOf k source (urls.map place) found := by
  induction h with
  | nil => exact ⟨rfl, List.forall_mem_nil _⟩
  | cons ha _ ih =>
    exact ⟨congrArg₂ List.cons ha.1 ih.paths, List.forall_mem_cons.2 ⟨ha.2, ih.origin⟩⟩

/-! ## Looking for artifacts -/

namespace Resolver

variable {Sheet : Type} {x : Resolver Sheet} {p : Profile} {type : String} {k : Kind}
  {external : List Supplied} {workDir : Path} {w w' : Workspace Sheet} {artifacts found : List Artifact}

/-- The place of the copy of a remote artifact: for a schema a file may stand for the address. -/
def copyOf (x : Resolver Sheet) (p : Profile) (type : String) (k : Kind) (url : String) : Path :=
  let copy := Remote.Store.target url (x.store.directory p.name type k.name)
  match k with
  | .schema => (p.mappings.lookup url).getD copy
  | .ruleSet => copy

/-- **The artifacts of a profile itself**: those of its bundled path, for which nothing is fetched, or
one for each remote address if it has no such path. -/
inductive Own (x : Resolver Sheet) (p : Profile) (type : String) (k : Kind) (w : Workspace Sheet) :
    Option ArtifactSource → List Artifact → Workspace Sheet → Prop
  | none : Own x p type k w none [] w
  | bundled {source : ArtifactSource} {b : Path} {files : List Path} {found : List Artifact}
      (path : source.localPath = some b) (there : Bundled w.files (k.extensions p) b files)
      (artifacts : ArtifactsOf k .bundled files found) : Own x p type k w (some source) found w
  | remote {source : ArtifactSource} {found : List Artifact} {w' : Workspace Sheet}
      (path : source.localPath = Option.none)
      (artifacts : ArtifactsOf k .remote (source.remote.map (x.copyOf p type k)) found) :
      Own x p type k w (some source) found w'

/-- A remote artifact that is had is the copy of its address. -/
theorem fetch_eq_ok {externalDir : Option Path} {url : String} {s s' : Remote.Session} {a : Artifact}
    (h : x.fetch p type k externalDir url s = (.ok a, s')) :
    a.path = x.copyOf p type k url ∧ a.kind = k ∧ a.provenance = .remote := by
  cases k with
  | ruleSet =>
    obtain ⟨file, s₁, hfile, h⟩ := bind_run_eq_ok.1 h
    cases h
    exact ⟨Remote.Store.fetchInto_eq_ok hfile, rfl, rfl⟩
  | schema =>
    obtain ⟨schema, s₁, hschema, h⟩ := bind_run_eq_ok.1 h
    cases h
    exact ⟨Remote.Store.fetchSchema_eq_ok hschema, rfl, rfl⟩

/-- The artifacts of a profile itself, bundled or remote, are those of its source. -/
theorem own_eq_ok {externalDir : Option Path} {source : ArtifactSource}
    (h : x.own p type k externalDir source w = (.ok found, w')) :
    Own x p type k w (some source) found w' := by
  unfold own at h
  cases hpath : source.localPath with
  | some b =>
    rw [hpath] at h
    have hrun := (Task.ofFiles_run _ _ w).symm.trans h
    obtain ⟨hfound, rfl⟩ := Prod.mk.inj hrun
    obtain ⟨files, hfiles, rfl⟩ := map_eq_ok.1 hfound
    exact .bundled hpath (bundled (mapError_eq_ok.1 hfiles)) artifactsOf_map
  | none =>
    rw [hpath] at h
    refine .remote hpath (artifactsOf_forall₂ (forall₂_of_mapM_run (fun url s a s' hrun => ?_) h))
    have hfetched : (x.fetch p type k externalDir url s.session).1 = .ok a := congrArg Prod.fst hrun
    exact fetch_eq_ok (Prod.ext hfetched rfl)

/-- **Artifacts are found in order**: those of the profile itself, and then for each thing that the
request brings along those that it holds, as the files are by then. -/
theorem resolve_ordered (hplain : ∀ source, k.source? p type = some source → source.preprocessor = none)
    (h : x.resolve p type k external workDir w = (.ok artifacts, w')) :
    ∃ own theirs, artifacts = own ++ theirs.flatten ∧ Own x p type k w (k.source? p type) own w' ∧
      List.Forall₂ (fun s found => ∃ files, s.Holds w'.files (k.extensions p) k files ∧
        ArtifactsOf k .supplied files found) external theirs := by
  have hsupport : checkSupport (k.source? p type) k external = .ok () := by
    cases hcheck : checkSupport (k.source? p type) k external with
    | ok u => rfl
    | error f =>
      rw [resolve_unsupported hcheck] at h
      cases h
  rw [resolve_supported hsupport] at h
  obtain ⟨own, w₁, hown, h⟩ := bind_run_eq_ok.1 h
  obtain ⟨theirs, w₂, htheirs, h⟩ := bind_run_eq_ok.1 h
  -- without a preprocessor the artifacts stay as they were found
  have hkept : x.preprocessed (k.source? p type) workDir (own ++ theirs.flatten) =
      pure (own ++ theirs.flatten) := by
    unfold preprocessed
    cases hsource : k.source? p type with
    | none => rfl
    | some source => rw [Option.bind_some, hplain source hsource, Option.map_none]
  rw [hkept] at h
  cases h
  rw [mapM_run fun s _ => brought_run p k s w₁, Prod.mk.injEq] at htheirs
  obtain ⟨htheirs, rfl⟩ := htheirs
  refine ⟨own, theirs, rfl, ?_, ?_⟩
  · unfold ours at hown
    cases hsource : k.source? p type with
    | none =>
      rw [hsource] at hown
      cases hown
      exact .none
    | some source =>
      rw [hsource] at hown
      exact own_eq_ok hown
  · refine (mapM_eq_ok.1 htheirs).imp fun s found hfound => ?_
    obtain ⟨files, hfiles, rfl⟩ := map_eq_ok.1 hfound
    exact ⟨files, s.holds hfiles, artifactsOf_map⟩

/-- A bundled schema, then the only file of an archive, whatever its extension. The address of the
profile is not asked for. -/
theorem resolve_ordered_archive :
    let x : Resolver Empty := ⟨⟨.ofText "/cache", ⟨fun _ url => .error (.http url)⟩, 0⟩, .absent⟩
    let source : ArtifactSource := ⟨some (.ofText "/s.xsd"), ["http://h/r.xsd"], .allowed, none, none⟩
    let p : Profile := { Profile.usual with schemas := [("t", source)] }
    let external : List Supplied := [.unpacked (.ofText "/archive")]
    let files := (((FileTree.empty []).set ["archive"] (some .directory)).set ["archive", "z.txt"]
      (some (.file []))).set ["s.xsd"] (some (.file []))
    let w : Workspace Empty := ⟨.start files, .empty false⟩
    (∀ s, Kind.schema.source? p "t" = some s → s.preprocessor = none) ∧
      ∃ artifacts, x.resolve p "t" .schema external (.ofText "/") w = (.ok artifacts, w) ∧
        artifacts.map Artifact.path = [.ofText "/s.xsd", .ofText "/archive/z.txt"] ∧
        ∃ own theirs, artifacts = own ++ theirs.flatten ∧ Own x p "t" .schema w (some source) own w ∧
          List.Forall₂ (fun s found => ∃ held, s.Holds files p.schemaExtensions .schema held ∧
            ArtifactsOf .schema .supplied held found) external theirs := by
  intro x source p external files w
  have hplain : ∀ s, Kind.schema.source? p "t" = some s → s.preprocessor = none := by
    rintro s ⟨⟩
    rfl
  have hnames : files.names (.ofText "/archive") = .ok ["z.txt"] :=
    congrArg Except.ok (List.mergeSort_singleton "z.txt")
  have hheld : (Supplied.unpacked (.ofText "/archive")).files files .schema p.schemaExtensions =
      .ok [.ofText "/archive/z.txt"] := by
    unfold Supplied.files filesIn
    dsimp only
    rw [hnames]
    rfl
  let bundled : Artifact := ⟨.ofText "/s.xsd", .schema, .bundled,
    searchPath p (some (.ofText "/archive")) none (.ofText "/s.xsd")⟩
  let unpacked : Artifact := ⟨.ofText "/archive/z.txt", .schema, .supplied,
    searchPath p (some (.ofText "/archive")) none (.ofText "/archive/z.txt")⟩
  have hours : x.ours p "t" .schema external w = (.ok [bundled], w) := by rfl
  have hbrought : brought p .schema (.unpacked (.ofText "/archive")) w = (.ok [unpacked], w) := by
    rw [brought_run]
    exact Prod.ext (congrArg (Except.map _) hheld) rfl
  have htheirs : external.mapM (brought p .schema) w = (.ok [[unpacked]], w) :=
    mapM_run_ok (g := fun _ => [unpacked]) (List.forall_mem_singleton.2 hbrought)
  have hresolve : x.resolve p "t" .schema external (.ofText "/") w =
      (.ok [bundled, unpacked], w) := by
    rw [resolve_supported rfl, bind_run_ok hours, bind_run_ok htheirs]
    rfl
  exact ⟨hplain, _, hresolve, rfl, resolve_ordered hplain hresolve⟩

end Resolver

end XmlAudit.Artifact
