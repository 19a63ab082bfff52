import XmlAudit.Proofs.Remote.Stock

/-!
# The schemas that a schema brings in

The references of schemas make a graph, and fetching a schema goes through all of it that is reached
from there: first the schema itself, then what it brings in, then what that brings in.

* `Links`, `Reaches`: what a served document brings in, directly or through others.
* `mem_discovered`: what a round finds.
* `Surveys`: the search after some rounds, with the addresses that are done with and the latest.
* `Surveys.discovers`, `Surveys.round`: what a round finds, and what it comes to.
* `Surveys.follow`: what all rounds come to, if there are enough of them.
* `fetchSchema_closure`: a schema is had exactly if all that it reaches is served, and then each
  address is asked for once, and its copy is there.
* `fetchSchema_too_long`: a schema is not had whose copy would have a name too long for a file.
-/

namespace XmlAudit.Remote

open Files (Path FileTree)
open Files.FileTree (rooted_empty makeDirectories_eq_ok)
open Store (target discover)

/-- What is served for each address. -/
abbrev Served := String → Except AuditError (List UInt8)

/-! ## Graphs of schemas -/

/-- **A served document brings in a schema** over the net for which no file stands. -/
def Links (served : Served) (mappings : List (String × Path)) (url url' : String) : Prop :=
  ∃ content, served url = .ok content ∧ mappings.lookup url' = none ∧
    ∃ location ∈ schemaLocations content, webReference? url location = some url'

/-- A schema brings in another one, directly or through others, or is that one. -/
abbrev Reaches (served : Served) (mappings : List (String × Path)) : String → String → Prop :=
  Relation.ReflTransGen (Links served mappings)

variable {served : Served} {mappings : List (String × Path)} {found links : List String} {url : String}

/-! ## Rounds -/

/-- Addresses that are found come behind those that were found before. -/
theorem prefix_discovered : found <+: links.foldl (discover mappings) found := by
  induction links generalizing found with
  | nil => exact List.prefix_rfl
  | cons link links ih =>
    rw [List.foldl_cons]
    refine List.IsPrefix.trans ?_ ih
    unfold discover
    split
    · exact List.prefix_rfl
    · exact List.prefix_append _ _

theorem nodup_discovered (h : found.Nodup) : (links.foldl (discover mappings) found).Nodup := by
  induction links generalizing found with
  | nil => exact h
  | cons link links ih =>
    rw [List.foldl_cons]
    refine ih ?_
    unfold discover
    split
    · exact h
    · next hnew =>
      rw [Bool.or_eq_true, not_or] at hnew
      rw [← List.concat_eq_append, List.nodup_concat]
      exact ⟨by simpa using hnew.2, h⟩

theorem mem_discover {link : String} : url ∈ discover mappings found link ↔
    url ∈ found ∨ url = link ∧ mappings.lookup url = none := by
  unfold discover
  split
  · next hold =>
    refine ⟨.inl, ?_⟩
    rintro (hfound | ⟨rfl, hlookup⟩)
    · exact hfound
    · simpa [hlookup] using hold
  · next hnew =>
    rw [Bool.or_eq_true, not_or] at hnew
    have hlookup : mappings.lookup link = none := Option.not_isSome_iff_eq_none.1 hnew.1
    rw [List.mem_append, List.mem_singleton]
    exact or_congr_right ⟨fun h => ⟨h, h ▸ hlookup⟩, And.left⟩

/-- **What a round finds**: what was found before, and the links for which no file stands. -/
theorem mem_discovered : url ∈ links.foldl (discover mappings) found ↔
    url ∈ found ∨ url ∈ links ∧ mappings.lookup url = none := by
  induction links generalizing found with
  | nil => simp
  | cons link links ih =>
    rw [List.foldl_cons, ih, mem_discover, List.mem_cons, or_assoc, ← or_and_right]

/-! ## Searches -/

/-- The files of documents that are served, by the names of their copies, the latest first. -/
def stockOf (served : Served) (urls : List String) : Stock :=
  urls.reverse.filterMap fun url => (served url).toOption.map (cacheNames url, ·)

/-- **A directory in which the copies of some documents are kept**, each of which was asked for once and
served. -/
structure Fetched (served : Served) (dir : Path) (urls : List String) (s : Session) : Prop where
  asked : s.asked = urls.reverse
  had : ∀ url ∈ urls, ∃ content, served url = .ok content
  keeps : Keeps dir (stockOf served urls) s

variable {c : Store} {dir : Path} {s : Session} {urls news : List String} {content : List UInt8}

theorem mem_stockOf {names : List String} :
    (names, content) ∈ stockOf served urls ↔
      ∃ url ∈ urls, served url = .ok content ∧ cacheNames url = names := by
  unfold stockOf
  simp only [List.mem_filterMap, List.mem_reverse, Option.map_eq_some_iff, toOption_eq_some,
    Prod.mk.injEq]
  refine exists_congr fun url => and_congr_right fun _ => ⟨?_, ?_⟩
  · rintro ⟨content, hcontent, hnames, rfl⟩
    exact ⟨hcontent, hnames⟩
  · rintro ⟨hcontent, hnames⟩
    exact ⟨content, hcontent, hnames, rfl⟩

theorem stockOf_concat (h : served url = .ok content) :
    stockOf served (urls ++ [url]) = (cacheNames url, content) :: stockOf served urls := by
  unfold stockOf
  rw [List.reverse_concat, List.filterMap_cons, h]
  rfl

/-- Addresses whose copies stand apart. -/
def Apart (urls : List String) : Prop :=
  ∀ url ∈ urls, ∀ url' ∈ urls, url ≠ url' → ¬cacheNames url <+: cacheNames url'

theorem lookup_stockOf (hapart : Apart urls) (hurl : url ∈ urls) (h : served url = .ok content) :
    (stockOf served urls).lookup (cacheNames url) = some content := by
  have hmem : (cacheNames url, content) ∈ stockOf served urls := mem_stockOf.2 ⟨url, hurl, h, rfl⟩
  obtain ⟨content', hcontent'⟩ := exists_lookup hmem
  obtain ⟨url', hurl', hserved, hnames⟩ := mem_stockOf.1 (mem_of_lookup hcontent')
  have hsame : url' = url := by
    by_contra hne
    have hprefix : cacheNames url' <+: cacheNames url := by
      rw [hnames]
    exact hapart url' hurl' url hurl hne hprefix
  rw [hsame, h] at hserved
  rw [hcontent', Except.ok.inj hserved]

namespace Fetched

/-- The copies can be read. -/
theorem read_eq_ok (h : Fetched served dir urls s) (hapart : Apart urls) (hurl : url ∈ urls)
    (hfits : FitsIn dir url) (hserved : served url = .ok content) :
    s.files.read (target url dir) = .ok content :=
  (h.keeps.stocks.read_iff hfits.fits).2 (lookup_stockOf hapart hurl hserved)

/-- One more document is fetched, or it is not served. -/
theorem fetchInto (h : Fetched served dir urls s) (hnew : url ∉ urls) (hapart : Apart (urls ++ [url]))
    (hfits : FitsIn dir url) (hanswer : c.network.answer s.asked url = served url) :
    (∃ s', c.fetchInto url dir s = (.ok (target url dir), s') ∧
      Fetched served dir (urls ++ [url]) s') ∨
    ∃ e s', served url = .error e ∧
      c.fetchInto url dir s = (.error (.ofCache (.write url e.message)), s') := by
  have hlast : url ∈ urls ++ [url] := by simp
  -- the address is a new one, so the names of its copy lie apart from all in stock
  have hapart' : ∀ a ∈ stockOf served urls, ¬a.1 <+: cacheNames url ∧ ¬cacheNames url <+: a.1 := by
    rintro ⟨names, content⟩ ha
    obtain ⟨url', hurl', -, hnames⟩ := mem_stockOf.1 ha
    have hne : url' ≠ url := fun heq => hnew (heq ▸ hurl')
    have hurl'' : url' ∈ urls ++ [url] := List.mem_append_left _ hurl'
    simp only [← hnames]
    exact ⟨hapart url' hurl'' url hlast hne, hapart url hlast url' hurl'' hne.symm⟩
  have hlookup : (stockOf served urls).lookup (cacheNames url) = none :=
    lookup_eq_none.2 fun a ha heq => (hapart' a ha).1 (heq ▸ List.prefix_rfl)
  cases hserved : served url with
  | error e =>
    rw [hserved] at hanswer
    exact .inr ⟨e, _, rfl, h.keeps.fetchInto_refused hfits hlookup hanswer⟩
  | ok content =>
    rw [hserved] at hanswer
    obtain ⟨s', hrun, hasked, hkeeps⟩ := h.keeps.fetchInto_apart hfits hlookup
      (fun a ha hnested => hnested.2.elim (hapart' a ha).1 (hapart' a ha).2) hanswer
    refine .inl ⟨s', hrun, ?_, ?_, stockOf_concat hserved ▸ hkeeps⟩
    · rw [hasked, h.asked, List.reverse_concat]
    · exact List.forall_mem_append.2 ⟨h.had, by simp [hserved]⟩

/-- Several documents are fetched, or one of them is not served. -/
theorem fetchAll (h : Fetched served dir urls s) (hnodup : (urls ++ news).Nodup)
    (hapart : Apart (urls ++ news)) (hfits : ∀ url ∈ news, FitsIn dir url)
    (hanswers : ∀ asked url, c.network.answer asked url = served url) :
    let each := news.mapM fun url => (do return (url, ← c.fetchInto url dir) : Step (String × Path))
    (∃ s', each s = (.ok (news.map fun url => (url, target url dir)), s') ∧
      Fetched served dir (urls ++ news) s') ∨
    ∃ url ∈ news, ∃ e s', served url = .error e ∧
      each s = (.error (.ofCache (.write url e.message)), s') := by
  induction news generalizing urls s with
  | nil =>
    rw [List.append_nil]
    exact .inl ⟨s, rfl, h⟩
  | cons url news ih =>
    rw [List.append_cons] at hnodup hapart ⊢
    rw [List.forall_mem_cons] at hfits
    have hnew : url ∉ urls := by
      have hfirst := (List.nodup_append.1 (List.nodup_append.1 hnodup).1).2.2
      exact fun hmem => hfirst url hmem url (List.mem_singleton.2 rfl) rfl
    have hapart' : Apart (urls ++ [url]) := fun u hu v hv =>
      hapart u (List.mem_append_left _ hu) v (List.mem_append_left _ hv)
    simp only [List.mapM_cons]
    rcases h.fetchInto (c := c) hnew hapart' hfits.1 (hanswers _ _) with
      ⟨s₁, hrun, hfetched⟩ | ⟨e, s₁, hserved, hrun⟩
    · have hone : (do return (url, ← c.fetchInto url dir) : Step (String × Path)) s =
          (.ok (url, target url dir), s₁) := (bind_run_ok hrun).trans rfl
      rcases ih hfetched hnodup hapart hfits.2 with
        ⟨s₂, hrest, hfetched'⟩ | ⟨url', hurl', e, s₂, hserved, hrest⟩
      · refine .inl ⟨s₂, ?_, hfetched'⟩
        rw [bind_run_ok hone, bind_run_ok hrest]
        rfl
      · refine .inr ⟨url', List.mem_cons_of_mem _ hurl', e, s₂, hserved, ?_⟩
        rw [bind_run_ok hone, bind_run_error hrest]
    · exact .inr ⟨url, List.mem_cons_self, e, s₁, hserved, bind_run_error (bind_run_error hrun)⟩

end Fetched

/-- The links of a document that is served. -/
def linksOf (served : Served) (url : String) : List String :=
  webReferences url ((served url).toOption.getD [])

theorem links_iff {url' : String} (h : served url = .ok content) :
    Links served mappings url url' ↔ url' ∈ linksOf served url ∧ mappings.lookup url' = none := by
  unfold linksOf Links webReferences
  rw [h, List.mem_filterMap]
  constructor
  · rintro ⟨content', hcontent', hlookup, hlink⟩
    cases hcontent'
    exact ⟨hlink, hlookup⟩
  · rintro ⟨hlink, hlookup⟩
    exact ⟨content, rfl, hlookup, hlink⟩

theorem content_run {p : Path} (h : s.files.read p = .ok content) :
    Store.content p s = (.ok content, s) := by
  unfold Store.content
  rw [bind_run_ok (m := get) (a := s) rfl, h]
  rfl

/-- The documents of a round are read for their links. -/
theorem Fetched.read_links (h : Fetched served dir urls s) (hapart : Apart urls) {latest : List String}
    (hlatest : ∀ url ∈ latest, url ∈ urls) (hfits : ∀ url ∈ latest, FitsIn dir url) :
    ((latest.map fun url => (url, target url dir)).mapM fun l =>
        (do return webReferences l.1 (← Store.content l.2) : Step (List String))) s =
      (.ok (latest.map (linksOf served)), s) := by
  have heach : ∀ l ∈ latest.map fun url => (url, target url dir),
      (do return webReferences l.1 (← Store.content l.2) : Step (List String)) s =
        (.ok (linksOf served l.1), s) := by
    intro l hl
    obtain ⟨url, hurl, rfl⟩ := List.mem_map.1 hl
    obtain ⟨content, hserved⟩ := h.had url (hlatest url hurl)
    have hread := h.read_eq_ok hapart (hlatest url hurl) (hfits url hurl) hserved
    rw [bind_run_ok (content_run hread), linksOf, hserved]
    rfl
  rw [mapM_run_ok heach, List.map_map]
  rfl

/-- **The search for schemas after some rounds**: the addresses that are done with, all links of which
are found, and the latest. All of them are fetched, and nothing else is. -/
structure Surveys (served : Served) (mappings : List (String × Path)) (root : String) (dir : Path)
    (done latest : List String) (s : Session) : Prop where
  fetched : Fetched served dir (done ++ latest) s
  nodup : (done ++ latest).Nodup
  start : root ∈ done ++ latest
  reached : ∀ url ∈ done ++ latest, Reaches served mappings root url
  closed : ∀ url ∈ done, ∀ url', Links served mappings url url' → url' ∈ done ++ latest

section

variable {root : String} {done latest : List String}

/-- Where no address is left to be looked into, all that are reached are found. -/
theorem Surveys.mem_iff (h : Surveys served mappings root dir done [] s) :
    url ∈ done ↔ Reaches served mappings root url := by
  have hstart := h.start
  have hreached := h.reached
  have hclosed := h.closed
  rw [List.append_nil] at hstart hreached hclosed
  refine ⟨hreached url, fun hreaches => ?_⟩
  induction hreaches with
  | refl => exact hstart
  | tail _ hlink ih => exact hclosed _ ih _ hlink

/-- **What a round finds**: behind the addresses found before, the links of the latest documents. -/
theorem Surveys.discovers (h : Surveys served mappings root dir done latest s) :
    ∃ news, (latest.map (linksOf served)).flatten.foldl (discover mappings) (done ++ latest) =
        done ++ latest ++ news ∧
      (done ++ latest ++ news).Nodup ∧
      (∀ url ∈ done ++ latest ++ news, Reaches served mappings root url) ∧
      ∀ url ∈ latest, ∀ url', Links served mappings url url' → url' ∈ done ++ latest ++ news := by
  obtain ⟨news, hnews⟩ : done ++ latest <+:
      (latest.map (linksOf served)).flatten.foldl (discover mappings) (done ++ latest) :=
    prefix_discovered
  have hfound : ∀ url', url' ∈ done ++ latest ++ news ↔ url' ∈ done ++ latest ∨
      ∃ url ∈ latest, Links served mappings url url' := by
    intro url'
    rw [hnews, mem_discovered, ← List.flatMap_def, List.mem_flatMap]
    refine or_congr_right ⟨?_, ?_⟩
    · rintro ⟨⟨url, hurl, hlink⟩, hlookup⟩
      obtain ⟨content, hserved⟩ := h.fetched.had url (List.mem_append_right _ hurl)
      exact ⟨url, hurl, (links_iff hserved).2 ⟨hlink, hlookup⟩⟩
    · rintro ⟨url, hurl, hlink⟩
      obtain ⟨content, hserved⟩ := h.fetched.had url (List.mem_append_right _ hurl)
      obtain ⟨hlink, hlookup⟩ := (links_iff hserved).1 hlink
      exact ⟨⟨url, hurl, hlink⟩, hlookup⟩
  refine ⟨news, hnews.symm, hnews ▸ nodup_discovered h.nodup, fun url' hurl' => ?_, ?_⟩
  · rcases (hfound url').1 hurl' with hold | ⟨url, hurl, hlink⟩
    · exact h.reached url' hold
    · exact (h.reached url (List.mem_append_right _ hurl)).tail hlink
  · intro url hurl url' hlink
    exact (hfound url').2 (.inr ⟨url, hurl, hlink⟩)

variable (hanswers : ∀ asked url, c.network.answer asked url = served url)
  (hapart : ∀ url url', Reaches served mappings root url → Reaches served mappings root url' →
    url ≠ url' → ¬cacheNames url <+: cacheNames url')
  (hfits : ∀ url, Reaches served mappings root url → FitsIn dir url)

include hanswers hapart hfits

/-- **One round**: the latest documents are read, and what they bring in is fetched. -/
theorem Surveys.round (h : Surveys served mappings root dir done latest s) (n : Nat)
    (hlatest : latest ≠ []) :
    (∃ news s', Surveys served mappings root dir (done ++ latest) news s' ∧
      c.follow dir mappings (n + 1) (done ++ latest) (latest.map fun url => (url, target url dir)) s =
        c.follow dir mappings n (done ++ latest ++ news)
          (news.map fun url => (url, target url dir)) s') ∨
    ∃ url e s', Reaches served mappings root url ∧ served url = .error e ∧
      c.follow dir mappings (n + 1) (done ++ latest) (latest.map fun url => (url, target url dir)) s =
        (.error (.ofCache (.write url e.message)), s') := by
  have hreachedApart : ∀ {urls : List String},
      (∀ url ∈ urls, Reaches served mappings root url) → Apart urls :=
    fun hurls u hu v hv hne => hapart u v (hurls u hu) (hurls v hv) hne
  have hread := h.fetched.read_links (hreachedApart h.reached)
    (fun url hurl => List.mem_append_right done hurl)
    (fun url hurl => hfits url (h.reached url (List.mem_append_right _ hurl)))
  obtain ⟨news, hnews, hnodup, hreached, hclosed⟩ := h.discovers
  have hunfold : c.follow dir mappings (n + 1) (done ++ latest)
        (latest.map fun url => (url, target url dir)) s =
      (do
        let next ← news.mapM fun url => return (url, ← c.fetchInto url dir)
        c.follow dir mappings n (done ++ latest ++ news) next) s := by
    rw [Store.follow]
    · rw [bind_run_ok hread, hnews, List.drop_left]
    · simpa using hlatest
  rw [hunfold]
  rcases h.fetched.fetchAll hnodup (hreachedApart hreached)
    (fun url hurl => hfits url (hreached url (List.mem_append_right _ hurl))) hanswers with
    ⟨s', hrun, hfetched⟩ | ⟨url, hurl, e, s', hserved, hrun⟩
  · refine .inl ⟨news, s', ⟨hfetched, hnodup, List.mem_append_left _ h.start, hreached, ?_⟩,
      bind_run_ok hrun⟩
    -- what was done with before has no new links
    intro url hurl url' hlink
    rcases List.mem_append.1 hurl with hdone | hlatest
    · exact List.mem_append_left _ (h.closed url hdone url' hlink)
    · exact hclosed url hlatest url' hlink
  · exact .inr ⟨url, e, s', hreached url (List.mem_append_right _ hurl), hserved, bind_run_error hrun⟩

/-- **What the rounds come to**, as long as there are enough of them. -/
theorem Surveys.follow (h : Surveys served mappings root dir done latest s) (n : Nat)
    (hbound : ∀ urls : List String, urls.Nodup → (∀ url ∈ urls, Reaches served mappings root url) →
      urls.length ≤ n + done.length) :
    let out := c.follow dir mappings n (done ++ latest) (latest.map fun url => (url, target url dir)) s
    (∃ all s', out = (.ok (), s') ∧ Surveys served mappings root dir all [] s') ∨
    ∃ url e s', Reaches served mappings root url ∧ served url = .error e ∧
      out = (.error (.ofCache (.write url e.message)), s') := by
  induction n generalizing done latest s with
  | zero =>
    cases latest with
    | nil => exact .inl ⟨done, s, rfl, h⟩
    | cons url latest =>
      -- more addresses are found than can be reached
      have hlength := hbound _ h.nodup h.reached
      rw [List.length_append, List.length_cons] at hlength
      omega
  | succ n ih =>
    cases latest with
    | nil => exact .inl ⟨done, s, rfl, h⟩
    | cons url latest =>
      rcases h.round hanswers hapart hfits n (List.cons_ne_nil _ _) with
        ⟨news, s', hnext, hrun⟩ | hrefused
      · rw [hrun]
        refine ih hnext fun urls hnodup hreached => ?_
        have hlength := hbound urls hnodup hreached
        rw [List.length_append, List.length_cons]
        omega
      · exact .inr hrefused

end

/-- What fetching a schema comes to: the search is over, or a document that is reached is not served. -/
theorem fetchSchema_surveys {profile type kind root : String} {files : FileTree}
    (hanswers : ∀ asked url, c.network.answer asked url = served url)
    (hstocks : Stocks (c.directory profile type kind) [] files) (hroot : mappings.lookup root = none)
    (hbound : ∀ urls : List String, urls.Nodup → (∀ url ∈ urls, Reaches served mappings root url) →
      urls.length ≤ c.rounds)
    (hapart : ∀ url url', Reaches served mappings root url → Reaches served mappings root url' →
      url ≠ url' → ¬cacheNames url <+: cacheNames url')
    (hfits : ∀ url, Reaches served mappings root url →
      FitsIn (c.directory profile type kind) url) :
    let dir := c.directory profile type kind
    let out := c.fetchSchema profile type kind root mappings (.start files)
    (∃ all s', out = (.ok ⟨root, target root dir, dir⟩, s') ∧
      Surveys served mappings root dir all [] s') ∨
    ∃ url e s', Reaches served mappings root url ∧ served url = .error e ∧
      out = (.error (.ofCache (.write url e.message)), s') := by
  intro dir out
  have hunfold : out = (do
      let p ← c.fetchInto root dir
      c.follow dir mappings c.rounds [root] [(root, p)]
      return ⟨root, p, dir⟩ : Step CachedSchema) (.start files) := by
    simp only [out, Store.fetchSchema, hroot]
    rfl
  rw [hunfold]
  -- the root is fetched first, and the rounds start from it
  have hnone : Fetched served dir [] (.start files) := ⟨rfl, by simp, keeps_start hstocks⟩
  rcases hnone.fetchInto (c := c) (List.not_mem_nil) (by simp [Apart])
    (hfits root .refl) (hanswers _ _) with ⟨s₁, hrun, hfetched⟩ | ⟨e, s₁, hserved, hrun⟩
  · have hstart : Surveys served mappings root dir [] [root] s₁ :=
      ⟨hfetched, by simp, by simp, by simp [Relation.ReflTransGen.refl], by simp⟩
    rw [bind_run_ok hrun]
    rcases hstart.follow hanswers hapart hfits c.rounds (by simpa using hbound) with
      ⟨all, s₂, hfollow, hsurveys⟩ | ⟨url, e, s₂, hreaches, hserved, hfollow⟩
    · exact .inl ⟨all, s₂, (bind_run_ok hfollow).trans rfl, hsurveys⟩
    · exact .inr ⟨url, e, s₂, hreaches, hserved, bind_run_error hfollow⟩
  · exact .inr ⟨root, e, s₁, .refl, hserved, bind_run_error hrun⟩

/-- **A schema and all that it reaches**, in a directory that is empty at first, where what is served for
an address does not change. No file stands for the schema, and what it reaches is finite, of addresses
whose copies stand apart and that the directory can hold. However many rounds there are, as long as
there are as many as addresses,

* the schema is had exactly if all that it reaches is served;
* then each address that it reaches was asked for once and no other one was, and all copies are there;
* else the error names an address that is reached and not served, and why. -/
theorem fetchSchema_closure {profile type kind root : String} {files made : FileTree}
    (hanswers : ∀ asked url, c.network.answer asked url = served url)
    (hrooted : files.Rooted) (hmade : files.makeDirectories (c.directory profile type kind) = .ok made)
    (hempty : made.names (c.directory profile type kind) = .ok [])
    (hroot : mappings.lookup root = none)
    (hfinite : {url | Reaches served mappings root url}.Finite)
    (hrounds : {url | Reaches served mappings root url}.ncard ≤ c.rounds)
    (hapart : ∀ url url', Reaches served mappings root url → Reaches served mappings root url' →
      url ≠ url' → ¬cacheNames url <+: cacheNames url')
    (hfits : ∀ url, Reaches served mappings root url →
      FitsIn (c.directory profile type kind) url) :
    let dir := c.directory profile type kind
    let out := c.fetchSchema profile type kind root mappings (.start files)
    ((∃ schema, out.1 = .ok schema) ↔
      ∀ url, Reaches served mappings root url → ∃ content, served url = .ok content) ∧
    (∀ schema, out.1 = .ok schema → schema = ⟨root, target root dir, dir⟩ ∧
      out.2.asked.Nodup ∧ (∀ url, url ∈ out.2.asked ↔ Reaches served mappings root url) ∧
      ∀ url content, Reaches served mappings root url → served url = .ok content →
        out.2.files.read (target url dir) = .ok content) ∧
    ∀ e, out.1 = .error e → ∃ url e', Reaches served mappings root url ∧
      served url = .error e' ∧ e = .ofCache (.write url e'.message) := by
  intro dir out
  -- addresses without repetition that are reached are no more than are reached in all
  have hbound : ∀ urls : List String, urls.Nodup →
      (∀ url ∈ urls, Reaches served mappings root url) → urls.length ≤ c.rounds := by
    intro urls hnodup hreached
    rw [← List.toFinset_card_of_nodup hnodup, ← Set.ncard_coe_finset]
    refine (Set.ncard_le_ncard ?_ hfinite).trans hrounds
    intro url hurl
    exact hreached url (by simpa using hurl)
  rcases fetchSchema_surveys hanswers (stocks_empty hrooted hmade hempty) hroot hbound hapart hfits with
    ⟨all, s', hout, hsurveys⟩ | ⟨url, e, s', hreaches, hserved, hout⟩
  · have hfetched := hsurveys.fetched
    rw [List.append_nil] at hfetched
    have hall : ∀ url, url ∈ all ↔ Reaches served mappings root url := fun url => hsurveys.mem_iff
    have hout' : out = (.ok ⟨root, target root dir, dir⟩, s') := hout
    rw [hout']
    refine ⟨iff_of_true ⟨_, rfl⟩ fun url hreaches => hfetched.had url ((hall url).2 hreaches), ?_, ?_⟩
    · rintro _ ⟨⟩
      refine ⟨rfl, ?_, fun url => ?_, fun url content hreaches hserved => ?_⟩
      · rw [hfetched.asked, List.nodup_reverse]
        simpa using hsurveys.nodup
      · rw [hfetched.asked, List.mem_reverse, hall]
      · refine hfetched.read_eq_ok ?_ ((hall url).2 hreaches) (hfits url hreaches) hserved
        exact fun u hu v hv hne => hapart u v ((hall u).1 hu) ((hall v).1 hv) hne
    · rintro e ⟨⟩
  · have hout' : out = (.error (.ofCache (.write url e.message)), s') := hout
    rw [hout']
    refine ⟨iff_of_false ?_ fun hall => ?_, ?_, ?_⟩
    · rintro ⟨_, ⟨⟩⟩
    · obtain ⟨content, hcontent⟩ := hall url hreaches
      cases hcontent.symm.trans hserved
    · rintro _ ⟨⟩
    · rintro _ ⟨⟩
      exact ⟨url, e, hreaches, hserved, rfl⟩

/-- Two schemas that bring in each other are had, and asked for once each. -/
theorem fetchSchema_closure_cycle :
    let first := "http://[::1]/a.xsd"
    let second := "http://[::1]/b.xsd"
    let served : Served := fun url =>
      if url = first then .ok (Text.Utf8.encode "<s><include schemaLocation='b.xsd'/></s>")
      else .ok (Text.Utf8.encode "<s><include schemaLocation='a.xsd'/></s>")
    let c : Store := ⟨.ofText "/cache", ⟨fun _ => served⟩, 8⟩
    ∃ schema s', c.fetchSchema "p" "t" "k" first [] (.start (.empty ["cache"])) = (.ok schema, s') ∧
      s'.asked.Nodup ∧ ∀ url, url ∈ s'.asked ↔ url = first ∨ url = second := by
  intro first second served c
  let dir := c.directory "p" "t" "k"
  have hmade : (FileTree.empty ["cache"]).makeDirectories dir =
      .ok ((FileTree.empty ["cache"]).prepare dir).2 := makeDirectories_eq_ok.2 (by rfl)
  have hfirst : ∀ url, Links served [] first url ↔ url = second := by
    intro url
    have hlinks : linksOf served first = [second] := by decide +kernel
    have hserved : served first =
        .ok (Text.Utf8.encode "<s><include schemaLocation='b.xsd'/></s>") := by decide +kernel
    rw [links_iff hserved, hlinks]
    simp
  have hsecond : ∀ url, Links served [] second url ↔ url = first := by
    intro url
    have hlinks : linksOf served second = [first] := by decide +kernel
    have hserved : served second =
        .ok (Text.Utf8.encode "<s><include schemaLocation='a.xsd'/></s>") := by decide +kernel
    rw [links_iff hserved, hlinks]
    simp
  have hreaches : ∀ url, Reaches served [] first url ↔ url = first ∨ url = second := by
    intro url
    constructor
    · intro h
      induction h with
      | refl => exact .inl rfl
      | tail _ hlink ih =>
        rcases ih with rfl | rfl
        · exact .inr ((hfirst _).1 hlink)
        · exact .inl ((hsecond _).1 hlink)
    · rintro (rfl | rfl)
      · exact .refl
      · exact .single ((hfirst _).2 rfl)
  have hset : {url | Reaches served [] first url} = {first, second} := Set.ext hreaches
  have hapart : ∀ url url', Reaches served [] first url → Reaches served [] first url' → url ≠ url' →
      ¬cacheNames url <+: cacheNames url' := by
    intro url url' hurl hurl' hne
    rw [hreaches] at hurl hurl'
    rcases hurl with rfl | rfl <;> rcases hurl' with rfl | rfl
    · exact absurd rfl hne
    · decide +kernel
    · decide +kernel
    · exact absurd rfl hne
  have hfits : ∀ url, Reaches served [] first url → FitsIn dir url := by
    intro url hurl
    rw [hreaches] at hurl
    rcases hurl with rfl | rfl
    · exact ⟨by decide +kernel, by decide +kernel⟩
    · exact ⟨by decide +kernel, by decide +kernel⟩
  have hserves : ∀ url, Reaches served [] first url → ∃ content, served url = .ok content := by
    intro url _
    simp only [served]
    split_ifs <;> exact ⟨_, rfl⟩
  have hserved : ∀ asked url, c.network.answer asked url = served url := fun _ _ => rfl
  obtain ⟨hok, hclosure, -⟩ := fetchSchema_closure hserved (rooted_empty ["cache"]) hmade
    (by decide +kernel) rfl (hset ▸ Set.toFinite _)
    (by rw [hset]; exact (Set.ncard_insert_le _ _).trans (by simp [c])) hapart hfits
  obtain ⟨schema, hschema⟩ := hok.2 hserves
  obtain ⟨-, hnodup, hasked, -⟩ := hclosure schema hschema
  clear hok hclosure
  generalize c.fetchSchema "p" "t" "k" first [] (.start (.empty ["cache"])) = out at *
  exact ⟨schema, out.2, Prod.ext hschema rfl, hnodup, fun url => (hasked url).trans (hreaches url)⟩

/-- A schema is not had whose copy would have a name that is too long for a file. -/
theorem fetchSchema_too_long {profile type kind : String} {files : FileTree}
    (hroot : mappings.lookup url = none)
    (hlong : ∃ name ∈ cacheNames url, Files.FileTree.nameLimit < name.utf8ByteSize) :
    ∃ e, (c.fetchSchema profile type kind url mappings (.start files)).1 = .error e := by
  obtain ⟨e, he⟩ := (Store.fetching c url (c.directory profile type kind) (.start files)).too_long
    List.not_mem_nil hlong
  refine ⟨e, ?_⟩
  unfold Store.fetchSchema
  rw [hroot]
  dsimp only
  cases h : c.fetchInto url (c.directory profile type kind) (.start files) with
  | mk outcome s' =>
    rw [h] at he
    cases he
    rw [bind_run_error h]

/-- **A schema that is served is not had** where its name is too long for a file, though its address is
in normal form, the directory empty, and nothing else reached. -/
theorem fetchSchema_name_too_long :
    let name := String.ofList (List.replicate 256 'a')
    let url := "http://[::1]/" ++ name
    let served : Served := fun _ => .ok (Text.Utf8.encode "<a/>")
    let c : Store := ⟨.ofText "/cache", ⟨fun _ => served⟩, 8⟩
    let files := FileTree.empty ["cache"]
    (Url.parse url).map Url.render = .ok url ∧ files.Rooted ∧
      (files.makeDirectories (c.directory "p" "t" "k") >>= fun made =>
        made.names (c.directory "p" "t" "k")) = .ok [] ∧
      (∀ url', Reaches served [] url url' ↔ url' = url) ∧
      ∃ e, (c.fetchSchema "p" "t" "k" url [] (.start files)).1 = .error e := by
  intro name url served c files
  -- the characters of a long text are slow to compute
  have hchars : url.toList = "http://[::1]/".toList ++ List.replicate 256 'a' :=
    String.toList_append.trans (congrArg _ String.toList_ofList)
  have hparse : ∀ s : String, s.toList = "http://[::1]/".toList ++ List.replicate 256 'a' →
      Url.parse s = .ok ⟨"http", ⟨"", ""⟩, some (.ipv6 [0, 0, 0, 0, 0, 0, 0, 1]), none,
        .segments [name], none, none⟩ := by
    intro s hs
    unfold Url.parse Url.read Url.clean
    rw [hs]
    decide +kernel
  replace hparse := hparse url hchars
  refine ⟨?_, rooted_empty _, by decide +kernel, fun url' => ?_, ?_⟩
  · rw [hparse]
    have hpath : (Url.Route.segments [name]).render = "/" ++ name := String.empty_append
    refine congrArg Except.ok ?_
    simp only [Url.render, Url.renderAuthority, Url.Userinfo.render, hpath, Option.map_none,
      Option.getD_none, String.append_empty, and_self, if_true]
    rw [← String.append_assoc]
    exact congrArg (· ++ name) (by decide +kernel)
  · have hlinks : ∀ url', ¬Links served [] url url' := by
      intro url'
      have hnone : linksOf served url = [] := by decide +kernel
      rw [links_iff rfl, hnone]
      simp
    constructor
    · intro h
      induction h with
      | refl => rfl
      | tail _ hlink ih => exact absurd (ih ▸ hlink) (hlinks _)
    · rintro rfl
      exact .refl
  · have hlong : ∃ name ∈ cacheNames url, Files.FileTree.nameLimit < name.utf8ByteSize := by
      have hdisk : diskName name = name := by
        unfold diskName name
        rw [String.toList_ofList]
        decide +kernel
      have hne : name ≠ "" := by
        intro hempty
        have hlist := congrArg String.toList hempty
        rw [String.toList_ofList] at hlist
        cases hlist
      have hlast : withLastName url false [name] = [name] := by
        unfold withLastName
        split
        · next h => cases h
        · next h => exact absurd (Option.some.inj h) hne
        · rfl
      refine ⟨name, ?_, by decide +kernel⟩
      have hsegments : [name].map diskName = [name] := congrArg (· :: []) hdisk
      rw [cacheNames_eq hparse rfl]
      refine List.mem_cons_of_mem _ (List.mem_filter.2 ⟨?_, by simpa using hne⟩)
      change name ∈ withLastName url false ([name].map diskName)
      rw [hsegments, hlast]
      exact List.mem_singleton.2 rfl
    exact fetchSchema_too_long rfl hlong

end XmlAudit.Remote
