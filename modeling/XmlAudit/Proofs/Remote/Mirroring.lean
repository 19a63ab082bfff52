import XmlAudit.Proofs.Url.Following
import XmlAudit.Proofs.Url.Overlong
import XmlAudit.Remote.Reference

/-!
# References between copies

A relative reference leads from the copy of an address to the copy of the address that it leads to.

* `Path.normalized`: a path in which steps up are taken back with the names before them.
* `cacheNames_of_isDiskName`: the copy of an address without a query has the names of its segments.
* `cachePath_webReference`: where the copy of the address behind a reference is kept.
-/

namespace XmlAudit

/-! ## Steps up on disk -/

namespace Files.Path

/-- Names after which the steps of segments are taken: a step up takes back the name before it. -/
def settled (done : List String) : List String → List String
  | [] => done
  | s :: rest =>
    if isIdle s then settled done rest
    else if s = ".." ∧ done ≠ [] ∧ done.getLast? ≠ some ".." then settled done.dropLast rest
    else settled (done ++ [s]) rest

/-- **A path without the steps up that it can do without**, whatever there is on disk. The root has
nothing above it. -/
def normalized (p : Path) : Path :=
  if p.isAbsolute then assemble (some "") ((settled [] p.segments).dropWhile (· = ".."))
  else assemble none (settled [] p.segments)

variable {names done rest : List String}

theorem settled_plain (h : ∀ s ∈ names, IsPlain s) : settled done names = done ++ names := by
  induction names generalizing done with
  | nil => rw [settled, List.append_nil]
  | cons s names ih =>
    obtain ⟨hs, hnames⟩ := List.forall_mem_cons.1 h
    rw [settled, hs.busy, if_neg (by decide), if_neg (fun hup => hs.ne_up hup.1), ih hnames,
      List.append_assoc, List.singleton_append]

/-- **Each step up takes back a name**, as long as there are names. -/
theorem settled_ups (h : ∀ s ∈ done, IsPlain s) {ups : Nat} (hups : ups ≤ done.length) :
    settled done (List.replicate ups ".." ++ rest) = settled (done.take (done.length - ups)) rest := by
  induction ups generalizing done with
  | zero => simp
  | succ ups ih =>
    have hne : done ≠ [] := by
      rintro rfl
      cases hups
    have hlast : done.getLast? ≠ some ".." := fun hup => (h _ (List.mem_of_getLast? hup)).ne_up rfl
    have hdrop : ∀ s ∈ done.dropLast, IsPlain s := fun s hs => h s (List.mem_of_mem_dropLast hs)
    have hidle : isIdle ".." = false := by decide
    rw [List.replicate_succ, List.cons_append, settled, hidle, if_neg (by decide),
      if_pos ⟨rfl, hne, hlast⟩, ih hdrop (by rw [List.length_dropLast]; omega), List.length_dropLast,
      List.dropLast_eq_take, List.take_take]
    congr 2
    omega

theorem settled_append (before after : List String) :
    settled done (before ++ after) = settled (settled done before) after := by
  induction before generalizing done with
  | nil => rfl
  | cons s before ih =>
    rw [List.cons_append, settled, settled]
    split_ifs <;> exact ih

/-- **Names followed by steps up and other names**, where there are enough of the first ones. -/
theorem normalized_names (hnames : ArePlain names) (hrest : ArePlain rest) {ups : Nat}
    (hups : ups ≤ names.length) :
    normalized ⟨names ++ (List.replicate ups ".." ++ rest)⟩ =
      ⟨names.take (names.length - ups) ++ rest⟩ := by
  have habsolute : isAbsolute ⟨names ++ (List.replicate ups ".." ++ rest)⟩ = false := by
    obtain ⟨s, others, hs⟩ := List.exists_cons_of_ne_nil hnames.ne_nil
    have hhead : (names ++ (List.replicate ups ".." ++ rest)).head? = names.head? := by
      rw [hs]
      rfl
    rw [isAbsolute, lead_other (hhead ▸ hnames.head?_ne (by decide))
      (hhead ▸ hnames.head?_ne (by decide))]
    rfl
  have htake : ∀ s ∈ names.take (names.length - ups), IsPlain s :=
    fun s hs => hnames.plain s (List.mem_of_mem_take hs)
  rw [normalized, habsolute, if_neg (by decide), settled_append, settled_plain hnames.plain,
    List.nil_append, settled_ups hnames.plain hups, settled_plain hrest.plain]
  cases hall : names.take (names.length - ups) ++ rest with
  | nil => exact absurd (List.append_eq_nil_iff.1 hall).2 hrest.ne_nil
  | cons s others => rfl

/-- A path of names followed by steps up and other names. -/
theorem join_ups (hnames : ArePlain names) (hrest : ArePlain rest) (ups : Nat) :
    join ⟨names⟩ ⟨List.replicate ups ".." ++ rest⟩ = ⟨names ++ (List.replicate ups ".." ++ rest)⟩ := by
  have hhead : ∀ s, isIdle s → (List.replicate ups ".." ++ rest).head? ≠ some s := by
    intro s hs
    cases ups with
    | zero => exact hrest.head?_ne hs
    | succ ups =>
      rintro ⟨⟩
      revert hs
      decide
  have habsolute : isAbsolute ⟨List.replicate ups ".." ++ rest⟩ = false := by
    rw [isAbsolute, lead_other (hhead "" (by decide)) (hhead "." (by decide))]
    rfl
  have hlast : names.getLast? ≠ some "" :=
    fun h => (hnames.plain _ (List.mem_of_getLast? h)).ne_empty rfl
  rw [join, habsolute, if_neg (by decide), if_neg hlast]

/-- The directory of a path of names. -/
theorem parent?_names {s : String} (hnames : ArePlain names) (hs : IsPlain s) :
    parent? ⟨names ++ [s]⟩ = some ⟨names⟩ := by
  have hall : ArePlain (names ++ [s]) := by
    refine arePlain_of_forall (fun t ht => ?_) (by simp)
    rcases List.mem_append.1 ht with ht | ht
    · exact hnames.plain t ht
    · rwa [List.mem_singleton.1 ht]
  rw [parent?_of_lead hall.lead_eq hs.busy, hnames.trimIdle_eq]
  obtain ⟨t, others, rfl⟩ := List.exists_cons_of_ne_nil hnames.ne_nil
  rfl

end Files.Path

namespace Remote

open Files (Path)
open Url (upAndDown)

variable {u : Url} {url base : String} {host : Url.Host} {ups : Nat} {down : List String}

/-! ## The names of copies -/

theorem diskName_of_isDiskName {s : String} (h : IsDiskName s) : diskName s = s := by
  have hkept : (s.toList.map fun c => if isKept c then c else '_') = s.toList :=
    (List.map_congr_left fun c hc => if_pos (h.kept c hc)).trans (List.map_id _)
  have hdots : s.toList.all (· = '.') = false := by
    obtain ⟨c, hc, hdot⟩ := h.undotted
    exact List.all_eq_false.2 ⟨c, hc, by simpa using hdot⟩
  rw [diskName, hkept, hdots, if_neg (by decide), String.ofList_toList]

theorem IsDiskName.ne_empty {s : String} (h : IsDiskName s) : s ≠ "" := by
  rintro rfl
  obtain ⟨c, hc, -⟩ := h.undotted
  cases hc

/-- **The copy of an address without a query** has the names of its segments. -/
theorem cacheNames_of_isDiskName (hparse : Url.parse url = .ok u) (hhost : u.host = some host)
    (hquery : u.query = none) (hsegments : ∀ s ∈ u.segments, IsDiskName s) (hne : u.segments ≠ []) :
    cacheNames url = hostName u host :: u.segments := by
  have hnames : u.segments.map diskName = u.segments :=
    (List.map_congr_left fun s hs => diskName_of_isDiskName (hsegments s hs)).trans (List.map_id _)
  have hlast : u.segments.getLast? = some (u.segments.getLast hne) := List.getLast?_eq_some_getLast hne
  have hwith : withLastName url false u.segments = u.segments := by
    unfold withLastName
    rw [hlast]
    split
    · next h => cases h
    · next h => exact absurd (Option.some.inj h) (hsegments _ (List.getLast_mem hne)).ne_empty
    · rfl
  have hkept : u.segments.filter (· ≠ "") = u.segments := by
    rw [List.filter_eq_self]
    exact fun s hs => decide_eq_true (hsegments s hs).ne_empty
  rw [cacheNames_eq hparse hhost, hquery, Option.isSome_none, hnames, hwith, hkept]

/-- The path of a reference up and down. -/
theorem ofText_upAndDown (hdown : ∀ s ∈ down, IsDiskName s) (hne : down ≠ []) :
    Path.ofText (upAndDown ups down) = ⟨List.replicate ups ".." ++ down⟩ := by
  refine Path.ofText_text (p := ⟨List.replicate ups ".." ++ down⟩) (by simp [hne]) ?_
  intro s hs hmem
  exact Url.ne_of_isKept (Url.of_mem_words hdown hs _ hmem) (by decide) rfl

/-! ## References -/

/-- The directory of the copy of an address. -/
theorem parent?_cachePath (hbase : Url.parse base = .ok u) (hhost : u.host = some host)
    (hquery : u.query = none) (hsegments : ∀ s ∈ u.segments, IsDiskName s) (hsome : u.segments ≠ []) :
    Path.ArePlain (hostName u host :: u.segments.dropLast) ∧
      (cachePath base).parent? = some ⟨hostName u host :: u.segments.dropLast⟩ := by
  have hnames := cacheNames_of_isDiskName hbase hhost hquery hsegments hsome
  have hdirs : Path.ArePlain (hostName u host :: u.segments.dropLast) := by
    refine Path.arePlain_of_forall (fun s hs => (arePlain_cacheNames base).plain s ?_)
      (List.cons_ne_nil _ _)
    rw [hnames]
    rcases List.mem_cons.1 hs with rfl | hs
    · exact List.mem_cons_self
    · exact List.mem_cons_of_mem _ (List.mem_of_mem_dropLast hs)
  have hlast : Path.IsPlain (u.segments.getLast hsome) :=
    (hsegments _ (List.getLast_mem hsome)).isPlain
  have hsplit : hostName u host :: u.segments =
      hostName u host :: u.segments.dropLast ++ [u.segments.getLast hsome] := by
    rw [List.cons_append, List.dropLast_append_getLast]
  refine ⟨hdirs, ?_⟩
  rw [cachePath, hnames, hsplit, Path.parent?_names hdirs hlast]

/-- The address behind a reference, as written. -/
theorem webReference?_upAndDown (hbase : Url.parse base = .ok u) (hweb : u.isWeb)
    (hsegments : ∀ s ∈ u.segments, IsDiskName s) (hdown : ∀ s ∈ down, IsDiskName s) (hne : down ≠ []) :
    webReference? base (upAndDown ups down) = some (u.along ups down).render := by
  unfold webReference?
  rw [hbase, Option.bind_eq_bind, Except.toOption, Option.bind_some,
    Url.join_upAndDown (Url.isOverNet_of_parse hbase hweb) hsegments ups hdown hne]
  exact if_pos hweb

/-- Where a reference up and down leads on disk. -/
theorem normalized_join_upAndDown {name : String}
    (hdirs : Path.ArePlain (name :: u.segments.dropLast)) (hups : ups ≤ u.segments.dropLast.length)
    (hdown : ∀ s ∈ down, IsDiskName s) (hne : down ≠ []) :
    (Path.join ⟨name :: u.segments.dropLast⟩ (Path.ofText (upAndDown ups down))).normalized =
      ⟨name :: (u.along ups down).segments⟩ := by
  have hplain : Path.ArePlain down := Path.arePlain_of_forall (fun s hs => (hdown s hs).isPlain) hne
  have htake : (name :: u.segments.dropLast).take ((name :: u.segments.dropLast).length - ups) =
      name :: u.segments.dropLast.take (u.segments.length - 1 - ups) := by
    have hlength : (name :: u.segments.dropLast).length - ups = u.segments.length - 1 - ups + 1 := by
      rw [List.length_dropLast] at hups
      rw [List.length_cons, List.length_dropLast]
      omega
    rw [hlength, List.take_succ_cons]
  rw [ofText_upAndDown hdown hne, Path.join_ups hdirs hplain,
    Path.normalized_names hdirs hplain (by rw [List.length_cons]; omega), htake]
  rfl

/-- **A reference leads from copy to copy as it does from address to address**: the path of the copy
of the address behind it is the one that it leads to from the directory of the copy of the base, once
its steps up are taken. No label of the host beyond ASCII may be longer than what is read. -/
theorem cachePath_webReference (hbase : Url.parse base = .ok u) (hweb : u.isWeb)
    (hquery : u.query = none) (hshort : ∀ host, u.host = some host → host.IsShort)
    (hsegments : ∀ s ∈ u.segments, IsDiskName s) (hups : ups ≤ u.segments.dropLast.length)
    (hdown : ∀ s ∈ down, IsDiskName s) (hne : down ≠ []) :
    ∃ dir resolved, (cachePath base).parent? = some dir ∧
      webReference? base (upAndDown ups down) = some resolved ∧
      cachePath resolved = (dir.join (Path.ofText (upAndDown ups down))).normalized := by
  have hover := Url.isOverNet_of_parse hbase hweb
  obtain ⟨host, cs, hhost, hread⟩ := hover.host
  obtain ⟨ss, hss, hroute⟩ := hover.route
  have hsome : u.segments ≠ [] := by rwa [Url.segments, hroute]
  obtain ⟨hdirs, hparent⟩ := parent?_cachePath hbase hhost hquery hsegments hsome
  -- The address behind the reference is read back from its written form.
  obtain ⟨hback, hapart⟩ := Url.Host.parse_render hread (hshort host hhost)
  have hnames := @Url.isDiskName_of_mem_along u down ups hsegments hdown
  have hsteps : (u.along ups down).segments ≠ [] := List.append_ne_nil_of_right_ne_nil _ hne
  have hparse : Url.parse (u.along ups down).render = .ok (u.along ups down) :=
    Url.parse_render (hover.along ups hne) hhost hback hapart rfl hnames hsteps rfl rfl
  refine ⟨_, _, hparent, webReference?_upAndDown hbase hweb hsegments hdown hne, ?_⟩
  rw [normalized_join_upAndDown hdirs hups hdown hne, cachePath,
    cacheNames_of_isDiskName hparse hhost rfl hnames hsteps]
  rfl

/-- A reference between two schemas at a host. -/
theorem cachePath_webReference_example :
    ∃ dir resolved,
      (cachePath "http://example.com:8080/schemas/ubl/main.xsd").parent? = some dir ∧
      webReference? "http://example.com:8080/schemas/ubl/main.xsd"
        (upAndDown 1 ["common", "types.xsd"]) = some resolved ∧
      cachePath resolved = (dir.join (Path.ofText (upAndDown 1 ["common", "types.xsd"]))).normalized := by
  have hbase : Url.parse "http://example.com:8080/schemas/ubl/main.xsd" =
      .ok ⟨"http", ⟨"", ""⟩, some (.domain "example.com"), some 8080,
        .segments ["schemas", "ubl", "main.xsd"], none, none⟩ := by
    decide +kernel
  have hsegments : ∀ s ∈ ["schemas", "ubl", "main.xsd"], IsDiskName s := by decide +kernel
  have hdown : ∀ s ∈ ["common", "types.xsd"], IsDiskName s := by decide +kernel
  refine cachePath_webReference hbase rfl rfl ?_ hsegments (by decide) hdown (List.cons_ne_nil _ _)
  rintro _ ⟨⟩ _ ⟨⟩
  have hparts : ∀ part ∈ Text.splitFrom '.' [] "example.com".toList,
      Text.dropWord Url.Name.mark part = none := by
    decide +kernel
  intro part hpart rest hrest
  rw [hparts part hpart] at hrest
  cases hrest

/-- **A reference does not lead from copy to copy at a host of which the written form is too long**: that
is no address, so that the file behind it has a name of its own. -/
theorem cachePath_webReference_of_not_isShort (hbase : Url.parse base = .ok u) (hweb : u.isWeb)
    (hquery : u.query = none) (hhost : u.host = some host) (hlong : ¬host.IsShort)
    (hsegments : ∀ s ∈ u.segments, IsDiskName s) (hups : ups ≤ u.segments.dropLast.length)
    (hdown : ∀ s ∈ down, IsDiskName s) (hne : down ≠ []) :
    ∃ dir resolved, (cachePath base).parent? = some dir ∧
      webReference? base (upAndDown ups down) = some resolved ∧
      cachePath resolved ≠ (dir.join (Path.ofText (upAndDown ups down))).normalized := by
  have hover := Url.isOverNet_of_parse hbase hweb
  obtain ⟨host', cs, hhost', hread⟩ := hover.host
  obtain rfl : host' = host := Option.some.inj (hhost'.symm.trans hhost)
  obtain ⟨ss, hss, hroute⟩ := hover.route
  have hsome : u.segments ≠ [] := by rwa [Url.segments, hroute]
  obtain ⟨hdirs, hparent⟩ := parent?_cachePath hbase hhost hquery hsegments hsome
  -- The address behind the reference is not read.
  obtain ⟨hback, hapart⟩ := Url.Host.parse_render_of_not_isShort hread hlong
  have hnonempty : host'.render.toList ≠ [] := fun hnil =>
    Url.Host.render_ne_empty_of_parse hread (String.toList_eq_nil_iff.1 hnil)
  have hnames := @Url.isDiskName_of_mem_along u down ups hsegments hdown
  have hsteps : (u.along ups down).segments ≠ [] := List.append_ne_nil_of_right_ne_nil _ hne
  have hroute' : (u.along ups down).route = .segments (u.along ups down).segments := rfl
  have hparse : Url.parse (u.along ups down).render = .error .badName := by
    rw [← String.ofList_toList (s := (u.along ups down).render),
      Url.toList_render (u := u.along ups down) hhost hroute' rfl rfl,
      Url.parse_text (hover.along ups hne) hapart hnonempty hroute' hnames hsteps rfl rfl, hback]
    rfl
  refine ⟨_, _, hparent, webReference?_upAndDown hbase hweb hsegments hdown hne, fun heq => ?_⟩
  rw [normalized_join_upAndDown hdirs hups hdown hne, cachePath, cacheNames, hparse] at heq
  exact hsteps (List.cons.inj (congrArg Path.segments heq)).2.symm

/-- An address at a host, with the characters of the host. -/
def baseAt (label : List Char) : String := String.ofList ("http://".toList ++ (label ++ "/a/b.xsd".toList))

/-- Where it leads to. -/
def urlAt (label : List Char) : Url :=
  ⟨"http", ⟨"", ""⟩, some (Url.Host.ofLabel label), none, .segments ["a", "b.xsd"], none, none⟩

theorem isOverNet_urlAt {label : List Char} (h : Url.Host.AreScattered label) :
    Url.IsOverNet (urlAt label) where
  web := rfl
  user := Url.isEncoded_empty
  password := Url.isEncoded_empty
  host := ⟨_, _, rfl, h.parse_eq⟩
  number _ hnone := nomatch hnone
  route := ⟨["a", "b.xsd"], by decide, rfl⟩

theorem isDiskName_of_mem_urlAt (label : List Char) : ∀ s ∈ (urlAt label).segments, IsDiskName s := by
  have hall : ∀ s ∈ ["a", "b.xsd"], IsDiskName s := by decide +kernel
  exact hall

theorem parse_baseAt {label : List Char} (h : Url.Host.AreScattered label) :
    Url.parse (baseAt label) = .ok (urlAt label) := by
  have htext : "http://".toList ++ (label ++ "/a/b.xsd".toList) =
      (urlAt label).netText label (urlAt label).segments := by
    simp [Url.netText, Url.authorityText, Url.routeText, urlAt, Url.segments, Url.numberText,
      Url.Userinfo.render]
  have hapart := Url.Host.isApart_of_allowed (Url.Host.allowed_of_areIdeographs h.ideographs)
  have hroute : (urlAt label).route = .segments (urlAt label).segments := rfl
  have hparse := Url.parse_text (isOverNet_urlAt h) hapart h.ne_nil hroute
    (isDiskName_of_mem_urlAt label) (List.cons_ne_nil _ _) rfl rfl
  rw [h.parse_eq, ← htext] at hparse
  exact hparse

/-- A reference from an address at such a host does not lead from copy to copy. -/
theorem cachePath_webReference_scattered :
    ∃ u dir resolved, Url.parse (baseAt Url.Host.scattered) = .ok u ∧ u.isWeb ∧ u.query = none ∧
      u.fragment = none ∧ (∀ s ∈ u.segments, IsDiskName s) ∧
      (cachePath (baseAt Url.Host.scattered)).parent? = some dir ∧
      webReference? (baseAt Url.Host.scattered) (upAndDown 0 ["c.xsd"]) = some resolved ∧
      cachePath resolved ≠ (dir.join (Path.ofText (upAndDown 0 ["c.xsd"]))).normalized := by
  have hbase := parse_baseAt Url.Host.areScattered_scattered
  have hweb := (isOverNet_urlAt Url.Host.areScattered_scattered).web
  have hlong := Url.Host.areScattered_scattered.not_isShort
  have hdown : ∀ s ∈ ["c.xsd"], IsDiskName s := by decide +kernel
  obtain ⟨dir, resolved, h⟩ := cachePath_webReference_of_not_isShort hbase hweb rfl rfl hlong
    (isDiskName_of_mem_urlAt _) (Nat.zero_le _) hdown (List.cons_ne_nil _ _)
  exact ⟨urlAt Url.Host.scattered, dir, resolved, hbase, hweb, rfl, rfl, isDiskName_of_mem_urlAt _, h⟩

end Remote

end XmlAudit
