import XmlAudit.Proofs.Remote.Stock

/-!
# What copies hold

A cache tells copies apart by their paths, not by their addresses. Of the addresses that share a path,
the first one counts.

* `Store.fetchEach`: calls for one address after another.
* `Accounts`: how a stock comes about.
* `fetchInto_beside`, `exists_stock`: what one call does beside a stock, and what calls in a row do.
* `copies_hold_first`: which calls succeed, and whose content their copies hold.
-/

namespace XmlAudit.Remote

open Files (Path FileTree)
open Files.FileTree
open Store (target)

/-- The session behind calls for the copies of addresses in a directory, in order. -/
def Store.fetchEach (c : Store) (dir : Path) (urls : List String) (s : Session) : Session :=
  urls.foldl (fun s url => (c.fetchInto url dir s).2) s

variable {c : Store} {dir : Path} {served : String → List UInt8} {s : Session} {stock : Stock}
  {url : String} {urls : List String}

theorem Store.fetchEach_nil (s : Session) : c.fetchEach dir [] s = s := rfl

theorem Store.fetchEach_append (before after : List String) (s : Session) :
    c.fetchEach dir (before ++ after) s = c.fetchEach dir after (c.fetchEach dir before s) :=
  List.foldl_append

/-- Some call for an address whose copy has some names succeeds. -/
def Stored (c : Store) (dir : Path) (urls : List String) (s : Session) (names : List String) : Prop :=
  ∃ before url after, urls = before ++ url :: after ∧
    (∃ p, (c.fetchInto url dir (c.fetchEach dir before s)).1 = .ok p) ∧ cacheNames url = names

theorem stored_concat {names : List String} :
    Stored c dir (urls ++ [url]) s names ↔ Stored c dir urls s names ∨
      (∃ p, (c.fetchInto url dir (c.fetchEach dir urls s)).1 = .ok p) ∧ cacheNames url = names := by
  constructor
  · rintro ⟨before, url', after, h, hok, hnames⟩
    rcases List.eq_nil_or_concat after with rfl | ⟨after, last, rfl⟩
    · obtain ⟨rfl, hlast⟩ := List.append_inj' h rfl
      cases hlast
      exact .inr ⟨hok, hnames⟩
    · rw [List.concat_eq_append, ← List.cons_append, ← List.append_assoc] at h
      obtain ⟨rfl, -⟩ := List.append_inj' h rfl
      exact .inl ⟨before, url', after, rfl, hok, hnames⟩
  · rintro (⟨before, url', after, rfl, hok, hnames⟩ | ⟨hok, hnames⟩)
    · exact ⟨before, url', after ++ [url], by simp, hok, hnames⟩
    · exact ⟨urls, url, [], rfl, hok, hnames⟩

/-- **How a stock comes about**: its files stand apart, all addresses are in it or not to be had beside
it, and each file holds what is served for the first address with its names. -/
structure Accounts (served : String → List UInt8) (urls : List String) (stock : Stock) : Prop where
  apart : ∀ a ∈ stock, ∀ b ∈ stock, ¬Nested a.1 b.1
  settled : ∀ url ∈ urls, ∃ a ∈ stock, a.1 = cacheNames url ∨ Nested a.1 (cacheNames url)
  first : ∀ a ∈ stock, ∃ u, urls.find? (cacheNames · = a.1) = some u ∧ a.2 = served u

theorem accounts_nil : Accounts served [] [] := ⟨by simp, by simp, by simp⟩

namespace Accounts

theorem find?_concat {names : List String} {u url : String}
    (h : urls.find? (cacheNames · = names) = some u) :
    (urls ++ [url]).find? (cacheNames · = names) = some u := by
  rw [List.find?_append, h]
  rfl

/-- An address that is in the stock, or not to be had beside it, changes nothing. -/
theorem concat_settled (h : Accounts served urls stock)
    (hurl : ∃ a ∈ stock, a.1 = cacheNames url ∨ Nested a.1 (cacheNames url)) :
    Accounts served (urls ++ [url]) stock := by
  refine ⟨h.apart, List.forall_mem_append.2 ⟨h.settled, by simpa using hurl⟩, fun a ha => ?_⟩
  obtain ⟨u, hu, hcontent⟩ := h.first a ha
  exact ⟨u, find?_concat hu, hcontent⟩

/-- An address that stands apart is the first one with its names. -/
theorem concat_apart (h : Accounts served urls stock) (hnew : stock.lookup (cacheNames url) = none)
    (hapart : ∀ a ∈ stock, ¬Nested a.1 (cacheNames url)) :
    Accounts served (urls ++ [url]) ((cacheNames url, served url) :: stock) := by
  refine ⟨forall_not_nested_cons h.apart hapart, ?_, ?_⟩
  · refine List.forall_mem_append.2 ⟨fun url' hurl' => ?_, ?_⟩
    · obtain ⟨a, ha, hsettled⟩ := h.settled url' hurl'
      exact ⟨a, List.mem_cons_of_mem _ ha, hsettled⟩
    · simp
  · rw [List.forall_mem_cons]
    refine ⟨⟨url, ?_, rfl⟩, fun a ha => ?_⟩
    · have hnone : urls.find? (cacheNames · = cacheNames url) = none := by
        rw [List.find?_eq_none]
        intro url' hurl' hsame
        obtain ⟨a, ha, hsettled⟩ := h.settled url' hurl'
        rw [of_decide_eq_true hsame] at hsettled
        exact hsettled.elim (lookup_eq_none.1 hnew a ha) (hapart a ha)
      rw [List.find?_append, hnone]
      simp
    · obtain ⟨u, hu, hcontent⟩ := h.first a ha
      exact ⟨u, find?_concat hu, hcontent⟩

end Accounts

/-- **A call beside a stock**, after calls for some addresses. It succeeds unless its names are nested
with some that are in stock, and only if it succeeds are they in stock behind it. -/
theorem fetchInto_beside (hkeeps : Keeps dir stock s) (haccounts : Accounts served urls stock)
    (hserved : ∀ asked url, c.network.answer asked url = .ok (served url)) (hfits : FitsIn dir url) :
    ∃ stock', Keeps dir stock' (c.fetchInto url dir s).2 ∧ Accounts served (urls ++ [url]) stock' ∧
      ((c.fetchInto url dir s).1 = .ok (target url dir) ∧
          (∀ a ∈ stock, ¬Nested a.1 (cacheNames url)) ∧
          (∀ names, (stock'.lookup names).isSome ↔
            (stock.lookup names).isSome ∨ cacheNames url = names) ∨
        (∃ e, (c.fetchInto url dir s).1 = .error e) ∧
          (∃ a ∈ stock, Nested a.1 (cacheNames url)) ∧ stock' = stock) := by
  -- a copy in stock is not asked for; any other is nested with a file in stock, or it is kept
  cases hlookup : stock.lookup (cacheNames url) with
  | some content =>
    obtain ⟨a, ha, hnames, -⟩ := exists_mem_of_lookup hlookup
    rw [hkeeps.fetchInto_known (by simp [hlookup])]
    refine ⟨stock, hkeeps, haccounts.concat_settled ⟨a, ha, .inl hnames⟩,
      .inl ⟨rfl, ?_, fun names => ?_⟩⟩
    · exact fun b hb => hnames ▸ haccounts.apart b hb a ha
    · rw [or_iff_left_of_imp]
      rintro rfl
      rw [hlookup]
      rfl
  | none =>
    by_cases hnested : ∃ a ∈ stock, Nested a.1 (cacheNames url)
    · obtain ⟨e, he⟩ := hkeeps.fetchInto_nested hfits hlookup hnested (hserved _ _)
      obtain ⟨a, ha, hrelated⟩ := hnested
      rw [he]
      exact ⟨stock, ⟨hkeeps.stocks, hkeeps.held⟩, haccounts.concat_settled ⟨a, ha, .inr hrelated⟩,
        .inr ⟨⟨e, rfl⟩, ⟨a, ha, hrelated⟩, rfl⟩⟩
    · have hapart : ∀ a ∈ stock, ¬Nested a.1 (cacheNames url) :=
        fun a ha hrelated => hnested ⟨a, ha, hrelated⟩
      obtain ⟨s', hs', -, hkeeps'⟩ := hkeeps.fetchInto_apart hfits hlookup hapart (hserved _ _)
      rw [hs']
      refine ⟨_, hkeeps', haccounts.concat_apart hlookup hapart, .inl ⟨rfl, hapart, fun names => ?_⟩⟩
      rw [List.lookup_cons]
      by_cases hsame : names = cacheNames url
      · simp [hsame]
      · rw [beq_false_of_ne hsame]
        simp [Ne.symm hsame]

/-- **Calls for one address after another keep a stock**: the files for which a call has succeeded. -/
theorem exists_stock {files : FileTree} (hempty : Stocks dir [] files)
    (hserved : ∀ asked url, c.network.answer asked url = .ok (served url))
    (hfits : ∀ url ∈ urls, FitsIn dir url) :
    ∃ stock, Keeps dir stock (c.fetchEach dir urls (.start files)) ∧ Accounts served urls stock ∧
      ∀ names, (stock.lookup names).isSome ↔ Stored c dir urls (.start files) names := by
  -- by induction from the end, as the last call meets the stock of those before it
  induction urls using List.reverseRecOn with
  | nil =>
    refine ⟨[], keeps_start hempty, accounts_nil, fun names => ?_⟩
    refine iff_of_false (by simp) ?_
    rintro ⟨before, url, after, h, -⟩
    exact List.append_ne_nil_of_right_ne_nil before (List.cons_ne_nil _ _) h.symm
  | append_singleton urls url ih =>
    rw [List.forall_mem_append] at hfits
    obtain ⟨stock, hkeeps, haccounts, hstored⟩ := ih hfits.1
    obtain ⟨stock', hkeeps', haccounts', houtcome⟩ :=
      fetchInto_beside hkeeps haccounts hserved (hfits.2 url (List.mem_singleton.2 rfl))
    have hrun : c.fetchEach dir (urls ++ [url]) (.start files) =
        (c.fetchInto url dir (c.fetchEach dir urls (.start files))).2 :=
      c.fetchEach_append urls [url] _
    refine ⟨stock', hrun ▸ hkeeps', haccounts', fun names => ?_⟩
    rw [stored_concat, ← hstored]
    rcases houtcome with ⟨hok, -, hnames⟩ | ⟨⟨e, herror⟩, -, rfl⟩
    · rw [hnames, hok]
      simp
    · rw [herror]
      simp

/-- The first of some members with a property, up to one that has it. -/
theorem find?_concat_of_append {p : String → Bool} {before after : List String} {u : String}
    (h : (before ++ url :: after).find? p = some u) (hurl : p url) :
    (before ++ [url]).find? p = some u := by
  rw [List.find?_append] at h ⊢
  rw [List.find?_cons_of_pos hurl] at h ⊢
  exact h

/-- **What copies hold**, in a directory that is empty at first, where whatever is asked for is served,
and no name or path is too long. After any calls, a call for an address

* succeeds exactly if its path neither leads through a copy for which an earlier call has succeeded nor
  ends on the way to one;
* and then there is, from that call on, what is served for the first address asked for with that path,
  which may be another one. -/
theorem copies_hold_first {files made : FileTree} {before after : List String}
    (hrooted : files.Rooted) (hmade : files.makeDirectories dir = .ok made)
    (hempty : made.names dir = .ok [])
    (hserved : ∀ asked url, c.network.answer asked url = .ok (served url))
    (hfits : ∀ u ∈ before ++ url :: after, FitsIn dir u) :
    let s := c.fetchEach dir before (.start files)
    let out := c.fetchInto url dir s
    ((∃ p, out.1 = .ok p) ↔
      ∀ names, Stored c dir before (.start files) names → ¬Nested names (cacheNames url)) ∧
    ∀ p, out.1 = .ok p → p = target url dir ∧
      ∃ first, (before ++ [url]).find? (cacheNames · = cacheNames url) = some first ∧
        (c.fetchEach dir after out.2).files.read p = .ok (served first) := by
  intro s out
  have hstocks := stocks_empty hrooted hmade hempty
  have hurl := hfits url (by simp)
  obtain ⟨stock, hkeeps, haccounts, hstored⟩ := exists_stock hstocks hserved
    (fun u hu => hfits u (List.mem_append_left _ hu))
  have hkeys : ∀ names, Stored c dir before (.start files) names ↔ ∃ a ∈ stock, a.1 = names := by
    intro names
    rw [← hstored, ← Option.ne_none_iff_isSome, ne_eq, lookup_eq_none]
    simp
  obtain ⟨_, -, -, houtcome⟩ := fetchInto_beside hkeeps haccounts hserved hurl
  constructor
  · simp only [hkeys]
    rcases houtcome with ⟨hok, hapart, -⟩ | ⟨⟨e, herror⟩, ⟨a, ha, hnested⟩, -⟩
    · refine iff_of_true ⟨_, hok⟩ ?_
      rintro _ ⟨a, ha, rfl⟩
      exact hapart a ha
    · refine iff_of_false ?_ fun h => h a.1 ⟨a, ha, rfl⟩ hnested
      rintro ⟨p, hp⟩
      cases hp.symm.trans herror
  · intro p hp
    have htarget : p = target url dir := by
      rcases houtcome with ⟨hok, -⟩ | ⟨⟨e, herror⟩, -⟩
      · exact Except.ok.inj (hp.symm.trans hok)
      · cases hp.symm.trans herror
    -- the stock behind all calls still has the copy
    obtain ⟨stock', hkeeps', haccounts', hstored'⟩ := exists_stock hstocks hserved hfits
    obtain ⟨content, hcontent⟩ := Option.isSome_iff_exists.1
      ((hstored' (cacheNames url)).2 ⟨before, url, after, rfl, ⟨p, hp⟩, rfl⟩)
    obtain ⟨u, hu, hserves⟩ := haccounts'.first _ (mem_of_lookup hcontent)
    refine ⟨htarget, u, find?_concat_of_append hu (by simp), ?_⟩
    have hbehind : c.fetchEach dir after out.2 =
        c.fetchEach dir (before ++ url :: after) (.start files) :=
      (c.fetchEach_append before (url :: after) _).symm
    have hcontent' : content = served u := hserves
    rw [hbehind, htarget, ← hcontent']
    exact (hkeeps'.stocks.read_iff hurl.fits).2 hcontent

/-- A space that is encoded and the underscores that stand for it lead to one copy, which holds what the
first of the two addresses serves, also where the second one is asked for. -/
theorem copies_hold_first_escaped :
    let first := "http://[::1]/a%20b.sch"
    let second := "http://[::1]/a_20b.sch"
    let served (url : String) : List UInt8 := if url = first then [49] else [50]
    let c : Store := ⟨.ofText "/cache", ⟨fun _ url => .ok (served url)⟩, 8⟩
    let dir := c.directory "p" "t" "k"
    let out := c.fetchInto second dir (c.fetchEach dir [first] (.start (.empty ["cache"])))
    out.1 = .ok (target second dir) ∧ out.2.asked = [first] ∧
      out.2.files.read (target second dir) = .ok (served first) ∧ served first ≠ served second := by
  intro first second served c dir out
  have hout : out = c.fetchInto second dir (c.fetchEach dir [first] (.start (.empty ["cache"]))) := rfl
  have hmade : (FileTree.empty ["cache"]).makeDirectories dir =
      .ok ((FileTree.empty ["cache"]).prepare dir).2 := makeDirectories_eq_ok.2 (by rfl)
  have hfits : ∀ u ∈ [first] ++ second :: [], FitsIn dir u := by
    intro u hu
    simp only [List.cons_append, List.nil_append, List.mem_cons, List.not_mem_nil, or_false] at hu
    rcases hu with rfl | rfl
    · exact ⟨by decide +kernel, by decide +kernel⟩
    · exact ⟨by decide +kernel, by decide +kernel⟩
  have hok : out.1 = .ok (target second dir) := by decide +kernel
  have hserved : ∀ asked url, c.network.answer asked url = .ok (served url) := fun _ _ => rfl
  obtain ⟨-, u, hu, hread⟩ := (copies_hold_first (rooted_empty ["cache"]) hmade
    (by decide +kernel) hserved hfits).2 _ hok
  have hfirst : ([first] ++ [second]).find? (cacheNames · = cacheNames second) = some first := by
    decide +kernel
  rw [hfirst] at hu
  rw [← Option.some.inj hu, Store.fetchEach_nil] at hread
  refine ⟨hok, ?_, ?_, ?_⟩
  · decide +kernel
  · rw [hout]
    exact hread
  · decide +kernel

end XmlAudit.Remote
