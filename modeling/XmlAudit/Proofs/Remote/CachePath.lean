import Mathlib
import XmlAudit.Proofs.Files.Paths
import XmlAudit.Proofs.Number.Position
import XmlAudit.Proofs.Outcome
import XmlAudit.Proofs.Text.Utf8
import XmlAudit.Remote.CachePath

/-!
# The names of copies

* `Url.isNamed_of_parse`: an address that has a host has one that is written.
* `IsDiskName`: a name on disk; `isDiskName_diskName`, `isDiskName_fingerprint_append`: how one is made.
* `isDiskName_of_mem_cacheNames`: the names that lead to a copy are such, whatever the address.
* `arePlain_cacheNames`: they go down a step each.
-/

namespace XmlAudit

/-! ## Hosts -/

namespace Url

theorem orFault_eq_ok {α : Type} {f : Fault} {x : Option α} {a : α} :
    orFault f x = .ok a ↔ x = some a := by
  cases x <;> simp [orFault]

theorem percentEncode_ne_nil {encoded : Char → Bool} {cs : List Char} (h : cs ≠ []) :
    percentEncode encoded cs ≠ [] := by
  obtain ⟨c, rest, rfl⟩ := List.exists_cons_of_ne_nil h
  rw [percentEncode, List.flatMap_cons]
  refine List.append_ne_nil_of_left_ne_nil ?_ _
  split_ifs
  · have hbytes : String.utf8EncodeChar c ≠ [] := by
      dsimp only [String.utf8EncodeChar]
      split_ifs <;> exact List.cons_ne_nil _ _
    obtain ⟨b, bytes, hb⟩ := List.exists_cons_of_ne_nil hbytes
    rw [Text.Utf8.encode_eq_flatMap, String.toList_singleton, List.flatMap_singleton, hb]
    exact List.cons_ne_nil _ _
  · exact List.cons_ne_nil _ _

namespace Host

theorem render_ipv4_ne_empty (a : Nat) : (ipv4 a).render ≠ "" := by
  simp only [render, List.map_cons, List.map_nil, String.intercalate_cons_cons]
  intro h
  have hsize := congrArg String.utf8ByteSize h
  simp only [String.utf8ByteSize_append, String.utf8ByteSize_empty] at hsize
  have hdot : ".".utf8ByteSize = 1 := rfl
  omega

theorem render_ipv6_ne_empty (groups : List Nat) : (ipv6 groups).render ≠ "" := by
  intro h
  have hlist := congrArg String.toList h
  simp [render] at hlist

theorem render_ne_empty_of_bracketed {cs : List Char} {host : Host} (h : bracketed cs = .ok host) :
    host.render ≠ "" := by
  rw [bracketed, orFault_eq_ok] at h
  split_ifs at h
  obtain ⟨groups, -, rfl⟩ := Option.map_eq_some_iff.1 h
  exact render_ipv6_ne_empty groups

theorem render_ne_empty_of_parse {cs : List Char} {host : Host} (h : parse cs = .ok host) :
    host.render ≠ "" := by
  unfold parse at h
  split_ifs at h
  · exact render_ne_empty_of_bracketed h
  · obtain ⟨name, -, h⟩ := bind_eq_ok.1 h
    split_ifs at h with hempty
    · obtain ⟨a, -, rfl⟩ := Option.map_eq_some_iff.1 (orFault_eq_ok.1 h)
      exact render_ipv4_ne_empty a
    · cases h
      simpa [render] using hempty

theorem render_ne_empty_of_parseOther {cs : List Char} {host : Host}
    (h : parseOther cs = .ok (some host)) : host.render ≠ "" := by
  unfold parseOther at h
  split_ifs at h with _ hempty _
  · obtain ⟨host', hbracketed, h⟩ := map_eq_ok.1 h
    cases h
    exact render_ne_empty_of_bracketed hbracketed
  · cases h
  · cases h
    simpa [render] using percentEncode_ne_nil (by simpa using hempty)

end Host

/-- An address of which the host, if it has one, is written. -/
def IsNamed (u : Url) : Prop := ∀ host, u.host = some host → host.render ≠ ""

theorem isNamed_of_withAuthority {scheme : String} {cs : List Char} {u : Url}
    (h : withAuthority scheme cs = .ok u) : u.IsNamed := by
  intro host hhost
  obtain ⟨host', hhost', h⟩ := bind_eq_ok.1 h
  split_ifs at h
  obtain ⟨number, -, h⟩ := bind_eq_ok.1 h
  cases h
  obtain rfl : host' = some host := hhost
  unfold hostOf at hhost'
  split_ifs at hhost'
  · obtain ⟨parsed, hparsed, heq⟩ := map_eq_ok.1 hhost'
    cases heq
    exact Host.render_ne_empty_of_parse hparsed
  · exact Host.render_ne_empty_of_parseOther hhost'

theorem isNamed_of_ofFile {cs : List Char} {u : Url} (h : ofFile none cs = .ok u) : u.IsNamed := by
  have hnone : ∀ cs, (withFilePath none cs).IsNamed := by
    intro cs host hhost
    simp [withFilePath] at hhost
  unfold ofFile at h
  simp only [Option.filter_none] at h
  split_ifs at h
  · cases h
    exact hnone _
  · obtain ⟨host', hhost', h⟩ := bind_eq_ok.1 h
    cases h
    intro host hhost
    have hsome : host' = some host := by
      simp only [withFilePath] at hhost
      split at hhost
      · cases hhost
      · exact hhost
    rw [hsome, fileHost] at hhost'
    split_ifs at hhost'
    · cases hhost'
    · obtain ⟨parsed, hparsed, heq⟩ := map_eq_ok.1 hhost'
      split_ifs at heq
      cases heq
      exact Host.render_ne_empty_of_parse hparsed
  · cases h
    exact hnone _

/-- **An address that has a host has one that is written.** -/
theorem isNamed_of_parse {s : String} {u : Url} (h : parse s = .ok u) : u.IsNamed := by
  unfold parse read at h
  obtain ⟨v, hv, h⟩ := bind_eq_ok.1 h
  cases h
  suffices hnamed : v.IsNamed from hnamed
  unfold resolve at hv
  split at hv
  · simp only [ofScheme, Option.filter_none] at hv
    split_ifs at hv
    · exact isNamed_of_ofFile hv
    · exact isNamed_of_withAuthority hv
    · split at hv
      · exact isNamed_of_withAuthority hv
      · cases hv
        exact fun _ h => nomatch h
      · cases hv
        exact fun _ h => nomatch h
  · cases hv

end Url

namespace Remote

open Files (Path)

/-! ## Names on disk -/

/-- **A name on disk**: it is written in the characters that such names keep, and not in dots alone. -/
structure IsDiskName (name : String) : Prop where
  kept : ∀ c ∈ name.toList, isKept c
  undotted : ∃ c ∈ name.toList, c ≠ '.'

instance (name : String) : Decidable (IsDiskName name) :=
  decidable_of_iff ((name.toList.all isKept && name.toList.any (· ≠ '.')) = true) <| by
    rw [Bool.and_eq_true, List.all_eq_true, List.any_eq_true]
    simp only [decide_eq_true_eq]
    exact ⟨fun h => ⟨h.1, h.2⟩, fun h => ⟨h.kept, h.undotted⟩⟩

theorem IsDiskName.isPlain {name : String} (h : IsDiskName name) : Path.IsPlain name := by
  have hne : ∀ word : String, word.toList.all (· = '.') → name ≠ word := by
    rintro _ hword rfl
    obtain ⟨c, hc, hdot⟩ := h.undotted
    exact hdot (of_decide_eq_true (List.all_eq_true.1 hword c hc))
  refine ⟨⟨?_, hne ".." (by decide)⟩, fun hnul => ?_⟩
  · simp [Path.isIdle, hne "" (by decide), hne "." (by decide)]
  · have hkept := h.kept _ hnul
    revert hkept
    decide

/-- **A segment as a name on disk**, unless it is empty. -/
theorem isDiskName_diskName {segment : String} (h : segment ≠ "") : IsDiskName (diskName segment) := by
  set cleaned := segment.toList.map fun c => if isKept c then c else '_' with hcleaned
  have hkept : ∀ c ∈ cleaned, isKept c := by
    rw [hcleaned, List.forall_mem_map]
    intro c _
    split_ifs with hc
    · exact hc
    · decide
  unfold diskName
  rw [← hcleaned]
  dsimp only
  split_ifs with hdots
  · have hne : cleaned ≠ [] := by simpa [hcleaned] using h
    obtain ⟨c, rest, hc⟩ := List.exists_cons_of_ne_nil hne
    rw [hc]
    refine ⟨?_, '_', by simp, by decide⟩
    rw [String.toList_ofList, List.forall_mem_map]
    exact fun _ _ => by decide
  · obtain ⟨c, hc, hdot⟩ := List.all_eq_false.1 (Bool.eq_false_iff.2 hdots)
    refine ⟨by rwa [String.toList_ofList], c, by rwa [String.toList_ofList], ?_⟩
    simpa using hdot

theorem diskName_empty : diskName "" = "" := by decide

theorem isKept_of_mem_diskName {segment : String} {c : Char} (h : c ∈ (diskName segment).toList) :
    isKept c := by
  by_cases hsegment : segment = ""
  · rw [hsegment, diskName_empty] at h
    cases h
  · exact (isDiskName_diskName hsegment).kept c h

theorem isKept_of_mem_toDigits {n : Nat} {c : Char} (h : c ∈ Nat.toDigits 16 n) : isKept c :=
  Number.Decimal.of_mem_toDigits (by decide) (by decide) h

/-- **A name that starts with the fingerprint** of an address. -/
theorem isDiskName_fingerprint_append (url : String) (word : List Char)
    (hword : ∀ c ∈ word, isKept c) :
    IsDiskName (fingerprint url ++ String.ofList ('-' :: word)) := by
  rw [fingerprint, ← String.ofList_append]
  constructor
  · intro c hc
    rw [String.toList_ofList, List.mem_append, List.mem_append, List.mem_replicate,
      List.mem_cons] at hc
    rcases hc with (⟨-, rfl⟩ | hc) | rfl | hc
    · decide
    · exact isKept_of_mem_toDigits hc
    · decide
    · exact hword c hc
  · exact ⟨'-', by simp, by decide⟩

/-- What the names of a copy are made of. -/
theorem mem_withLastName {url name : String} {hasQuery : Bool} {names : List String}
    (h : name ∈ withLastName url hasQuery names) :
    name ∈ names ∨ name = fingerprint url ++ "-index" ∨
      ∃ last ∈ names, name = fingerprint url ++ "-" ++ last := by
  unfold withLastName at h
  split at h
  · rcases List.mem_append.1 h with h | h
    · exact .inl (List.mem_of_mem_dropLast h)
    · exact .inr (.inl (List.mem_singleton.1 h))
  · rcases List.mem_append.1 h with h | h
    · exact .inl (List.mem_of_mem_dropLast h)
    · exact .inr (.inl (List.mem_singleton.1 h))
  · next last _ hlast =>
    split_ifs at h
    · rcases List.mem_append.1 h with h | h
      · exact .inl (List.mem_of_mem_dropLast h)
      · exact .inr (.inr ⟨last, List.mem_of_getLast? hlast, List.mem_singleton.1 h⟩)
    · exact .inl h

/-- The names of a copy, where the address has a host. -/
theorem cacheNames_eq {url : String} {u : Url} {host : Url.Host} (h : Url.parse url = .ok u)
    (hhost : u.host = some host) :
    cacheNames url = hostName u host ::
      (withLastName url u.query.isSome (u.segments.map diskName)).filter (· ≠ "") := by
  unfold cacheNames
  rw [h]
  dsimp only
  rw [hhost]

/-- **The names that lead to a copy** are names on disk, whatever the address. -/
theorem isDiskName_of_mem_cacheNames {url name : String} (h : name ∈ cacheNames url) :
    IsDiskName name := by
  have hartifact : IsDiskName (fingerprint url ++ "-artifact") :=
    isDiskName_fingerprint_append url "artifact".toList (List.all_eq_true.1 (by decide))
  unfold cacheNames at h
  split at h
  · next u hu =>
    split at h
    · next host hhost =>
      rcases List.mem_cons.1 h with rfl | h
      · refine isDiskName_diskName fun hempty => Url.isNamed_of_parse hu host hhost ?_
        exact (String.append_eq_empty_iff.1 hempty).1
      · obtain ⟨hmem, hne⟩ := List.mem_filter.1 h
        rcases mem_withLastName hmem with hsegment | rfl | ⟨last, hlast, rfl⟩
        · obtain ⟨segment, -, rfl⟩ := List.mem_map.1 hsegment
          refine isDiskName_diskName ?_
          rintro rfl
          simp [diskName_empty] at hne
        · exact isDiskName_fingerprint_append url "index".toList (List.all_eq_true.1 (by decide))
        · obtain ⟨segment, -, rfl⟩ := List.mem_map.1 hlast
          have hword : fingerprint url ++ "-" ++ diskName segment =
              fingerprint url ++ String.ofList ('-' :: (diskName segment).toList) := by
            rw [String.append_assoc, ← String.toList_inj]
            simp
          rw [hword]
          exact isDiskName_fingerprint_append url _ fun c => isKept_of_mem_diskName
    · rwa [List.mem_singleton.1 h]
  · rwa [List.mem_singleton.1 h]

theorem cacheNames_ne_nil (url : String) : cacheNames url ≠ [] := by
  unfold cacheNames
  split
  · split <;> exact List.cons_ne_nil _ _
  · exact List.cons_ne_nil _ _

/-- The names that lead to a copy go down a step each. -/
theorem arePlain_cacheNames (url : String) : Path.ArePlain (cacheNames url) :=
  Path.arePlain_of_forall (fun _ h => (isDiskName_of_mem_cacheNames h).isPlain) (cacheNames_ne_nil url)

end Remote

end XmlAudit
