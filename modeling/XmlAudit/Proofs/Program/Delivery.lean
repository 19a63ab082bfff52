import Mathlib
import XmlAudit.Program
import XmlAudit.Proofs.Files.Descent

/-!
# What a run accounts for

The outcomes of the audits are taken as they come: some inputs succeed, some have a report of another
verdict and some are refused.

* `reportFileName_inj`, `isPlain_reportFileName`: the names of reports tell their numbers, and each takes
  a step down.
* `Report.place`, `Report.receives_write`: where a report is, and what writing it does to the files.
* `deliver_of_noReports`, `deliver_text`: what is delivered, whatever is written.
* `reportFiles`: the reports that there are for outcomes, numbered by input.
* `deliver_receives`: **delivery writes these reports and nothing else.**
* `Filed`, `filed_deliver`: what this means for the files, input by input.
* `succeeded_add_countP`, `succeeded_eq_length`, `summary_eq_closing`: the counts and their summary.
* `Accounts`, `run_accounts`: **a run accounts for all of its inputs.**
-/

namespace XmlAudit

open Files (Path Place FileTree)
open Files.Path (IsPlain ArePlain)

variable {t t' : FileTree} {dir p : Path} {f : Format} {n m : Nat} {k : Place}

/-! ## The names of reports -/

theorem toList_reportFileName (n : Nat) (f : Format) :
    (reportFileName n f).toList =
      "report.".toList ++ Nat.toDigits 10 n ++ ".".toList ++ f.extension.toList := by
  simp only [reportFileName, String.toList_append, Nat.toString_eq_repr, Nat.toList_repr]

/-- **The names of reports tell their numbers.** -/
theorem reportFileName_inj : reportFileName n f = reportFileName m f ↔ n = m := by
  simp only [reportFileName, String.append_left_inj, String.append_right_inj, Nat.toString_eq_repr,
    Nat.repr_inj]

theorem notMem_reportFileName {c : Char} (hdigit : c.isDigit = false)
    (hfixed : c ∉ "report.".toList ++ ".".toList ++ f.extension.toList) (n : Nat) :
    c ∉ (reportFileName n f).toList := by
  rw [toList_reportFileName]
  simp only [List.mem_append, not_or] at hfixed ⊢
  refine ⟨⟨⟨hfixed.1.1, fun hmem => ?_⟩, hfixed.1.2⟩, hfixed.2⟩
  rw [Nat.isDigit_of_mem_toDigits (by decide) (by decide) hmem] at hdigit
  cases hdigit

/-- Wherever reports go, the name of one takes a step down. -/
theorem isPlain_reportFileName (n : Nat) (f : Format) : IsPlain (reportFileName n f) := by
  have hr : 'r' ∈ (reportFileName n f).toList := by
    rw [toList_reportFileName]
    simp
  refine ⟨⟨?_, ?_⟩, notMem_reportFileName rfl (by cases f <;> decide) n⟩
  · rw [Path.isIdle, Bool.or_eq_false_iff, decide_eq_false_iff_not, decide_eq_false_iff_not]
    constructor <;> (intro h; rw [h] at hr; simp at hr)
  · intro h
    rw [h] at hr
    simp at hr

theorem arePlain_reportFileName (n : Nat) (f : Format) : ArePlain [reportFileName n f] :=
  Files.Path.arePlain_of_forall (List.forall_mem_singleton.2 (isPlain_reportFileName n f))
    (List.cons_ne_nil _ _)

theorem child_reportFileName (dir : Path) (n : Nat) (f : Format) :
    dir.child (reportFileName n f) = dir.join ⟨[reportFileName n f]⟩ := by
  rw [Path.child, Path.ofText_name (notMem_reportFileName rfl (by cases f <;> decide) n)]

namespace Report

/-! ## The places of reports -/

/-- Where the report with a number is, in a directory at a place. -/
def place (dir : Place) (f : Format) (n : Nat) : Place := dir ++ [reportFileName n f]

theorem place_inj {dir : Place} : place dir f n = place dir f m ↔ n = m := by
  simp only [place, List.append_cancel_left_eq, List.cons.injEq, and_true, reportFileName_inj]

/-- The path of a report leads to its place, or nowhere. -/
theorem eq_place_of_locate (h : t.locate (dir.child (reportFileName n f)) = .ok k) :
    k = place (t.site dir) f n := by
  rw [child_reportFileName] at h
  exact FileTree.eq_of_locate_join (arePlain_reportFileName n f) h

/-- **A report that is written is received** at its place. -/
theorem receives_write {r : Report} (h : r.write t dir n f = .ok (t', p)) :
    t'.locate (dir.child (reportFileName n f)) = .ok (place (t.site dir) f n) ∧
      t.Receives t' [(place (t.site dir) f n, Text.Utf8.encode (r.render f))] := by
  obtain ⟨t₁, hmade, h⟩ := bind_eq_ok.1 h
  obtain ⟨t₂, hwritten, h⟩ := bind_eq_ok.1 h
  cases h
  obtain ⟨k, hk, hreceives⟩ := FileTree.receives_write hwritten
  have hall := (FileTree.receives_makeDirectories hmade).trans hreceives (by simp)
  have hplace := eq_place_of_locate hk
  rw [hall.site] at hplace
  subst hplace
  exact ⟨hk, hall⟩

end Report

namespace Program

variable {Sheet : Type} {o : Options}
  {l : List (Path × Except AuditError Report)} {outcomes : List (Except AuditError Report)}

/-! ## What is printed, and what is not written -/

theorem deliver_of_noReports (h : o.noReports = true) :
    (deliver o f t n l).fault = none ∧ (deliver o f t n l).files = t := by
  induction l generalizing n with
  | nil => exact ⟨rfl, rfl⟩
  | cons a l ih =>
    obtain ⟨input, e | r⟩ := a
    · exact ih
    · rw [deliver, if_pos h]
      exact ih

/-- What is printed for an input. -/
def announced (v : Verbosity) (f : Format) : Path × Except AuditError Report → String
  | (input, .error e) => rejectionLine input e
  | (input, .ok r) => printed v f input r

/-- Where reports are written, that of an accepted input is before the other inputs are taken. -/
theorem deliver_accepted {input : Path} {r : Report}
    (h : (deliver o f t n ((input, .ok r) :: l)).fault = none) (hreports : o.noReports = false) :
    ∃ t' p, r.write t (reportDir o) n f = .ok (t', p) ∧
      deliver o f t n ((input, .ok r) :: l) =
        (deliver o f t' (n + 1) l).after (announced o.verbosity f (input, .ok r)) := by
  rw [deliver, if_neg (by simp [hreports])] at h ⊢
  cases hwrite : r.write t (reportDir o) n f with
  | error fault =>
    rw [hwrite] at h
    cases h
  | ok written => exact ⟨written.1, written.2, rfl, rfl⟩

theorem deliver_text (h : (deliver o f t n l).fault = none) :
    (deliver o f t n l).text = String.join (l.map (announced o.verbosity f)) := by
  induction l generalizing t n with
  | nil => rfl
  | cons a l ih =>
    rw [List.map_cons, String.join_cons]
    obtain ⟨input, e | r⟩ := a
    · rw [← ih (t := t) (n := n + 1) h]
      rfl
    · by_cases hreports : o.noReports
      · rw [← ih (t := t) (n := n + 1) (deliver_of_noReports hreports).1, deliver, if_pos hreports]
        rfl
      · obtain ⟨t', p, -, hdeliver⟩ := deliver_accepted h (by simpa using hreports)
        rw [hdeliver] at h ⊢
        rw [← ih h]
        rfl

/-! ## The reports that are written -/

/-- The path of the report of the input with a number. -/
def reportPath (o : Options) (f : Format) (n : Nat) : Path :=
  (reportDir o).child (reportFileName n f)

/-- The reports that there are for outcomes, in a directory and numbered from `n` on. An input that was
refused has none, but a number. -/
def reportFiles (dir : Place) (f : Format) : Nat → List (Except AuditError Report) →
    List (Place × List UInt8)
  | _, [] => []
  | n, .error _ :: rest => reportFiles dir f (n + 1) rest
  | n, .ok r :: rest =>
    (Report.place dir f n, Text.Utf8.encode (r.render f)) :: reportFiles dir f (n + 1) rest

theorem mem_reportFiles {dir : Place} {a : Place × List UInt8} :
    a ∈ reportFiles dir f n outcomes ↔ ∃ i r, outcomes[i]? = some (.ok r) ∧
      a = (Report.place dir f (n + i), Text.Utf8.encode (r.render f)) := by
  induction outcomes generalizing n with
  | nil => simp [reportFiles]
  | cons b rest ih =>
    -- what follows the first outcome has a number more
    have hlater : (∃ i r, (b :: rest)[i + 1]? = some (.ok r) ∧
          a = (Report.place dir f (n + (i + 1)), Text.Utf8.encode (r.render f))) ↔
        a ∈ reportFiles dir f (n + 1) rest := by
      simp only [ih, List.getElem?_cons_succ, Nat.add_right_comm n 1, Nat.add_assoc]
    rw [← Nat.or_exists_add_one, hlater]
    cases b with
    | error e => simp [reportFiles]
    | ok r => simp [reportFiles]

/-- **Delivery writes the reports that there are, and nothing else**: each is at its place in the end,
since later ones have other names. -/
theorem deliver_receives (h : (deliver o f t n l).fault = none) (hreports : o.noReports = false) :
    t.Receives (deliver o f t n l).files (reportFiles (t.site (reportDir o)) f n (l.map Prod.snd)) ∧
      ∀ i r, (l.map Prod.snd)[i]? = some (.ok r) →
        (deliver o f t n l).files.locate (reportPath o f (n + i)) =
          .ok (Report.place (t.site (reportDir o)) f (n + i)) := by
  induction l generalizing t n with
  | nil => exact ⟨.refl t, nofun⟩
  | cons a l ih =>
    obtain ⟨input, e | r⟩ := a
    · -- nothing is written for an input that was refused, and the next one has the next number
      obtain ⟨hreceives, hlocate⟩ := ih (n := n + 1) h
      refine ⟨hreceives, fun i r' hi => ?_⟩
      cases i with
      | zero => cases hi
      | succ i =>
        rw [← Nat.add_assoc, Nat.add_right_comm]
        exact hlocate i r' hi
    · obtain ⟨t', p, hwrite, hdeliver⟩ := deliver_accepted h hreports
      rw [hdeliver] at h ⊢
      obtain ⟨hplace, hfirst⟩ := Report.receives_write hwrite
      obtain ⟨hreceives, hlocate⟩ := ih h
      rw [hfirst.site] at hreceives hlocate
      refine ⟨hfirst.trans hreceives ?_, fun i r' hi => ?_⟩
      · -- later reports have larger numbers, so none of them takes the place of this one
        simp only [List.forall_mem_singleton]
        intro b hb heq
        obtain ⟨i, r', -, rfl⟩ := mem_reportFiles.1 hb
        have hnumber : n = n + 1 + i := Report.place_inj.1 heq
        omega
      · cases i with
        | zero => exact hreceives.locate hplace
        | succ i =>
          rw [← Nat.add_assoc, Nat.add_right_comm]
          exact hlocate i r' hi

/-- **The reports of a run are on file**, each under the number of its input: one for each input with a
report, none for an input that was refused, none in the place of another, and nothing else is changed
but for directories that are made. -/
structure Filed (o : Options) (f : Format) (t t' : FileTree)
    (outcomes : List (Except AuditError Report)) : Prop where
  written : ∀ i r, outcomes[i]? = some (.ok r) →
    t'.read (reportPath o f (i + 1)) = .ok (Text.Utf8.encode (r.render f))
  refused : ∀ i e, outcomes[i]? = some (.error e) →
    ∀ k, t'.locate (reportPath o f (i + 1)) = .ok k →
      ∀ content, t'.find? k = some (.file content) ↔ t.find? k = some (.file content)
  apart : ∀ i j k, t'.locate (reportPath o f (i + 1)) = .ok k →
    t'.locate (reportPath o f (j + 1)) = .ok k → i = j
  spared : ∀ k, (∀ i r, outcomes[i]? = some (.ok r) →
      t'.locate (reportPath o f (i + 1)) ≠ .ok k) →
    t'.find? k = t.find? k ∨ t.find? k = none ∧ t'.find? k = some .directory

theorem filed_deliver (h : (deliver o f t 1 l).fault = none) (hreports : o.noReports = false) :
    Filed o f t (deliver o f t 1 l).files (l.map Prod.snd) := by
  obtain ⟨hreceives, hlocate⟩ := deliver_receives h hreports
  simp only [Nat.add_comm 1] at hlocate
  -- wherever the path of a report leads, it leads to the place of its number
  have hplace : ∀ i k, (deliver o f t 1 l).files.locate (reportPath o f (i + 1)) = .ok k →
      k = Report.place (t.site (reportDir o)) f (i + 1) := by
    intro i k hk
    rw [Report.eq_place_of_locate hk, hreceives.site]
  have hspares : ∀ k, (∀ i r, (l.map Prod.snd)[i]? = some (.ok r) →
      k ≠ Report.place (t.site (reportDir o)) f (i + 1)) →
      (deliver o f t 1 l).files.find? k = t.find? k ∨
        t.find? k = none ∧ (deliver o f t 1 l).files.find? k = some .directory := by
    intro k hk
    refine hreceives.spares k fun a ha => ?_
    obtain ⟨i, r, hi, rfl⟩ := mem_reportFiles.1 ha
    rw [Nat.add_comm 1]
    exact hk i r hi
  refine ⟨fun i r hi => ?_, fun i e hi k hk content => ?_, fun i j k hi hj => ?_, fun k hk => ?_⟩
  · have hfile := hreceives.holds _ (mem_reportFiles.2 ⟨i, r, hi, rfl⟩)
    rw [Nat.add_comm 1] at hfile
    exact FileTree.read_eq_ok.2 ⟨_, hlocate i r hi, hfile⟩
  · have hother := hspares k fun j r hj heq => by
      rw [hplace i k hk, Report.place_inj, Nat.add_right_cancel_iff] at heq
      rw [← heq, hi] at hj
      cases hj
    rcases hother with hsame | ⟨hnone, hdir⟩
    · rw [hsame]
    · rw [hnone, hdir]
      simp
  · have heq := (hplace i k hi).symm.trans (hplace j k hj)
    exact Nat.add_right_cancel (Report.place_inj.1 heq)
  · exact hspares k fun i r hi heq => hk i r hi (heq ▸ hlocate i r hi)

/-! ## The counts -/

/-- Whether an input was refused or has a report of another verdict than success. -/
def hasFailed : Except AuditError Report → Bool
  | .ok r => r.verdict ≠ .success
  | .error _ => true

/-- **Each input has succeeded or failed.** -/
theorem succeeded_add_countP (outcomes : List (Except AuditError Report)) :
    succeeded outcomes + outcomes.countP hasFailed = outcomes.length := by
  rw [succeeded, List.length_eq_countP_add_countP, Nat.add_right_inj]
  refine List.countP_congr fun a _ => ?_
  cases a with
  | error e => simp [hasFailed]
  | ok r => simp [hasFailed, Report.isSuccess]

theorem succeeded_eq_length :
    succeeded outcomes = outcomes.length ↔ ∀ a ∈ outcomes, ∃ r, a = .ok r ∧ r.verdict = .success := by
  rw [succeeded, List.countP_eq_length]
  refine forall₂_congr fun a _ => ?_
  cases a with
  | error e => simp
  | ok r => simp [Report.isSuccess]

/-- What is printed after all inputs, by counts that have no limit. -/
def closing (v : Verbosity) (total good bad milliseconds : Nat) : String :=
  if v = .quiet then ""
  else
    line 0 "Summary:" ++ line 2 ("Inputs: " ++ toString total) ++
      line 2 ("Succeeded: " ++ toString good) ++
      (if bad > 0 then line 2 ("Failed: " ++ toString bad) else "") ++
      line 2 ("Duration: " ++ duration milliseconds)

/-- **The summary counts without a wrap.** -/
theorem summary_eq_closing {v : Verbosity} {total good milliseconds : Nat} (hgood : good ≤ total)
    (htotal : total < UInt64.size) :
    summary v (.ofNat total) (.ofNat good) milliseconds =
      closing v total good (total - good) milliseconds := by
  have htotal' : (UInt64.ofNat total).toNat = total := UInt64.toNat_ofNat_of_lt' htotal
  have hgood' : (UInt64.ofNat good).toNat = good := UInt64.toNat_ofNat_of_lt' (hgood.trans_lt htotal)
  have hle : UInt64.ofNat good ≤ UInt64.ofNat total := by
    rw [UInt64.le_iff_toNat_le, htotal', hgood']
    exact hgood
  have hbad : (UInt64.ofNat total - UInt64.ofNat good).toNat = total - good := by
    rw [UInt64.toNat_sub_of_le _ _ hle, htotal', hgood']
  have hpos : UInt64.ofNat total - UInt64.ofNat good > 0 ↔ total - good > 0 := by
    rw [gt_iff_lt, UInt64.lt_iff_toNat_lt, hbad]
    rfl
  simp only [summary, closing, htotal', hgood', hbad, hpos]

/-! ## The end of a run -/

/-- **What a run accounts for**, given the files after its audits and their outcomes: its exit code
tells whether all inputs succeeded, their reports are on file unless none is asked for, and those that
did not succeed are counted. -/
structure Accounts (o : Options) (f : Format) (t : FileTree)
    (outcomes : List (Except AuditError Report)) (e : Exit) : Prop where
  succeeds : e.code = 0 ↔ ∀ a ∈ outcomes, ∃ r, a = .ok r ∧ r.verdict = .success
  fails : e.code ≠ 0 → e.code = 1
  bare : o.noReports = true → e.files = t
  filed : o.noReports = false → Filed o f t e.files outcomes
  within : succeeded outcomes ≤ o.inputs.length
  counts : o.inputs.length - succeeded outcomes = outcomes.countP hasFailed
  -- the summary counts in words of 64 bits, which no command line exceeds
  prints : o.inputs.length < UInt64.size → ∀ milliseconds, e.stdout milliseconds =
    String.join ((o.inputs.zip outcomes).map (announced o.verbosity f)) ++
      if f = .human then
        closing o.verbosity o.inputs.length (succeeded outcomes) (outcomes.countP hasFailed)
          milliseconds
      else ""

theorem accounts_conclude {c : Config} (hlength : outcomes.length = o.inputs.length)
    (h : (deliver o c.output.format t 1 (o.inputs.zip outcomes)).fault = none) :
    Accounts o c.output.format t outcomes (conclude o c t outcomes) := by
  have hsum := succeeded_add_countP outcomes
  have hwithin : succeeded outcomes ≤ o.inputs.length := by omega
  have hcounts : o.inputs.length - succeeded outcomes = outcomes.countP hasFailed := by omega
  have hmap : (o.inputs.zip outcomes).map Prod.snd = outcomes := List.map_snd_zip hlength.le
  have hfiles : (conclude o c t outcomes).files =
      (deliver o c.output.format t 1 (o.inputs.zip outcomes)).files := by
    rw [conclude, h]
  have hcode : (conclude o c t outcomes).code =
      if succeeded outcomes = o.inputs.length then 0 else 1 := by
    rw [conclude, h]
  refine ⟨?_, fun hne => ?_, fun hbare => ?_, fun hreports => ?_, hwithin, hcounts, fun hsize ms => ?_⟩
  · rw [hcode, ← succeeded_eq_length, hlength]
    split_ifs with hall
    · exact iff_of_true rfl hall
    · exact iff_of_false (by decide) hall
  · rw [hcode] at hne ⊢
    split_ifs at hne ⊢ with hall
    · exact absurd rfl hne
    · rfl
  · rw [hfiles, (deliver_of_noReports hbare).2]
  · have hfiled := filed_deliver h hreports
    rwa [hmap, ← hfiles] at hfiled
  · rw [conclude, h]
    dsimp only
    rw [deliver_text h, summary_eq_closing hwithin hsize, hcounts]

/-- The outcome of an input: that of an audit of what was read of it. -/
def IsOutcome (h : Host Sheet) (o : Options) (p : Plan) (input : Path)
    (a : Except AuditError Report) : Prop :=
  ∃ request w, requestFor h.surroundings.files o (typeOf p.profile o) input = .ok request ∧
    a = (((engineOf h p.config).audit h.now p.profile request).run w).1.map (·.report)

theorem requests_of_plan {s : Surroundings} {p : Plan} (h : plan s o = .ok p) :
    o.inputs.mapM (requestFor s.files o (typeOf p.profile o)) = .ok p.requests := by
  obtain ⟨_, -, h⟩ := bind_eq_ok.1 h
  obtain ⟨c, -, h⟩ := bind_eq_ok.1 h
  obtain ⟨profile, -, h⟩ := bind_eq_ok.1 h
  obtain ⟨requests, hrequests, h⟩ := bind_eq_ok.1 h
  cases h
  exact hrequests

theorem isOutcome_audits {h : Host Sheet} {p : Plan} (hplan : plan h.surroundings o = .ok p) :
    List.Forall₂ (IsOutcome h o p) o.inputs ((audits h p).1.map fun a => a.map (·.report)) := by
  have hread := mapM_eq_ok.1 (requests_of_plan hplan)
  have haudited := forall₂_run_mapM
    (R := fun request a =>
      ∃ w, a = (((engineOf h p.config).audit h.now p.profile request).run w).1)
    (fun _ w => ⟨w, rfl⟩) p.requests (start h.surroundings.files p.config)
  rw [List.forall₂_map_right_iff]
  refine forall₂_comp hread haudited fun input request a hrequest houtcome => ?_
  obtain ⟨w, rfl⟩ := houtcome
  exact ⟨request, w, hrequest, rfl⟩

/-- **A run accounts for all of its inputs.** It ends as its audits do, of which there is one for each
input; and whatever the outcomes of audits are, if their reports can be written the end of the run
accounts for them. -/
theorem run_accounts {h : Host Sheet} {args : List String} {p : Plan}
    (hargs : Options.parse args = .ok o) (hplan : plan h.surroundings o = .ok p) :
    (∃ outcomes, List.Forall₂ (IsOutcome h o p) o.inputs outcomes ∧
      run h args = conclude o p.config (audits h p).2 outcomes) ∧
    ∀ t outcomes, outcomes.length = o.inputs.length →
      (deliver o p.config.output.format t 1 (o.inputs.zip outcomes)).fault = none →
      Accounts o p.config.output.format t outcomes (conclude o p.config t outcomes) := by
  refine ⟨⟨_, isOutcome_audits hplan, ?_⟩, fun t outcomes hlength hfault =>
    accounts_conclude hlength hfault⟩
  rw [run, hargs]
  dsimp only
  rw [runWith, hplan]

/-- A host with three files and neither a network nor a processor. -/
def desk : Host Empty where
  surroundings :=
    { files := ["a", "b", "c"].foldl (fun t s => t.set [s] (some (.file []))) (.empty [])
      configHome := none
      cacheHome := .ofText "/cache"
      environment := [] }
  get _ url := .error (.httpStatus url 503 "Service Unavailable")
  processor := .absent
  workRoot := .ofText "/tmp"
  now := default

/-- The three files as inputs. -/
def three : Options := { Options.empty with inputs := ["a", "b", "c"].map .ofText }

/-- A success, a refusal and a failure. -/
def mixed : List (Except AuditError Report) :=
  [.ok .emptySuccess, .error (.unknownType "note"), .ok (.failure "No content" none)]

theorem run_accounts_mixed :
    ∃ p, Options.parse ["a", "b", "c"] = .ok three ∧ plan desk.surroundings three = .ok p ∧
      (∃ outcomes, List.Forall₂ (IsOutcome desk three p) three.inputs outcomes ∧
        run desk ["a", "b", "c"] = conclude three p.config (audits desk p).2 outcomes) ∧
      ∃ e, e = conclude three p.config desk.surroundings.files mixed ∧ e.code = 1 ∧
        e.files.read (reportPath three .human 1) =
          .ok (Text.Utf8.encode (Report.emptySuccess.render .human)) ∧
        e.files.read (reportPath three .human 3) =
          .ok (Text.Utf8.encode ((Report.failure "No content" none).render .human)) ∧
        three.inputs.length - succeeded mixed = 2 := by
  have hargs : Options.parse ["a", "b", "c"] = .ok three := by decide +kernel
  have hread : (plan desk.surroundings three).map (·.config.output.format) = .ok .human := by
    decide +kernel
  obtain ⟨p, hplan, hformat⟩ := map_eq_ok.1 hread
  obtain ⟨hrun, hends⟩ := run_accounts hargs hplan
  rw [hformat] at hends
  have hends := hends desk.surroundings.files mixed rfl (by decide +kernel)
  have hfiled := hends.filed rfl
  have hcode : (conclude three p.config desk.surroundings.files mixed).code ≠ 0 := fun hzero => by
    obtain ⟨r, hr, -⟩ := hends.succeeds.1 hzero _ (List.mem_cons_of_mem _ List.mem_cons_self)
    cases hr
  exact ⟨p, hargs, hplan, hrun, _, rfl, hends.fails hcode, hfiled.written 0 _ rfl,
    hfiled.written 2 _ rfl, hends.counts⟩

end Program

end XmlAudit
