import XmlAudit.Proofs.Remote.Fetching

/-!
# Copies are written once

A history of a cache is what its commands do, one call for a copy after another, with the times it
starts over.

* `Command`, `Command.Makes`: what a cache is asked to do, and the calls that are made for it.
* `Leads`: the events that lead from one session to another.
* `exists_history`: every run of commands has a history.
* `leads_held`: the copies that are known are those for which a call has succeeded.
* `copies_written_once`: no call asks for what is there or known, nothing that is there changes, and a
  call that fails leaves nothing behind.
-/

namespace XmlAudit.Remote

open Files (Path FileTree Component)
open Files.FileTree (rooted_empty)
open Store (target)

/-! ## Commands and events -/

/-- What a cache is asked to do: to have an artifact, to have a schema with all that it brings in, or
to start over with the files that are there. -/
inductive Command where
  | artifact (profile type kind url : String)
  | schema (profile type kind url : String) (mappings : List (String × Path))
  | restart

/-- What happens in a cache: a call for a copy, with the sessions before and after it, or a new
start. -/
inductive Event where
  | call (url : String) (dir : Path) (before : Session) (outcome : Except AuditError Path)
    (after : Session)
  | restart

/-- **The events that lead from one session to another.** -/
inductive Leads (c : Store) (s : Session) : List Event → Session → Prop
  | nil : Leads c s [] s
  | call {es : List Event} {url : String} {dir : Path} {before after : Session}
      {outcome : Except AuditError Path} (past : Leads c s es before)
      (run : c.fetchInto url dir before = (outcome, after)) :
      Leads c s (es ++ [.call url dir before outcome after]) after
  | restart {es : List Event} {before : Session} (past : Leads c s es before) :
      Leads c s (es ++ [.restart]) before.restart

/-- A call in a directory. -/
def Event.IsCallIn (dir : Path) (e : Event) : Prop :=
  ∃ url before outcome after, e = .call url dir before outcome after

namespace Command

variable (c : Store)

/-- The directory in which copies are kept for a command. -/
def directory? : Command → Option Path
  | artifact profile type kind _ => some (c.directory profile type kind)
  | schema profile type kind _ _ => some (c.directory profile type kind)
  | restart => none

/-- The session behind a command, whether it fails or not. -/
def perform : Command → Session → Session
  | artifact profile type kind url, s => (c.fetchArtifact profile type kind url s).2
  | schema profile type kind url mappings, s => (c.fetchSchema profile type kind url mappings s).2
  | restart, s => s.restart

/-- The session behind commands, one after another. -/
def performAll (commands : List Command) (s : Session) : Session :=
  commands.foldl (fun s command => command.perform c s) s

/-- **The events that a command is made of**: one call for an artifact, none for a schema that a file
stands for, and else one for the schema and others for what it brings in, all in one directory. -/
def Makes (es : List Event) : Command → Prop
  | artifact profile type kind url => ∃ before outcome after,
      es = [.call url (c.directory profile type kind) before outcome after]
  | schema profile type kind url mappings =>
      match mappings.lookup url with
      | some _ => es = []
      | none => ∃ before outcome after others,
        es = .call url (c.directory profile type kind) before outcome after :: others ∧
          ∀ e ∈ others, e.IsCallIn (c.directory profile type kind)
  | restart => es = [.restart]

end Command

section

variable {c : Store} {s s' s'' : Session} {es es' : List Event}

theorem Leads.trans (h : Leads c s es s') (h' : Leads c s' es' s'') : Leads c s (es ++ es') s'' := by
  induction h' with
  | nil => rwa [List.append_nil]
  | call _ run ih =>
    rw [← List.append_assoc]
    exact .call ih run
  | restart _ ih =>
    rw [← List.append_assoc]
    exact .restart ih

theorem leads_call (c : Store) (url : String) (dir : Path) (s : Session) :
    Leads c s [.call url dir s (c.fetchInto url dir s).1 (c.fetchInto url dir s).2]
      (c.fetchInto url dir s).2 :=
  (Leads.call .nil rfl : Leads c s ([] ++ [_]) _)

theorem leads_restart (c : Store) (s : Session) : Leads c s [.restart] s.restart :=
  (Leads.restart .nil : Leads c s ([] ++ [_]) _)

/-- A call of a history, with what was before it and what came after it. -/
theorem Leads.split {past future : List Event} {url : String} {dir : Path} {before after : Session}
    {outcome : Except AuditError Path}
    (h : Leads c s (past ++ .call url dir before outcome after :: future) s') :
    Leads c s past before ∧ c.fetchInto url dir before = (outcome, after) ∧
      Leads c after future s' := by
  -- by induction from the end: the call is the last event, or it is in the history before that
  generalize hes : past ++ .call url dir before outcome after :: future = es at h
  induction h generalizing future with
  | nil => cases List.append_ne_nil_of_right_ne_nil _ (List.cons_ne_nil _ _) hes
  | @call es url' dir' before' after' outcome' earlier run ih =>
    rcases List.eq_nil_or_concat future with rfl | ⟨future, e, rfl⟩
    · obtain ⟨rfl, hlast⟩ := List.append_inj' hes rfl
      cases hlast
      exact ⟨earlier, run, .nil⟩
    · rw [List.concat_eq_append, ← List.cons_append, ← List.append_assoc] at hes
      obtain ⟨hfirst, hlast⟩ := List.append_inj' hes rfl
      cases hlast
      obtain ⟨hpast, hrun, hfuture⟩ := ih hfirst
      rw [List.concat_eq_append]
      exact ⟨hpast, hrun, .call hfuture run⟩
  | @restart es before' earlier ih =>
    rcases List.eq_nil_or_concat future with rfl | ⟨future, e, rfl⟩
    · obtain ⟨-, hlast⟩ := List.append_inj' hes rfl
      cases hlast
    · rw [List.concat_eq_append, ← List.cons_append, ← List.append_assoc] at hes
      obtain ⟨hfirst, hlast⟩ := List.append_inj' hes rfl
      cases hlast
      obtain ⟨hpast, hrun, hfuture⟩ := ih hfirst
      rw [List.concat_eq_append]
      exact ⟨hpast, hrun, .restart hfuture⟩

end

/-! ## What commands are made of -/

namespace Store

variable {c : Store} {dir : Path} {α β : Type}

/-- A step that consists of calls in a directory. -/
def Calls (c : Store) (dir : Path) (m : Step α) : Prop :=
  ∀ s, ∃ es, (∀ e ∈ es, e.IsCallIn dir) ∧ Leads c s es (m s).2

theorem calls_pure (a : α) : c.Calls dir (pure a) := fun _ => ⟨[], by simp, .nil⟩

theorem calls_throw (e : AuditError) : c.Calls dir (throw e : Step α) := fun _ => ⟨[], by simp, .nil⟩

theorem Calls.bind {m : Step α} {f : α → Step β} (hm : c.Calls dir m) (hf : ∀ a, c.Calls dir (f a)) :
    c.Calls dir (m >>= f) := by
  intro s
  obtain ⟨es, hes, hleads⟩ := hm s
  cases h : m s with
  | mk outcome s' =>
    rw [h] at hleads
    cases outcome with
    | ok a =>
      rw [bind_run_ok h]
      obtain ⟨es', hes', hleads'⟩ := hf a s'
      exact ⟨es ++ es', List.forall_mem_append.2 ⟨hes, hes'⟩, hleads.trans hleads'⟩
    | error e =>
      rw [bind_run_error h]
      exact ⟨es, hes, hleads⟩

theorem calls_mapM {f : α → Step β} (hf : ∀ a, c.Calls dir (f a)) (as : List α) :
    c.Calls dir (as.mapM f) := by
  induction as with
  | nil => exact calls_pure []
  | cons a as ih =>
    rw [List.mapM_cons]
    exact (hf a).bind fun b => ih.bind fun bs => calls_pure _

theorem calls_fetchInto (url : String) : c.Calls dir (c.fetchInto url dir) := fun s =>
  ⟨_, by simp [Event.IsCallIn], leads_call c url dir s⟩

theorem calls_content (p : Path) : c.Calls dir (content p) := by
  intro s
  refine ⟨[], by simp, ?_⟩
  have hstays : (content p s).2 = s := by
    unfold content
    rw [bind_run_ok (m := get) (a := s) rfl]
    cases s.files.read p <;> rfl
  rw [hstays]
  exact .nil

theorem calls_follow (mappings : List (String × Path)) (rounds : Nat) (found : List String)
    (latest : List (String × Path)) : c.Calls dir (c.follow dir mappings rounds found latest) := by
  induction rounds generalizing found latest with
  | zero =>
    cases latest with
    | nil => exact calls_pure ()
    | cons l latest => exact calls_throw _
  | succ n ih =>
    cases latest with
    | nil => exact calls_pure ()
    | cons l latest =>
      rw [follow]
      · refine Calls.bind (calls_mapM (fun l => ?_) _) fun links =>
          Calls.bind (calls_mapM (fun url => ?_) _) fun next => ih _ _
        · exact (calls_content l.2).bind fun _ => calls_pure _
        · exact (calls_fetchInto url).bind fun _ => calls_pure _
      · rintro ⟨⟩

end Store

/-- Every command is made of events that lead to the session behind it. -/
theorem exists_makes (c : Store) (command : Command) (s : Session) :
    ∃ es, command.Makes c es ∧ Leads c s es (command.perform c s) := by
  cases command with
  | artifact profile type kind url => exact ⟨_, ⟨_, _, _, rfl⟩, leads_call c url _ s⟩
  | restart => exact ⟨_, rfl, leads_restart c s⟩
  | schema profile type kind url mappings =>
    simp only [Command.Makes, Command.perform, Store.fetchSchema]
    cases mappings.lookup url with
    | some file => exact ⟨[], rfl, .nil⟩
    | none =>
      dsimp only
      have hcall := leads_call c url (c.directory profile type kind) s
      cases h : c.fetchInto url (c.directory profile type kind) s with
      | mk outcome s' =>
        rw [h] at hcall
        cases outcome with
        | error e =>
          rw [bind_run_error h]
          exact ⟨_, ⟨_, _, _, [], rfl, by simp⟩, hcall⟩
        | ok p =>
          rw [bind_run_ok h]
          obtain ⟨others, hothers, hleads⟩ :=
            (Store.calls_follow mappings c.rounds [url] [(url, p)]).bind
              (f := fun _ => pure (CachedSchema.mk url p (c.directory profile type kind)))
              (fun _ => Store.calls_pure _) s'
          exact ⟨_, ⟨_, _, _, others, rfl, hothers⟩, hcall.trans hleads⟩

/-- **Every run of commands has a history**, made of the events of each of them. -/
theorem exists_history (c : Store) (commands : List Command) (s : Session) :
    ∃ made : List (List Event), List.Forall₂ (Command.Makes c) made commands ∧
      Leads c s made.flatten (Command.performAll c commands s) := by
  induction commands generalizing s with
  | nil => exact ⟨[], .nil, .nil⟩
  | cons command commands ih =>
    obtain ⟨es, hes, hleads⟩ := exists_makes c command s
    obtain ⟨made, hmade, hleads'⟩ := ih (command.perform c s)
    exact ⟨es :: made, .cons hes hmade, hleads.trans hleads'⟩

/-- The calls of a command are made in its directory. -/
theorem Command.Makes.isCallIn {c : Store} {command : Command} {es : List Event}
    (h : command.Makes c es) : ∀ e ∈ es, ∀ url dir before outcome after,
      e = .call url dir before outcome after → command.directory? c = some dir := by
  cases command with
  | artifact profile type kind url =>
    obtain ⟨before, outcome, after, rfl⟩ := h
    rintro e he _ _ _ _ _ rfl
    cases List.mem_singleton.1 he
    rfl
  | restart =>
    obtain rfl : es = [.restart] := h
    rintro e he _ _ _ _ _ rfl
    cases List.mem_singleton.1 he
  | schema profile type kind url mappings =>
    simp only [Command.Makes] at h
    split at h
    · rw [h]
      rintro e ⟨⟩
    · obtain ⟨before, outcome, after, others, rfl, hothers⟩ := h
      rintro e he _ _ _ _ _ rfl
      rcases List.mem_cons.1 he with he | he
      · cases he
        rfl
      · obtain ⟨_, _, _, _, heq⟩ := hothers _ he
        cases heq
        rfl

/-! ## Histories -/

/-- A call for the copy at a path has succeeded since the cache last started over. -/
def Succeeded (steps : List Component) (es : List Event) : Prop :=
  ∃ past url dir before p after future,
    es = past ++ .call url dir before (.ok p) after :: future ∧ .restart ∉ future ∧
      (target url dir).components = steps

theorem not_succeeded_nil (steps : List Component) : ¬Succeeded steps [] := by
  rintro ⟨past, _, _, _, _, _, _, h, -, -⟩
  exact List.append_ne_nil_of_right_ne_nil past (List.cons_ne_nil _ _) h.symm

theorem not_succeeded_restart (steps : List Component) (es : List Event) :
    ¬Succeeded steps (es ++ [.restart]) := by
  rintro ⟨past, url, dir, before, p, after, future, h, hrestart, -⟩
  rcases List.eq_nil_or_concat future with rfl | ⟨future, e, rfl⟩
  · obtain ⟨-, hlast⟩ := List.append_inj' h rfl
    cases hlast
  · rw [List.concat_eq_append, ← List.cons_append, ← List.append_assoc] at h
    obtain ⟨-, hlast⟩ := List.append_inj' h rfl
    cases hlast
    simp at hrestart

theorem succeeded_call {steps : List Component} {es : List Event} {url : String} {dir : Path}
    {before after : Session} {outcome : Except AuditError Path} :
    Succeeded steps (es ++ [.call url dir before outcome after]) ↔
      (∃ p, outcome = .ok p) ∧ (target url dir).components = steps ∨ Succeeded steps es := by
  constructor
  · rintro ⟨past, url', dir', before', p, after', future, h, hrestart, hsteps⟩
    rcases List.eq_nil_or_concat future with rfl | ⟨future, e, rfl⟩
    · obtain ⟨-, hlast⟩ := List.append_inj' h rfl
      cases hlast
      exact .inl ⟨⟨p, rfl⟩, hsteps⟩
    · rw [List.concat_eq_append, ← List.cons_append, ← List.append_assoc] at h
      obtain ⟨hfirst, -⟩ := List.append_inj' h rfl
      exact .inr ⟨past, url', dir', before', p, after', future, hfirst,
        fun hmem => hrestart (by simp [hmem]), hsteps⟩
  · rintro (⟨⟨p, rfl⟩, hsteps⟩ | ⟨past, url', dir', before', p, after', future, rfl, hrestart, hsteps⟩)
    · exact ⟨es, url, dir, before, p, after, [], rfl, by simp, hsteps⟩
    · refine ⟨past, url', dir', before', p, after', future ++ [.call url dir before outcome after],
        by simp, ?_, hsteps⟩
      simpa using hrestart

section

variable {c : Store} {s s' : Session} {es : List Event}

/-- **The copies that are known** are those for which a call has succeeded. -/
theorem leads_held {files : FileTree} (h : Leads c (.start files) es s') (steps : List Component) :
    steps ∈ s'.held ↔ Succeeded steps es := by
  induction h with
  | nil => exact iff_of_false (List.not_mem_nil) (not_succeeded_nil steps)
  | @call es url dir before after outcome past run ih =>
    have hfetching := Store.fetching c url dir before
    rw [run] at hfetching
    rw [hfetching.mem_held, ih, succeeded_call]
  | restart past ih => exact iff_of_false (List.not_mem_nil) (not_succeeded_restart steps _)

/-- **What is there stays there** along a history. -/
theorem Leads.grows (h : Leads c s es s') (hrooted : s.files.Rooted)
    (hup : ∀ e ∈ es, ∀ url dir before outcome after, e = .call url dir before outcome after →
      ".." ∉ dir.segments) : s.files.Grows s'.files ∧ s'.files.Rooted := by
  induction h with
  | nil => exact ⟨.refl _, hrooted⟩
  | @call es url dir before after outcome past run ih =>
    rw [List.forall_mem_append] at hup
    obtain ⟨hgrows, hrooted'⟩ := ih hup.1
    have hfetching := Store.fetching c url dir before
    rw [run] at hfetching
    obtain ⟨hcall, hafter⟩ := hfetching.grows hrooted'
      (hup.2 _ (List.mem_singleton.2 rfl) _ _ _ _ _ rfl)
    exact ⟨hgrows.trans hcall, hafter⟩
  | restart past ih => exact ih (List.forall_mem_append.1 hup).1

end

/-- **Copies are written once**, in every run of commands of which no directory takes a step up. The
run has a history, made of the calls of each command, and of every call in it:

* it asks for its address just where no file is at the place of the copy, and no call for that place
  has succeeded since the cache last started over;
* what was there before the run is there at the call, and what is there at the call stays to the end
  of the run;
* if it fails, no file is written, and a call for the address after it asks again. -/
theorem copies_written_once {c : Store} {files : FileTree} {commands : List Command}
    (hrooted : files.Rooted) (hup : ∀ command ∈ commands, ∀ dir, command.directory? c = some dir →
      ".." ∉ dir.segments) :
    ∃ made : List (List Event), List.Forall₂ (Command.Makes c) made commands ∧
      Leads c (.start files) made.flatten (Command.performAll c commands (.start files)) ∧
      ∀ past url dir before outcome after future,
        made.flatten = past ++ .call url dir before outcome after :: future →
        (after.asked = url :: before.asked ∧ ¬before.files.isFile (target url dir) ∧
              ¬Succeeded (target url dir).components past ∨
            after.asked = before.asked ∧ (before.files.isFile (target url dir) ∨
              Succeeded (target url dir).components past)) ∧
          (files.Grows before.files ∧
            before.files.Grows (Command.performAll c commands (.start files)).files) ∧
          ∀ e, outcome = .error e → before.files.Widens after.files ∧
            (c.fetchInto url dir after).2.asked = url :: after.asked := by
  obtain ⟨made, hmade, hleads⟩ := exists_history c commands (.start files)
  refine ⟨made, hmade, hleads, fun past url dir before outcome after future hsplit => ?_⟩
  have hdir : ∀ e ∈ made.flatten, ∀ url dir before outcome after,
      e = .call url dir before outcome after → ".." ∉ dir.segments := by
    intro e he url dir before outcome after hcall
    obtain ⟨es, hes, hmem⟩ := List.mem_flatten.1 he
    obtain ⟨command, hcommand, hmakes⟩ := exists_right_of_forall₂ hmade hes
    exact hup command hcommand dir (hmakes.isCallIn e hmem _ _ _ _ _ hcall)
  rw [hsplit] at hleads hdir
  obtain ⟨hpast, hrun, hfuture⟩ := hleads.split
  rw [List.forall_mem_append, List.forall_mem_cons] at hdir
  obtain ⟨hdirPast, hdirCall, hdirFuture⟩ := hdir
  have hup' := hdirCall _ _ _ _ _ rfl
  have hfetching := Store.fetching c url dir before
  rw [hrun] at hfetching
  obtain ⟨hgrows, hrootedBefore⟩ := hpast.grows hrooted hdirPast
  obtain ⟨hgrowsCall, hrootedAfter⟩ := hfetching.grows hrootedBefore hup'
  have hgrowsFuture := (hfuture.grows hrootedAfter hdirFuture).1
  refine ⟨?_, ⟨hgrows, hgrowsCall.trans hgrowsFuture⟩, ?_⟩
  · rw [← leads_held hpast]
    exact hfetching.asked
  · rintro e rfl
    obtain ⟨hwidens, hheld, hmissing, hunknown⟩ := hfetching.failed
    refine ⟨hwidens, ?_⟩
    -- neither the file nor what is known of it has changed
    rcases (Store.fetching c url dir after).asked with ⟨hasked, -, -⟩ | ⟨-, hthere | hknown⟩
    · exact hasked
    · exact absurd
        ((hwidens.isFile_iff hrootedBefore (Store.up_not_mem_target url hup')).1 hthere) hmissing
    · rw [hheld] at hknown
      exact absurd hknown hunknown

/-- A first request that fails is made again, and no other after it, even by a cache that has started
over. -/
theorem copies_written_once_retried :
    let url := "http://[::1]/a.xsd"
    let c : Store := ⟨.ofText "/cache",
      ⟨fun asked url => if asked = [] then .error (.http url) else .ok [60, 97, 47, 62]⟩, 8⟩
    let commands : List Command := [.artifact "p" "t" "k" url, .artifact "p" "t" "k" url, .restart,
      .schema "p" "t" "k" url []]
    let last := Command.performAll c commands (.start (.empty ["cache"]))
    last.asked = [url, url] ∧ ∃ made : List (List Event),
      List.Forall₂ (Command.Makes c) made commands ∧
        Leads c (.start (.empty ["cache"])) made.flatten last := by
  intro url c commands last
  have hup : ∀ command ∈ commands, ∀ dir, command.directory? c = some dir →
      ".." ∉ dir.segments := by
    have hdir : ".." ∉ (c.directory "p" "t" "k").segments := by decide +kernel
    intro command hcommand dir h
    simp only [commands, List.mem_cons, List.not_mem_nil, or_false] at hcommand
    rcases hcommand with rfl | rfl | rfl | rfl
    · cases h
      exact hdir
    · cases h
      exact hdir
    · cases h
    · cases h
      exact hdir
  obtain ⟨made, hmade, hleads, -⟩ := copies_written_once (c := c) (rooted_empty ["cache"]) hup
  exact ⟨by decide +kernel, made, hmade, hleads⟩

/-- Where a step is taken up from a directory that is yet to be made, **a copy is overwritten**: the
first call for it does not find it, and then makes the directory. -/
theorem copies_overwritten :
    let url := "http://[::1]/a.xsd"
    let c : Store := ⟨.ofText "/cache", ⟨fun asked _ => .ok [.ofNat asked.length]⟩, 8⟩
    let first : Command := .artifact "p" "t" "k" url
    let second : Command := .artifact "new/../p" "t" "k" url
    let session (commands : List Command) := Command.performAll c commands (.start (.empty ["cache"]))
    let copy := target url (c.directory "p" "t" "k")
    (FileTree.empty ["cache"]).Rooted ∧ (session [first]).files.read copy = .ok [0] ∧
      (session [first, second]).files.read copy = .ok [1] :=
  ⟨rooted_empty ["cache"], by decide +kernel, by decide +kernel⟩

end XmlAudit.Remote
