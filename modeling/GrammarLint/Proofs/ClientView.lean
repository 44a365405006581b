import GrammarLint.Proofs.Sessions
import Mathlib

/-!
# What an editor was told last is never stale

An editor and a server talk in events: documents are opened, changed, saved and
closed in any order, several at a time, and the server publishes diagnostics
now and then. The editor shows for each document what was published last. This
file proves that this is always the right thing: for a grammar the verdict on
its present text under the present settings, for a closed document nothing, and
for a document that is no grammar whatever there was before it was opened.

What the editor has open is kept on a `Desk`, a list of documents under the
addresses as the editor wrote them. It knows nothing of the server: an event
changes it by what the event says. The server keeps its documents under decoded
addresses, so the two agree only if different documents have different decoded
addresses, and this is one of the two things that is asked of the editor. The
other is that it speaks only of documents it has open, and that the settings
are loaded while there are none.

The proof is an induction over the run. `Desk.Backs` ties the desk to the
session: a document on the desk is found in the session, as it is. One event
keeps that tie (`Desk.Backs.step`) and publishes, for a document on the desk,
the verdict or nothing (`Desk.Backs.publishedFor_step`). All four statements
follow from these two facts.

A document without a language is no grammar by its language, not even where the
settings list the empty one. The last section shows that the statement fails
without this exception.
-/

namespace GrammarLint

/-- The documents that an editor has open, under the addresses it wrote. -/
abbrev Desk := List Document

namespace Desk

/-- The editor has a document open at this address. -/
def Holds (desk : Desk) (uri : Text) : Prop :=
  ∃ document ∈ desk, document.uri = uri

/-- The desk after an event. An address that cannot be taken apart opens
nothing; of several new texts the last one counts. -/
def next (desk : Desk) : EditorEvent → Desk
  | .opened uri languageId text =>
    if (Uri.ofText? uri).isSome then ⟨uri, languageId, text⟩ ::
    desk.filter (·.uri ≠ uri) else desk
  | .changed uri texts =>
    match texts.getLast? with
    | none => desk
    | some text => desk.map fun document =>
      if document.uri = uri then { document with text } else document
  | .closed uri => desk.filter (·.uri ≠ uri)
  | _ => desk

/-- The event speaks of a document that is open, and the settings are
loaded only while none is. -/
def Allows (desk : Desk) : EditorEvent → Prop
  | .started _ => desk = []
  | .reload => desk = []
  | .changed uri _ => desk.Holds uri
  | .saved uri => desk.Holds uri
  | .closed uri => desk.Holds uri
  | _ => True

/-- Different documents have different decoded addresses. -/
def Apart (desk : Desk) : Prop :=
  ∀ a ∈ desk, ∀ b ∈ desk, Percent.decode a.uri = Percent.decode b.uri →
    a.uri = b.uri

/-- A run of events that an editor may send, from a desk on. -/
def Orderly (desk : Desk) : List EditorEvent → Prop
  | [] => True
  | event :: events =>
    desk.Allows event ∧ (desk.next event).Apart ∧
    (desk.next event).Orderly events

instance (desk : Desk) (uri : Text) : Decidable (desk.Holds uri) :=
  inferInstanceAs (Decidable (∃ document ∈ desk, document.uri = uri))

instance (desk : Desk) : (event : EditorEvent) → Decidable (desk.Allows event)
  | .started _ => inferInstanceAs (Decidable (desk = []))
  | .reload => inferInstanceAs (Decidable (desk = []))
  | .changed uri _ => inferInstanceAs (Decidable (desk.Holds uri))
  | .saved uri => inferInstanceAs (Decidable (desk.Holds uri))
  | .closed uri => inferInstanceAs (Decidable (desk.Holds uri))
  | .opened _ _ _ => isTrue trivial
  | .symbols _ => isTrue trivial

instance (desk : Desk) : Decidable desk.Apart :=
  inferInstanceAs (Decidable (∀ a ∈ desk, ∀ b ∈ desk, _))

instance decidableOrderly (desk : Desk) :
    (events : List EditorEvent) → Decidable (desk.Orderly events)
  | [] => isTrue trivial
  | event :: events =>
    have := decidableOrderly (desk.next event) events
    inferInstanceAs (Decidable (_ ∧ _ ∧ _))

end Desk

/-! ## Runs

A run is a list of events, each with the disk that it meets. It leaves a desk
with the editor and a session with the server; the transcript is everything
that the server said meanwhile. -/

abbrev Run := List (Disk × EditorEvent)

def Run.events (run : Run) : List EditorEvent := run.map Prod.snd

def Run.desk (run : Run) : Desk := run.events.foldl Desk.next []

namespace Session

def resume (session : Session) (run : Run) : Session :=
  run.foldl (fun session moment => (session.step moment.1 moment.2).1) session

def transcript (session : Session) : Run → List Emission
  | [] => []
  | moment :: run =>
    (session.step moment.1 moment.2).2.emissions ++
      (session.step moment.1 moment.2).1.transcript run

end Session

/-- The event opens a document at this address. -/
def EditorEvent.Opens (uri : Text) : EditorEvent → Prop
  | .opened other _ _ => other = uri
  | _ => False

/-- What an editor sees is right, under a notion of which documents are
grammars. The fields speak of the run as a whole: of documents on the desk
it leaves, of the moment at which one was opened or closed for the last
time, and of every event. -/
structure Session.Current (start : Session) (grammar : Config → Document → Prop)
    (run : Run) :
    Prop where
  /-- For a grammar the verdict on its text was published last. -/
  grammars : ∀ document ∈ run.desk, grammar (start.resume run).config document →
    (publishedFor document.uri (start.transcript run)).getLast? =
      some ((start.resume run).verdict document.text)
  /-- For any other document nothing has been published since it was opened. -/
  others : ∀ document ∈ run.desk, ¬ grammar (start.resume run).config document →
    ∀ earlier disk languageId text later,
      run = earlier ++ (disk, .opened document.uri languageId text) :: later →
      (∀ moment ∈ later, ¬ moment.2.Opens document.uri) →
      publishedFor document.uri ((start.resume earlier).transcript
        ((disk, .opened document.uri languageId text) :: later)) = []
  /-- For a document that was closed, and not opened again, nothing
  was published last. -/
  closed : ∀ uri earlier disk later,
    run = earlier ++ (disk, .closed uri) :: later →
    (∀ moment ∈ later, ¬ moment.2.Opens uri) →
    (publishedFor uri (start.transcript run)).getLast? = some []
  /-- An event publishes for the document it is about and for no other. -/
  subjects : ∀ earlier disk event later,
    run = earlier ++ (disk, event) :: later →
    ∀ uri diagnostics,
      .publish uri diagnostics ∈ ((start.resume earlier).step disk
        event).2.emissions →
      event.subject? = some uri

theorem Run.desk_append (run more : Run) :
    Run.desk (run ++ more) = more.events.foldl Desk.next run.desk := by
  rw [Run.desk, Run.desk, Run.events, Run.events, List.map_append,
    List.foldl_append]
  rfl

theorem Session.resume_concat (start : Session) (run : Run) (disk : Disk)
    (event : EditorEvent) :
    start.resume (run ++ [(disk, event)]) =
      ((start.resume run).step disk event).1 := by
  rw [resume, resume, List.foldl_append]
  rfl

theorem Session.transcript_append (start : Session) (run more : Run) :
    start.transcript (run ++ more) =
      start.transcript run ++ (start.resume run).transcript more := by
  induction run generalizing start with
  | nil => rfl
  | cons moment run ih =>
      rw [List.cons_append, transcript, transcript, ih, List.append_assoc]
      rfl

theorem Session.transcript_single (start : Session) (disk : Disk)
    (event : EditorEvent) :
    start.transcript [(disk, event)] = (start.step disk event).2.emissions := by
  rw [transcript, transcript, List.append_nil]

theorem Desk.orderly_append {desk : Desk} {events more : List EditorEvent} :
    desk.Orderly (events ++ more) ↔
      desk.Orderly events ∧
      Desk.Orderly (events.foldl Desk.next desk) more := by
  induction events generalizing desk with
  | nil => simp [Orderly]
  | cons event events ih =>
      rw [List.cons_append, Orderly, Orderly, ih, List.foldl_cons, and_assoc,
        and_assoc]

/-- Every document on the desk is found in the session as it is. Its address
could be taken apart, and no other document has the same decoded address. -/
structure Desk.Backs (desk : Desk) (session : Session) : Prop where
  found : ∀ document ∈ desk, session.document? document.uri = some document
  legible : ∀ document ∈ desk, (Uri.ofText? document.uri).isSome = true
  apart : desk.Apart

namespace Desk

variable {desk : Desk} {session : Session} {event : EditorEvent}

theorem backs_nil (session : Session) : Desk.Backs [] session :=
  ⟨by simp, by simp, by simp [Apart]⟩

/-- A document that an event leaves on the desk without opening it was there
before, perhaps with another text. -/
theorem mem_next {document : Document} (h : document ∈ desk.next event)
    (hopens : ¬ event.Opens document.uri) :
    ∃ before ∈ desk, before.uri = document.uri ∧
      before.languageId = document.languageId ∧
      (event.subject? ≠ some document.uri → before = document) := by
  cases event with
  | opened uri languageId text =>
      rw [next] at h
      split at h
      · rcases List.mem_cons.mp h with rfl | h
        · exact absurd rfl hopens
        · exact ⟨document, (List.mem_filter.mp h).1, rfl, rfl, fun _ => rfl⟩
      · exact ⟨document, h, rfl, rfl, fun _ => rfl⟩
  | changed uri texts =>
      rw [next] at h
      split at h
      · exact ⟨document, h, rfl, rfl, fun _ => rfl⟩
      · obtain ⟨before, hbefore, rfl⟩ := List.mem_map.mp h
        refine ⟨before, hbefore, ?_⟩
        split
        · next huri => exact ⟨rfl, rfl,
            fun hsubject => absurd (congrArg some huri.symm) hsubject⟩
        · exact ⟨rfl, rfl, fun _ => rfl⟩
  | closed uri =>
      exact ⟨document, (List.mem_filter.mp h).1, rfl, rfl, fun _ => rfl⟩
  | started | reload | saved | symbols =>
      exact ⟨document, h, rfl, rfl, fun _ => rfl⟩

/-- A document that is put on the desk in place of the one at its
address, and is kept in the session for that address, leaves the tie to
the others as it was. -/
theorem Backs.keep {after : Desk} (h : desk.Backs session) (kept : Document)
    (hlegible : (Uri.ofText? kept.uri).isSome = true) (hapart : after.Apart)
    (hkept : kept ∈ after)
    (hafter : ∀ document ∈ after, document = kept ∨
      document ∈ desk ∧ document.uri ≠ kept.uri) :
    after.Backs (session.keep kept.uri kept) := by
  refine ⟨fun document hmem => ?_, fun document hmem => ?_, hapart⟩
  · rcases hafter document hmem with rfl | ⟨hbefore, hne⟩
    · exact session.document?_keep_self document.uri document
    · rw [Session.document?_keep fun hdecode => hne
        (hapart document hmem kept hkept hdecode)]
      exact h.found document hbefore
  · rcases hafter document hmem with rfl | ⟨hbefore, -⟩
    · exact hlegible
    · exact h.legible document hbefore

theorem Backs.forget {shut : Document} {after : Desk} (h : desk.Backs session)
    (hshut : shut ∈ desk) (hapart : after.Apart)
    (hafter : ∀ document ∈ after, document ∈ desk ∧ document.uri ≠ shut.uri) :
    after.Backs (session.forget shut.uri) := by
  refine ⟨fun document hmem => ?_, fun document hmem => ?_, hapart⟩
  · obtain ⟨hbefore, hne⟩ := hafter document hmem
    rw [Session.document?_forget fun hdecode => hne
      (h.apart document hbefore shut hshut hdecode)]
    exact h.found document hbefore
  · exact h.legible document (hafter document hmem).1

theorem Backs.unique {a b : Document} (h : desk.Backs session) (ha : a ∈ desk)
    (hb : b ∈ desk) (huri : a.uri = b.uri) : a = b := by
  have hsame := h.found a ha
  rw [huri, h.found b hb] at hsame
  exact (Option.some.inj hsame).symm

/-- An event that the desk allows keeps the tie. -/
theorem Backs.step (h : desk.Backs session) (hallows : desk.Allows event)
    (hapart : (desk.next event).Apart) (disk : Disk) :
    (desk.next event).Backs (session.step disk event).1 := by
  cases event with
  | started root =>
      obtain rfl : desk = [] := hallows
      exact backs_nil _
  | reload =>
      obtain rfl : desk = [] := hallows
      exact backs_nil _
  | opened uri languageId text =>
      rw [next] at hapart ⊢
      rw [Session.step]
      by_cases huri : (Uri.ofText? uri).isSome = true
      · rw [if_pos huri] at hapart ⊢
        rw [if_neg (by simp [Option.isSome_iff_ne_none.mp huri])]
        refine h.keep ⟨uri, languageId, text⟩ huri hapart List.mem_cons_self ?_
        intro document hmem
        refine (List.mem_cons.mp hmem).imp_right fun hrest => ?_
        simpa using List.mem_filter.mp hrest
      · rw [if_neg huri]
        rw [if_pos (by simpa using huri)]
        exact h
  | changed uri texts =>
      obtain ⟨before, hbefore, rfl⟩ := hallows
      rw [next] at hapart ⊢
      rw [Session.step]
      generalize texts.getLast? = last at hapart ⊢
      cases last with
      | none => exact h
      | some text =>
          simp only [h.found before hbefore]
          refine h.keep { before with text } (h.legible before hbefore)
            hapart ?_ ?_
          · exact List.mem_map.mpr ⟨before, hbefore, if_pos rfl⟩
          · intro document hmem
            obtain ⟨earlier, hearlier, rfl⟩ := List.mem_map.mp hmem
            by_cases huri : earlier.uri = before.uri
            · rw [if_pos huri, h.unique hearlier hbefore huri]
              exact .inl rfl
            · rw [if_neg huri]
              exact .inr ⟨hearlier, huri⟩
  | saved uri => exact h
  | closed uri =>
      obtain ⟨shut, hshut, rfl⟩ := hallows
      refine h.forget hshut hapart fun document hmem => ?_
      simpa using List.mem_filter.mp hmem
  | symbols uri =>
      rw [Session.step]
      split
      · exact h
      · exact h

/-- An event about a document that it leaves on the desk publishes the verdict
if the document is a grammar, and nothing otherwise. -/
theorem Backs.publishedFor_step {document : Document} (h : desk.Backs session)
    (hallows : desk.Allows event) (hapart : (desk.next event).Apart)
    (disk : Disk) (hmem : document ∈ desk.next event)
    (hsubject : event.subject? = some document.uri) :
    publishedFor document.uri (session.step disk event).2.emissions =
      if document.IsGrammar (session.step disk event).1.config then
        [(session.step disk event).1.verdict document.text]
      else [] := by
  have hopen := (h.step hallows hapart disk).found document hmem
  cases event with
  | started | reload | symbols => cases hsubject
  | opened uri languageId text =>
      obtain rfl : uri = document.uri := Option.some.inj hsubject
      by_cases huri : (Uri.ofText? document.uri).isSome = true
      · rw [Session.step,
          if_neg (by simp [Option.isSome_iff_ne_none.mp huri])] at hopen ⊢
        exact Session.publishedFor_check hopen disk
      · rw [next, if_neg huri] at hmem
        exact absurd (h.legible document hmem) huri
  | changed uri texts =>
      obtain rfl : uri = document.uri := Option.some.inj hsubject
      rw [Session.step] at hopen ⊢
      split at hopen
      · exact Session.publishedFor_check hopen disk
      · next hnone => exact absurd hopen (by simp [hnone])
      · exact Session.publishedFor_check hopen disk
  | saved uri =>
      obtain rfl : uri = document.uri := Option.some.inj hsubject
      exact Session.publishedFor_check hopen disk
  | closed uri =>
      obtain rfl : uri = document.uri := Option.some.inj hsubject
      exact absurd (List.mem_filter.mp hmem).2 (by simp)

/-- While a document is on the desk the settings stay as they are. -/
theorem settings_of_mem_next {document : Document} (hallows : desk.Allows event)
    (hmem : document ∈ desk.next event) (disk : Disk) :
    (session.step disk event).1.config = session.config ∧
      (session.step disk event).1.unit = session.unit := by
  refine Session.step_settings ?_ ?_
  · intro root heq
    subst heq
    obtain rfl : desk = [] := hallows
    cases hmem
  · intro heq
    subst heq
    obtain rfl : desk = [] := hallows
    cases hmem

/-- An event about a document that it does not open finds it on the desk. -/
theorem holds_of_subject {uri : Text} (hallows : desk.Allows event)
    (hsubject : event.subject? = some uri) (hopens : ¬ event.Opens uri) :
    desk.Holds uri := by
  cases event with
  | started | reload | symbols => cases hsubject
  | opened other languageId text =>
      exact absurd (Option.some.inj hsubject) hopens
  | changed other texts => exact Option.some.inj hsubject ▸ hallows
  | saved other => exact Option.some.inj hsubject ▸ hallows
  | closed other => exact Option.some.inj hsubject ▸ hallows

/-- A document that is not on the desk is not put there but by opening it. -/
theorem not_holds_foldl {uri : Text} {events : List EditorEvent}
    (h : ¬ desk.Holds uri) (hopens : ∀ event ∈ events, ¬ event.Opens uri) :
    ¬ Desk.Holds (events.foldl Desk.next desk) uri := by
  induction events generalizing desk with
  | nil => exact h
  | cons event events ih =>
      refine ih ?_ fun later hlater =>
        hopens later (List.mem_cons_of_mem event hlater)
      intro hgiven
      obtain ⟨document, hmem, rfl⟩ := hgiven
      obtain ⟨before, hbefore, huri, -⟩ :=
        mem_next hmem (hopens event List.mem_cons_self)
      exact h ⟨before, hbefore, huri⟩

end Desk

theorem EditorEvent.subject?_of_opens {event : EditorEvent} {uri : Text}
    (h : event.Opens uri) :
    event.subject? = some uri := by
  cases event with
  | opened other languageId text => exact congrArg some h
  | started | reload | changed | saved | closed | symbols => cases h

theorem Run.not_holds_of_closed (earlier : Run) (place : Disk) {later : Run}
    {uri : Text} (hlater : ∀ moment ∈ later, ¬ moment.2.Opens uri) :
    ¬ Desk.Holds (Run.desk (earlier ++ (place, .closed uri) :: later)) uri := by
  rw [Run.desk_append]
  change ¬ Desk.Holds ((Run.events later).foldl Desk.next
    (earlier.desk.next (.closed uri))) uri
  refine Desk.not_holds_foldl ?_ fun event hmem => ?_
  · intro h
    obtain ⟨document, hmem, rfl⟩ := h
    exact absurd (List.mem_filter.mp hmem).2 (by simp)
  · obtain ⟨moment, hmoment, rfl⟩ := List.mem_map.mp hmem
    exact hlater moment hmoment

theorem split_concat {α : Type} {past earlier later : List α} {last moment : α}
    (h : past ++ [last] = earlier ++ moment :: later) :
    (later = [] ∧ past = earlier ∧ last = moment) ∨
      ∃ middle, later = middle ++ [last] ∧
        past = earlier ++ moment :: middle := by
  rcases List.eq_nil_or_concat later with rfl | ⟨middle, final, rfl⟩
  · obtain ⟨hpast, hlast⟩ := List.append_inj' h rfl
    exact .inl ⟨rfl, hpast, List.singleton_inj.mp hlast⟩
  · rw [List.concat_eq_append, ← List.cons_append, ← List.append_assoc] at h
    obtain ⟨hpast, hlast⟩ := List.append_inj' h rfl
    obtain rfl := List.singleton_inj.mp hlast
    exact .inr ⟨middle, List.concat_eq_append, hpast⟩

namespace Session.Current

variable {start : Session} {run : Run} {disk : Disk} {event : EditorEvent}

theorem grammars_concat (h : start.Current Document.IsGrammar run)
    (hbacks : run.desk.Backs (start.resume run))
    (hallows : run.desk.Allows event) (hapart : (run.desk.next event).Apart)
    {document : Document} (hmem : document ∈ run.desk.next event)
    (hgrammar : document.IsGrammar
      ((start.resume run).step disk event).1.config) :
    (publishedFor document.uri (start.transcript run) ++
      publishedFor document.uri
        ((start.resume run).step disk event).2.emissions).getLast? =
      some (((start.resume run).step disk event).1.verdict document.text) := by
  by_cases hsubject : event.subject? = some document.uri
  · rw [hbacks.publishedFor_step hallows hapart disk hmem hsubject,
      if_pos hgrammar, List.getLast?_concat]
  · obtain ⟨before, hbefore, -, -, hsame⟩ :=
      Desk.mem_next hmem (mt EditorEvent.subject?_of_opens hsubject)
    obtain rfl := hsame hsubject
    obtain ⟨hconfig, hunit⟩ := Desk.settings_of_mem_next hallows hmem disk
    rw [Session.publishedFor_step_other hsubject, List.append_nil, verdict,
      hconfig, hunit]
    rw [hconfig] at hgrammar
    exact h.grammars before hbefore hgrammar

/-- For a document on the desk that is no grammar an event publishes nothing. -/
theorem publishedFor_other (hbacks : run.desk.Backs (start.resume run))
    (hallows : run.desk.Allows event) (hapart : (run.desk.next event).Apart)
    {document : Document} (hmem : document ∈ run.desk.next event)
    (hother : ¬ document.IsGrammar
      ((start.resume run).step disk event).1.config) :
    publishedFor document.uri ((start.resume run).step disk event).2.emissions =
      [] := by
  by_cases hsubject : event.subject? = some document.uri
  · rw [hbacks.publishedFor_step hallows hapart disk hmem hsubject,
      if_neg hother]
  · exact Session.publishedFor_step_other hsubject

theorem others_concat (h : start.Current Document.IsGrammar run)
    (hbacks : run.desk.Backs (start.resume run))
    (hallows : run.desk.Allows event) (hapart : (run.desk.next event).Apart)
    {document : Document} (hmem : document ∈ run.desk.next event)
    (hother : ¬ document.IsGrammar
        ((start.resume run).step disk event).1.config) {earlier later : Run}
        {place : Disk} {languageId text : Text}
        (hsplit : run ++ [(disk, event)] =
      earlier ++ (place, .opened document.uri languageId text) :: later)
    (hlater : ∀ moment ∈ later, ¬ moment.2.Opens document.uri) :
    publishedFor document.uri ((start.resume earlier).transcript
      ((place, .opened document.uri languageId text) :: later)) = [] := by
  have hquiet := publishedFor_other hbacks hallows hapart hmem hother
  rcases split_concat hsplit with ⟨rfl, rfl, hlast⟩ | ⟨middle, rfl, rfl⟩
  · obtain ⟨rfl, rfl⟩ := Prod.mk.inj hlast
    rw [transcript_single]
    exact hquiet
  · have hopens : ¬ event.Opens document.uri := hlater (disk, event) (by simp)
    obtain ⟨before, hbefore, huri, hlanguage, -⟩ := Desk.mem_next hmem hopens
    obtain ⟨hconfig, -⟩ := Desk.settings_of_mem_next hallows hmem disk
    have hbeforeOther : ¬ before.IsGrammar (start.resume
        (earlier ++ (place, .opened document.uri languageId text) ::
          middle)).config := by
      rw [hconfig] at hother
      rwa [Document.IsGrammar, huri, hlanguage]
    have hpast :=
      h.others before hbefore hbeforeOther earlier place languageId text middle
        (by rw [huri]) fun moment hmoment => by
          rw [huri]
          exact hlater moment (List.mem_append_left _ hmoment)
    rw [huri] at hpast
    rw [← List.cons_append, transcript_append, publishedFor_append, hpast,
      List.nil_append, transcript_single]
    rw [resume, List.foldl_append] at hquiet
    exact hquiet

theorem closed_concat (h : start.Current Document.IsGrammar run)
    (hallows : run.desk.Allows event) {uri : Text} {earlier later : Run}
    {place : Disk}
    (hsplit : run ++ [(disk, event)] = earlier ++ (place, .closed uri) :: later)
    (hlater : ∀ moment ∈ later, ¬ moment.2.Opens uri) :
    (publishedFor uri (start.transcript run) ++ publishedFor uri
      ((start.resume run).step disk event).2.emissions).getLast? = some [] := by
  rcases split_concat hsplit with ⟨rfl, rfl, hlast⟩ | ⟨middle, rfl, rfl⟩
  · obtain ⟨rfl, rfl⟩ := Prod.mk.inj hlast
    have hempty : publishedFor uri
        ((start.resume run).step disk (.closed uri)).2.emissions = [[]] :=
      publishedFor_publish uri [] []
    rw [hempty, List.getLast?_concat]
  · have hopens : ¬ event.Opens uri := hlater (disk, event) (by simp)
    have hmiddle : ∀ moment ∈ middle, ¬ moment.2.Opens uri :=
      fun moment hmoment => hlater moment (List.mem_append_left _ hmoment)
    have habsent := Run.not_holds_of_closed earlier place hmiddle
    have hsubject : event.subject? ≠ some uri :=
      fun hsubject => habsent (Desk.holds_of_subject hallows hsubject hopens)
    rw [Session.publishedFor_step_other hsubject, List.append_nil]
    exact h.closed uri earlier place middle rfl hmiddle

/-- One more event that the desk allows keeps the view right. -/
theorem concat (h : start.Current Document.IsGrammar run)
    (hbacks : run.desk.Backs (start.resume run))
    (hallows : run.desk.Allows event) (hapart : (run.desk.next event).Apart) :
    start.Current Document.IsGrammar (run ++ [(disk, event)]) := by
  have hdesk : Run.desk (run ++ [(disk, event)]) = run.desk.next event :=
    Run.desk_append run _
  refine ⟨?_, ?_, ?_, fun _ _ _ _ _ _ _ => Session.publish_subject⟩
  · intro document hmem hgrammar
    rw [hdesk] at hmem
    rw [resume_concat] at hgrammar ⊢
    rw [transcript_append, transcript_single, publishedFor_append]
    exact h.grammars_concat hbacks hallows hapart hmem hgrammar
  · intro document hmem hother earlier place languageId text later hsplit hlater
    rw [hdesk] at hmem
    rw [resume_concat] at hother
    exact h.others_concat hbacks hallows hapart hmem hother hsplit hlater
  · intro uri earlier place later hsplit hlater
    rw [transcript_append, transcript_single, publishedFor_append]
    exact h.closed_concat hallows hsplit hlater

end Session.Current

theorem Run.backs_and_current (start : Session) (run : Run)
    (horderly : Desk.Orderly [] run.events) :
    run.desk.Backs (start.resume run) ∧
    start.Current Document.IsGrammar run := by
  induction run using List.reverseRecOn with
  | nil =>
      refine ⟨Desk.backs_nil start, ?_, ?_, ?_, ?_⟩
      · intro document hmem
        cases hmem
      · intro document hmem
        cases hmem
      · intro uri earlier disk later hsplit
        simp at hsplit
      · intro earlier disk event later hsplit
        simp at hsplit
  | append_singleton run moment ih =>
      obtain ⟨disk, event⟩ := moment
      rw [Run.events, List.map_append, Desk.orderly_append] at horderly
      obtain ⟨hpast, hallows, hapart, -⟩ := horderly
      obtain ⟨hbacks, hcurrent⟩ := ih hpast
      refine ⟨?_, hcurrent.concat hbacks hallows hapart⟩
      rw [Run.desk_append, Session.resume_concat]
      exact hbacks.step hallows hapart disk

/-- After every event of an orderly run what the editor was told last is
right. -/
theorem published_view_current (start : Session) {run : Run}
    (horderly : Desk.Orderly [] run.events) {past : Run}
    (hpast : past <+: run) :
    start.Current Document.IsGrammar past := by
  obtain ⟨later, rfl⟩ := hpast
  rw [Run.events, List.map_append, Desk.orderly_append] at horderly
  exact (Run.backs_and_current start past horderly.1).2

/-- Two documents at a time: a grammar that is changed and saved, and a document
in another language that is closed in between. -/
theorem published_view_current_two :
    let grammar : Text := ['a', '.', 'l', 'a', 'r', 'k']
    let other : Text := ['b', '%', '2', '0']
    let disk : Disk := {}
    let run : Run := [
      (disk, .started none), (disk, .opened grammar [] ['s', ':', ' ', 'B']),
      (disk, .opened other ['c'] ['d']),
      (disk, .changed grammar [[], ['s', ':', ' ', 'E']]),
      (disk, .closed other), (disk, .saved grammar)]
    Desk.Orderly [] run.events ∧ run <+: run ∧
      run.desk = [⟨grammar, [], ['s', ':', ' ', 'E']⟩] ∧
      (publishedFor grammar (Session.transcript {} run)).getLast? =
        some (Session.verdict {} ['s', ':', ' ', 'E']) ∧
      Session.verdict {} ['s', ':', ' ', 'E'] ≠ [] ∧
      (publishedFor other (Session.transcript {} run)).getLast? = some [] := by
  intro grammar other disk run
  have horderly : Desk.Orderly [] run.events := by decide
  have hview := published_view_current {} horderly (List.prefix_refl run)
  refine ⟨horderly, List.prefix_refl run, by decide, ?_, by decide, ?_⟩
  · exact hview.grammars ⟨grammar, [], ['s', ':', ' ', 'E']⟩ (by decide)
      (by decide)
  · exact hview.closed other (run.take 4) disk [(disk, .saved grammar)] rfl
      (by simp [EditorEvent.Opens])

/-! ## Documents without a language

Settings may list the empty language, and an editor may open a document without
a language, under any address. The document is then in a listed language, word
for word, but it is not taken for a grammar. -/

/-- The language of the document is one of those listed, or its address
ends like a grammar's. -/
def Document.IsListed (config : Config) (document : Document) : Prop :=
  document.languageId ∈ config.languageIds ∨ Session.grammarEnding <:+
    document.uri

theorem not_current_of_unnamed {start : Session} {disk : Disk}
    {event : EditorEvent} {uri text : Text} {run : Run}
    (hrun : run = [(disk, event), (disk, .opened uri [] text)])
    (horderly : Desk.Orderly [] run.events)
    (huri : (Uri.ofText? uri).isSome = true)
    (hending : ¬ Session.grammarEnding <:+ uri)
    (hsubject : event.subject? ≠ some uri)
    (hlisted : [] ∈ (start.step disk event).1.config.languageIds) :
    ¬ start.Current Document.IsListed run := by
  subst hrun
  intro hview
  have hdesk : ⟨uri, [], text⟩ ∈ Run.desk [(disk, event),
      (disk, .opened uri [] text)] := by
    change _ ∈ Desk.next (Desk.next [] event) (.opened uri [] text)
    rw [Desk.next, if_pos huri]
    exact List.mem_cons_self
  have hsettings :
      (start.resume [(disk, event), (disk, .opened uri [] text)]).config =
        (start.step disk event).1.config :=
    (Session.step_settings (by simp) (by simp)).1
  have hlast := hview.grammars _ hdesk (.inl (hsettings ▸ hlisted))
  have hopened := (Run.backs_and_current start _ horderly).2.others _ hdesk
    (by simpa [Document.IsGrammar] using hending) [(disk, event)] disk [] text
    [] rfl (by simp)
  have hsilent : publishedFor uri
      (start.transcript [(disk, event), (disk, .opened uri [] text)]) = [] := by
    rw [Session.transcript, publishedFor_append,
      Session.publishedFor_step_other hsubject]
    exact hopened
  rw [hsilent] at hlast
  cases hlast

def unnamedSettings : Text := "language_ids=['']".toList

/-- A workspace whose settings list the empty language. -/
def unnamedDisk : Disk :=
  { entries := [([['r']], .directory),
      ([['r'], Config.fileName], .file (Utf8.encode unnamedSettings))] }

set_option maxRecDepth 10000 in
theorem read_unnamedSettings :
    Toml.read unnamedDisk.room.values unnamedSettings =
      .ok [("language_ids".toList, .array [.text []])] := by
  change Toml.read 986 unnamedSettings = _
  cbv

theorem resolve_unnamedDisk :
    Config.resolve unnamedDisk (.absolute [['r']]) none =
      .ok { root := .absolute [['r']], languageIds := [[]],
            file := some (.absolute [['r'], Config.fileName]) } := by
  have hfind : Config.find unnamedDisk (.absolute [['r']]) =
      .ok (some (.absolute [['r'], Config.fileName])) := by decide +kernel
  have hread : unnamedDisk.readText (.absolute [['r'], Config.fileName]) =
      .ok unnamedSettings := by rfl
  have hsettings :
      Config.settingsIn unnamedDisk (.absolute [['r'], Config.fileName]) =
        .ok (some (.table [("language_ids".toList, .array [.text []])])) := by
    simp only [Config.settingsIn, hread, read_unnamedSettings]
    rfl
  rw [Config.resolve, hfind]
  change Config.load unnamedDisk (.absolute [['r'], Config.fileName]) = _
  rw [Config.load, hsettings]
  rfl

theorem languageIds_unnamedDisk :
    (Session.step unnamedDisk {}
      (.started (some "file:///r".toList))).1.config.languageIds = [[]] := by
  have haddress : Uri.ofText? "file:///r".toList =
      some ⟨"file".toList, [], "/r".toList⟩ := by
    decide
  have hpath : Uri.filePath? ⟨"file".toList, [], "/r".toList⟩ =
      some "/r".toList := by
    decide
  have hroot : Path.ofText "/r".toList = .absolute [['r']] := by decide
  simp only [Session.step, haddress, hpath, hroot, Session.loadConfig,
    resolve_unnamedDisk]

theorem unnamed_language_unpublished :
    let run : Run := [(unnamedDisk, .started (some "file:///r".toList)),
      (unnamedDisk, .opened ['u'] [] ['a'])]
    Desk.Orderly [] run.events ∧
      ¬ Session.Current {} Document.IsListed run := by
  intro run
  have horderly : Desk.Orderly [] run.events := by decide
  refine ⟨horderly, not_current_of_unnamed rfl horderly (by decide) (by decide)
    (by decide) ?_⟩
  rw [languageIds_unnamedDisk]
  exact List.mem_singleton_self []

end GrammarLint
