import GrammarLint.Server.Session

/-!
# What one event does to a session

A session keeps its documents under decoded addresses, and an event names a
document by an address as it was written. This file says, event by event, what
is left in the session and what is published.

Publishing goes through one function, `Session.check`, and through the closing
of a document. For a document that is open the check never looks at the disk and
never fails: it publishes the verdict on the text if the document is a grammar,
and nothing otherwise. Whatever the state, nothing is ever published but for the
document that the event is about (`Session.publish_subject`).
-/

namespace GrammarLint

/-- The document is a grammar under these settings: it has a language, and the
settings list it, or its address ends like a grammar's. -/
def Document.IsGrammar (config : Config) (document : Document) : Prop :=
  (document.languageId ≠ [] ∧ document.languageId ∈ config.languageIds) ∨
    Session.grammarEnding <:+ document.uri

instance (config : Config) (document : Document) :
    Decidable (document.IsGrammar config) :=
  inferInstanceAs (Decidable (_ ∨ _))

namespace Session

/-- What an editor is to be told of a text. -/
def verdict (session : Session) (text : Text) : List ClientDiagnostic :=
  (session.config.filter (validate (Text.lines text))).map
    (.ofDiagnostic (.inLines session.unit (Text.lines text)))

variable {session : Session} {uri : Text} {document : Document}

theorem isGrammar_iff (hopen : session.document? uri = some document) :
    session.isGrammar uri = true ↔ document.IsGrammar session.config := by
  rw [isGrammar, hopen]
  simp [Document.IsGrammar]

theorem textAt_document (hopen : session.document? uri = some document)
    (disk : Disk) :
    session.textAt disk uri = .ok document.text := by
  rw [textAt, hopen]

theorem check_grammar (hopen : session.document? uri = some document)
    (hgrammar : document.IsGrammar session.config) (disk : Disk) :
    ∃ message, (session.check disk uri).emissions =
      [.publish uri (session.verdict document.text), .info message] := by
  rw [check, if_neg (by simp [canHold, hopen]),
    if_pos ((isGrammar_iff hopen).mpr hgrammar), textAt_document hopen]
  exact ⟨_, rfl⟩

theorem check_other (hopen : session.document? uri = some document)
    (hother : ¬ document.IsGrammar session.config) (disk : Disk) :
    (session.check disk uri).emissions = [] := by
  rw [check, if_neg (by simp [canHold, hopen]),
    if_neg (mt (isGrammar_iff hopen).mp hother)]

theorem symbols_document (hopen : session.document? uri = some document)
    (disk : Disk) :
    (session.step disk (.symbols uri)).2.outcome =
      .ok (clientSymbols (.inLines session.unit (Text.lines document.text))
        (Text.lines document.text)) := by
  rw [step, textAt_document hopen]

end Session

/-- What an emission publishes for an address. -/
def Emission.publishedFor? (uri : Text) :
    Emission → Option (List ClientDiagnostic)
  | .publish other diagnostics => if other = uri then some diagnostics else none
  | _ => none

/-- What is published for an address, in order. -/
def publishedFor (uri : Text) (said : List Emission) :
    List (List ClientDiagnostic) :=
  said.filterMap (Emission.publishedFor? uri)

theorem publishedFor_append (uri : Text) (said more : List Emission) :
    publishedFor uri (said ++ more) =
      publishedFor uri said ++ publishedFor uri more :=
  List.filterMap_append

theorem publishedFor_info (uri : Text) (message : String)
    (said : List Emission) :
    publishedFor uri (.info message :: said) = publishedFor uri said := rfl

theorem publishedFor_publish (uri : Text) (diagnostics : List ClientDiagnostic)
    (said : List Emission) :
    publishedFor uri (.publish uri diagnostics :: said) =
      diagnostics :: publishedFor uri said := by
  simp [publishedFor, Emission.publishedFor?]

theorem publishedFor_eq_nil {uri : Text} {said : List Emission}
    (h : ∀ diagnostics, .publish uri diagnostics ∉ said) :
    publishedFor uri said = [] := by
  rw [publishedFor, List.filterMap_eq_nil_iff]
  intro emission hmem
  cases emission with
  | publish other diagnostics =>
      by_cases hother : other = uri
      · subst hother
        exact absurd hmem (h diagnostics)
      · exact if_neg hother
  | info | error => rfl

/-- The address of the document that an event opens, changes, saves or
closes. -/
def EditorEvent.subject? : EditorEvent → Option Text
  | .opened uri _ _ => some uri
  | .changed uri _ => some uri
  | .saved uri => some uri
  | .closed uri => some uri
  | _ => none

namespace Session

theorem publish_check {session : Session} {disk : Disk} {uri other : Text}
    {diagnostics : List ClientDiagnostic}
    (h : .publish other diagnostics ∈ (session.check disk uri).emissions) :
    uri = other := by
  rw [check] at h
  split at h
  · cases h
  · split at h
    · split at h
      · cases h
      · simp at h
        exact h.1.symm
    · cases h

theorem publish_loadConfig {session : Session} {disk : Disk} {other : Text}
    {diagnostics : List ClientDiagnostic} :
    .publish other diagnostics ∉ (session.loadConfig disk).2.emissions := by
  intro h
  rw [loadConfig] at h
  split at h
  · cases h
  · split at h
    · cases h
    · split at h
      · simp at h
      · cases h

theorem publish_after {message : String} {reply : Reply} {other : Text}
    {diagnostics : List ClientDiagnostic} :
    .publish other diagnostics ∈ (after message reply).emissions ↔
      .publish other diagnostics ∈ reply.emissions := by
  simp [after]

/-- Nothing is published but for the document that an event is about. -/
theorem publish_subject {session : Session} {disk : Disk} {event : EditorEvent}
    {other : Text} {diagnostics : List ClientDiagnostic}
    (h : .publish other diagnostics ∈ (session.step disk event).2.emissions) :
    event.subject? = some other := by
  cases event with
  | started root =>
      cases root with
      | none => cases h
      | some uri =>
          rw [step] at h
          split at h
          · cases h
          · split at h
            · cases h
            · exact absurd (publish_after.mp h) publish_loadConfig
  | reload => exact absurd h publish_loadConfig
  | opened uri languageId text =>
      rw [step] at h
      split at h
      · cases h
      · exact congrArg some (publish_check (publish_after.mp h))
  | changed uri texts =>
      rw [step] at h
      split at h
      · exact congrArg some (publish_check h)
      · cases h
      · exact congrArg some (publish_check h)
  | saved uri => exact congrArg some (publish_check (publish_after.mp h))
  | closed uri =>
      simp [step] at h
      exact congrArg some h.1.symm
  | symbols uri =>
      rw [step] at h
      split at h
      · cases h
      · cases h

theorem publishedFor_step_other {session : Session} {disk : Disk}
    {event : EditorEvent} {uri : Text} (h : event.subject? ≠ some uri) :
    publishedFor uri (session.step disk event).2.emissions = [] :=
  publishedFor_eq_nil fun _ hmem => h (publish_subject hmem)

/-- What the check of an open document publishes. -/
theorem publishedFor_check {session : Session} {uri : Text}
    {document : Document} (hopen : session.document? uri = some document)
    (disk : Disk) :
    publishedFor uri (session.check disk uri).emissions =
      if document.IsGrammar session.config then [session.verdict document.text]
        else [] := by
  split
  · next hgrammar =>
      obtain ⟨message, hsaid⟩ := check_grammar hopen hgrammar disk
      rw [hsaid, publishedFor_publish, publishedFor_info]
      rfl
  · next hother =>
      rw [check_other hopen hother]
      rfl

theorem lookup_filter_ne {key other : Text} (documents : List (Text × Document))
    (h : other ≠ key) :
    (documents.filter fun entry => entry.1 != key).lookup other =
      documents.lookup other := by
  induction documents with
  | nil => rfl
  | cons entry documents ih =>
      by_cases hkey : entry.1 = key
      · rw [List.filter_cons_of_neg (by simp [hkey]), ih, List.lookup_cons,
          beq_false_of_ne (hkey ▸ h)]
      · rw [List.filter_cons_of_pos (by simp [hkey]), List.lookup_cons,
          List.lookup_cons, ih]

theorem document?_forget {session : Session} {uri other : Text}
    (h : Percent.decode other ≠ Percent.decode uri) :
    (session.forget uri).document? other = session.document? other :=
  lookup_filter_ne session.documents h

theorem document?_keep_self (session : Session) (uri : Text)
    (document : Document) :
    (session.keep uri document).document? uri = some document := by
  rw [keep, document?, List.lookup_cons_self]

theorem document?_keep {session : Session} {uri other : Text}
    {document : Document} (h : Percent.decode other ≠ Percent.decode uri) :
    (session.keep uri document).document? other = session.document? other := by
  rw [keep, document?, List.lookup_cons, beq_false_of_ne h]
  exact document?_forget h

/-- Only the events of a workspace change the settings. -/
theorem step_settings {session : Session} {disk : Disk} {event : EditorEvent}
    (hstarted : ∀ root, event ≠ .started root) (hreload : event ≠ .reload) :
    (session.step disk event).1.config = session.config ∧
      (session.step disk event).1.unit = session.unit := by
  cases event with
  | started root => exact absurd rfl (hstarted root)
  | reload => exact absurd rfl hreload
  | opened uri languageId text =>
      rw [step]
      split
      · exact ⟨rfl, rfl⟩
      · exact ⟨rfl, rfl⟩
  | changed uri texts =>
      rw [step]
      split
      · exact ⟨rfl, rfl⟩
      · exact ⟨rfl, rfl⟩
      · exact ⟨rfl, rfl⟩
  | saved | closed => exact ⟨rfl, rfl⟩
  | symbols uri =>
      rw [step]
      split
      · exact ⟨rfl, rfl⟩
      · exact ⟨rfl, rfl⟩

end Session

end GrammarLint
