import GrammarLint.Project.Discovery
import GrammarLint.Server.Client
import GrammarLint.Server.Uri

/-!
# Editor sessions

A session keeps the settings of a workspace and the documents that are open.
Every event gives the next session and what it makes the server say: diagnostics
for the editor, lines for the log, and the answer or the failure. A document is
known by its decoded address, so two spellings of one address are one document;
one that is not open is read from its file when its text is needed.
-/

namespace GrammarLint

/-- An open document. -/
structure Document where
  /-- The address under which it was opened. -/
  uri : Text
  languageId : Text
  text : Text
  deriving DecidableEq, Repr, Inhabited

/-- The state of a server. -/
structure Session where
  unit : PositionUnit := .utf16
  root : Option Path := none
  config : Config := {}
  /-- Open documents under their decoded addresses. -/
  documents : List (Text × Document) := []
  deriving Inhabited

/-- What an editor tells. -/
inductive EditorEvent where
  | started (root : Option Text)
  | reload
  | opened (uri languageId text : Text)
  | changed (uri : Text) (texts : List Text)
  | saved (uri : Text)
  | closed (uri : Text)
  | symbols (uri : Text)
  deriving Repr, Inhabited

/-- What a server says. -/
inductive Emission where
  | publish (uri : Text) (diagnostics : List ClientDiagnostic)
  | info (message : String)
  | error (message : String)
  deriving DecidableEq, Repr, Inhabited

/-- What came of an event: what was said, and the symbols or the failure. -/
structure Reply where
  emissions : List Emission := []
  outcome : Except Failure (List ClientSymbol) := .ok []
  deriving Inhabited

namespace Session

/-! ## Documents -/

/-- The open document at an address. -/
def document? (session : Session) (uri : Text) : Option Document :=
  session.documents.lookup (Percent.decode uri)

/-- Forgets the document at an address. -/
def forget (session : Session) (uri : Text) : Session :=
  { session with
    documents :=
      session.documents.filter fun (key, _) => key != Percent.decode uri }

/-- Keeps a document for an address. -/
def keep (session : Session) (uri : Text) (document : Document) : Session :=
  let session := session.forget uri
  { session with
    documents := (Percent.decode uri, document) :: session.documents }

/-- The text at an address: of the open document, else of the file. -/
def textAt (session : Session) (disk : Disk) (uri : Text) :
    Except Failure Text :=
  match session.document? uri with
  | some document => .ok document.text
  | none =>
    match Uri.ofText? uri with
    | none => .error (.address uri)
    | some address =>
      let file := Path.ofText address.filePath
      match disk.readText file with
      | .ok text => .ok text
      | .error fault => .error (.document file fault)

/-- The end of the file names of grammars. -/
def grammarEnding : Text := ".lark".toList

/-- The document at an address is a grammar, by its language or by its
address. -/
def isGrammar (session : Session) (uri : Text) : Bool :=
  match session.document? uri with
  | some document =>
    (document.languageId != []
        && session.config.languageIds.contains document.languageId)
      || grammarEnding.isSuffixOf document.uri
  | none => grammarEnding.isSuffixOf uri

/-- There can be a document at an address: it is open, or the address is well
formed. -/
def canHold (session : Session) (uri : Text) : Bool :=
  (session.document? uri).isSome || (Uri.ofText? uri).isSome

/-! ## Checking -/

/-- Checks the document at an address if it is a grammar. -/
def check (session : Session) (disk : Disk) (uri : Text) : Reply :=
  if !session.canHold uri then { outcome := .error (.address uri) }
  else if session.isGrammar uri then
    match session.textAt disk uri with
    | .error failure => { outcome := .error failure }
    | .ok text =>
      let lines := Text.lines text
      let diagnostics := session.config.filter (validate lines)
      let place := ClientRange.inLines session.unit lines
      { emissions := [
          .publish uri (diagnostics.map (ClientDiagnostic.ofDiagnostic place)),
          .info ("Validated " ++ String.ofList uri ++ ": " ++
            toString diagnostics.length
            ++ " diagnostics")] }
  else {}

/-- A reply after a line for the log. -/
def after (message : String) (reply : Reply) : Reply :=
  { reply with emissions := .info message :: reply.emissions }

/-- Loads the settings of the workspace. Settings that cannot be used
give way to the defaults. -/
def loadConfig (session : Session) (disk : Disk) : Session × Reply :=
  match session.root with
  | none => (session, {})
  | some root =>
    match Config.resolve disk root none with
    | .ok config => ({ session with config }, {})
    | .error failure =>
      match failure.shown? with
      | some error =>
        ({ session with config := { root } },
          { emissions := [.error ("Failed to load config: " ++ error.text)] })
      | none => (session, { outcome := .error failure })

/-! ## Events -/

/-- What an event does, and what is said to it. -/
def step (disk : Disk) (session : Session) : EditorEvent → Session × Reply
  | .started root =>
    match root with
    | none => (session, {})
    | some uri =>
      match Uri.ofText? uri with
      | none => (session, { outcome := .error (.address uri) })
      | some address =>
        match address.filePath? with
        | none => (session, {})
        | some path =>
          let root := Path.ofText path
          let (session, reply) :=
            { session with root := some root }.loadConfig disk
          (session, after ("Workspace root: " ++ root.toString) reply)
  | .reload => session.loadConfig disk
  | .opened uri languageId text =>
    if (Uri.ofText? uri).isNone then
      (session, { outcome := .error (.address uri) })
    else
      let session := session.keep uri ⟨uri, languageId, text⟩
      (session, after ("Opened: " ++ String.ofList uri)
        (session.check disk uri))
  | .changed uri texts =>
    match texts.getLast?, session.document? uri with
    | none, _ => (session, session.check disk uri)
    | some _, none => (session, { outcome := .error (.notOpen uri) })
    | some text, some document =>
      let session := session.keep uri { document with text }
      (session, session.check disk uri)
  | .saved uri =>
      (session, after ("Saved: " ++ String.ofList uri) (session.check disk uri))
  | .closed uri =>
    (session.forget uri,
      { emissions := [.info ("Closed: " ++ String.ofList uri),
        .publish uri []] })
  | .symbols uri =>
    match session.textAt disk uri with
    | .error failure => (session, { outcome := .error failure })
    | .ok text =>
      let lines := Text.lines text
      (session,
        { outcome := .ok
            (clientSymbols (ClientRange.inLines session.unit lines) lines) })

end Session

end GrammarLint
