import GrammarLint.Server.Authority
import GrammarLint.Text.Percent

/-!
# Document addresses

An address is a scheme, an authority and a path; a query and a fragment are left
out, and so are the parameters of the last name where the scheme has them. The
parts are percent-decoded after they are taken apart. An address names a file by
its path; the path of a file address stands below `//` and the authority if
there is one, and a drive letter in it stands first, in lower case.
-/

namespace GrammarLint

/-- The parts of an address, decoded. -/
structure Uri where
  scheme : Text
  authority : Text
  path : Text
  deriving DecidableEq, Repr, Inhabited

namespace Uri

/-- The characters of a scheme. -/
def isSchemeChar (c : Char) : Bool :=
  c.isAlphanum || c == '+' || c == '-' || c == '.'

/-- The text without the blanks in front and the breaks and tabs
inside, which do not count. -/
def clean (t : Text) : Text :=
  (t.dropWhile fun c => c ≤ ' ').filter fun c =>
    c != '\t' && c != '\r' && c != '\n'

/-- The scheme, in lower case, and the text after its colon. -/
def splitScheme (t : Text) : Text × Text :=
  let scheme := t.takeWhile (· != ':')
  match t.dropWhile (· != ':') with
  | _ :: rest =>
    if scheme.head?.any Char.isAlpha && scheme.all isSchemeChar then
      (scheme.map Char.toLower, rest)
    else ([], t)
  | [] => ([], t)

/-- The characters that end an authority. -/
def endsAuthority (c : Char) : Bool := c == '/' || c == '?' || c == '#'

/-- The authority after two slashes, and the text after it. -/
def splitAuthority : Text → Text × Text
  | '/' :: '/' :: t =>
    (t.takeWhile (!endsAuthority ·), t.dropWhile (!endsAuthority ·))
  | t => ([], t)

/-- The schemes whose paths have parameters; an address without a scheme has
them too. -/
def parameterSchemes : List String :=
  ["", "ftp", "hdl", "prospero", "http", "imap", "https", "shttp", "rtsp",
    "rtsps", "rtspu", "sip", "sips", "mms", "sftp", "tel"]

/-- The path without the parameters of its last name, which follow a
semicolon. -/
def cutParameters (path : Text) : Text :=
  let name := (path.reverse.takeWhile (· != '/')).reverse
  path.take (path.length - name.length) ++ name.takeWhile (· != ';')

/-- Takes an address apart, if its authority is well formed. -/
def ofText? (t : Text) : Option Uri :=
  let (scheme, t) := splitScheme (clean t)
  let (authority, t) := splitAuthority t
  let path := t.takeWhile fun c => c != '?' && c != '#'
  let path :=
    if parameterSchemes.contains (String.ofList scheme) then cutParameters path
    else path
  if Authority.isWellFormed authority then
    some ⟨scheme, Percent.decode authority, Percent.decode path⟩
  else none

/-- The scheme of files. -/
def fileScheme : Text := ['f', 'i', 'l', 'e']

/-- The path an address names. -/
def filePath (uri : Uri) : Text :=
  if uri.scheme ≠ fileScheme then uri.path
  else if uri.authority ≠ [] ∧ uri.path ≠ [] then
    '/' :: '/' :: uri.authority ++ uri.path
  else
    match uri.path with
    | '/' :: drive :: ':' :: rest =>
      if drive.isAlpha then drive.toLower :: ':' :: rest else uri.path
    | path => path

/-- The path of an address that names a file and is not empty. -/
def filePath? (uri : Uri) : Option Text :=
  if uri.scheme = fileScheme ∧ uri.filePath ≠ [] then some uri.filePath
  else none

end Uri

end GrammarLint
