import GrammarLint.Diagnostic.Basic

/-!
# The board of diagnostics

A board holds the latest diagnostics of each document. Putting up a document's
diagnostics replaces the ones it had.
-/

namespace GrammarLint

/-- The latest diagnostics of each document. -/
structure Board where
  posts : List (String × List Diagnostic) := []
  deriving Repr, Inhabited

namespace Board

/-- The diagnostics put up for a document, none if it has no post. -/
def get (board : Board) (document : String) : List Diagnostic :=
  (board.posts.lookup document).getD []

/-- Takes a document's diagnostics down. -/
def delete (board : Board) (document : String) : Board :=
  ⟨board.posts.filter fun post => post.1 != document⟩

/-- Puts up a document's diagnostics in place of the ones it had. -/
def set (board : Board) (document : String)
    (diagnostics : List Diagnostic) : Board :=
  ⟨(document, diagnostics) :: (board.delete document).posts⟩

/-- The documents with a post, in the order of their names, and how many
diagnostics each has. -/
def counts (board : Board) : List (String × Nat) :=
  (board.posts.map fun post => (post.1, post.2.length)).mergeSort fun a b =>
    Text.le a.1.toList b.1.toList

end Board

end GrammarLint
