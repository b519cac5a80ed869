import Sidecheck.Checker
/-!
# Records

What each checker writes about one file or one finding, in its own terms, before any of it
becomes a diagnostic.
-/

namespace Sidecheck

/-- A compiler's message with elaborations below it, each of which may have its own. -/
inductive MessageTree
  | node (text : String) (below : List MessageTree)
deriving Repr

namespace MessageTree

/-- The message at the top. -/
def text : MessageTree → String
  | .node text _ => text

/-- The elaborations of the message at the top. -/
def elaborations : MessageTree → List MessageTree
  | .node _ below => below

mutual
/-- Every message with its depth, each before the ones below it. -/
def preorder (depth : Nat) : MessageTree → List (Nat × String)
  | .node text below => (depth, text) :: preorderAll (depth + 1) below
/-- The messages of a list of trees, one tree after the other. -/
def preorderAll (depth : Nat) : List MessageTree → List (Nat × String)
  | [] => []
  | tree :: rest => tree.preorder depth ++ preorderAll depth rest
end

end MessageTree

/-- The text of a compiler's diagnostic. -/
inductive Message
  | plain (text : String)
  | tree (tree : MessageTree)
deriving Repr

namespace Message

/-- The message as one text: each elaboration on its own line, two spaces further in than the
message above it. -/
def flatten : Message → String
  | .plain text => text
  | .tree t =>
    "\n".intercalate ((t.preorder 0).map fun (depth, text) =>
      .ofList (List.replicate (2 * depth) ' ') ++ text)

end Message

/-- A compiler's diagnostic. `start` and `length` count bytes of the file's text. -/
structure CompilerRecord where
  fileName : Option String
  fileText : Option String
  start : Option Nat
  length : Option Nat
  message : Message
  category : Nat
  code : Nat
deriving Repr

/-- One message of a linter. -/
structure LintMessage where
  ruleId : Option String
  severity : Nat
  message : String
  line : Option Nat
  column : Option Nat
  endLine : Option Nat
  endColumn : Option Nat
deriving DecidableEq, Repr

/-- A linter's messages about one file. -/
structure LintRecord where
  filePath : String
  messages : List LintMessage
  /-- The file's text, if the linter tells it. -/
  source : Option String
deriving DecidableEq, Repr

/-- One warning of a style linter. -/
structure StyleWarning where
  line : Nat
  column : Nat
  endLine : Option Nat
  endColumn : Option Nat
  rule : String
  severity : String
  text : String
deriving DecidableEq, Repr

/-- A style linter's warnings about one file. -/
structure StyleRecord where
  source : Option String
  warnings : List StyleWarning
  /-- The file's text, which the tool does not tell and the check fills in. -/
  css : Option String
deriving DecidableEq, Repr

/-- A position that a language server counts from zero. -/
structure ServerPosition where
  line : Nat
  character : Nat
deriving DecidableEq, Repr

/-- One diagnostic of a language server. -/
structure ServerDiagnostic where
  first : ServerPosition
  last : ServerPosition
  severity : Option Nat
  source : Option String
  message : String
deriving DecidableEq, Repr

/-- What a language server publishes about one document. -/
structure ServerRecord where
  uri : String
  diagnostics : List ServerDiagnostic
deriving DecidableEq, Repr

/-- A record of any checker. -/
inductive Record
  | compiler (r : CompilerRecord)
  | lint (r : LintRecord)
  | style (r : StyleRecord)
  | server (r : ServerRecord)
deriving Repr

namespace Record

/-- The file that the record names, as it names it. -/
def file? : Record → Option String
  | .compiler r => r.fileName
  | .lint r => some r.filePath
  | .style r => r.source
  | .server r => some r.uri

/-- The checker whose record it is. -/
def checker : Record → Checker
  | .compiler _ => .typeScript
  | .lint _ => .esLint
  | .style _ => .stylelint
  | .server _ => .languageServer

end Record

end Sidecheck
