import Rolebook.Phrase.Command

/-!
# Replies to commands

What the one who gave a command gets to read.
-/

namespace Rolebook.Command

open Rolebook.Phrase (Intent)

/-- How a command ended. -/
inductive Status
  /-- The store was changed. -/
  | success
  /-- There was nothing to do. -/
  | info
  /-- The command could not be done. -/
  | failure
  /-- The text is no command. -/
  | notUnderstood
deriving DecidableEq, Repr

/-- The name of a status in answers and in metrics. -/
def Status.label : Status → String
  | .success => "success"
  | .info => "info"
  | .failure => "failure"
  | .notUnderstood => "not_understood"

/-- The sign in front of a reply. -/
def Status.glyph : Status → String
  | .success => "✅"
  | .info => "ℹ️"
  | .failure => "❌"
  | .notUnderstood => "🤔"

/-- A reply to a text. -/
structure Reply where
  /-- The kind of command that the text was taken for. -/
  intent : Option Intent
  status : Status
  message : String
deriving DecidableEq, Repr

/-- The reply to a command. -/
def Reply.to (intent : Intent) (status : Status) (text : String) : Reply :=
  ⟨some intent, status, status.glyph ++ " " ++ text⟩

/-- What is said about a text that is no command. -/
def notUnderstoodMessage : String :=
  Status.notUnderstood.glyph ++
    " I couldn't understand that command. Please try using one of the example formats like:\n" ++
    "• 'Create a new permission called \"manage posts\"'\n" ++
    "• 'Give the role \"Editor\" the permission to \"edit articles\"'\n" ++
    "• 'Remove the permission \"delete posts\" from role \"Editor\"'"

/-- The reply to a text that is no command. -/
def Reply.notUnderstood : Reply :=
  ⟨none, .notUnderstood, notUnderstoodMessage⟩

/-- The intent of a reply as metrics name it. -/
def Reply.intentLabel (reply : Reply) : String :=
  match reply.intent with
  | some intent => intent.label
  | none => "none"

end Rolebook.Command
