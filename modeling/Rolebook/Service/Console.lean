import Rolebook.Service.MetricsListener
import Rolebook.Service.Session

/-!
# Requests on lines

Requests as lines of text: the listener that gets the request, the method, the target and, behind
them, the body. Responses are lines too: the status and what the response carries.
-/

namespace Rolebook.Service.Console

open Rolebook.Http (Content Request Response)

/-- Who gets a request. -/
inductive Listener
  | api
  | metrics
deriving DecidableEq, Repr

/-- The listener with a name. -/
def listenerOf? (name : List Char) : Option Listener :=
  if name = "api".toList then some .api
  else if name = "metrics".toList then some .metrics
  else none

/-- The first word of a line and what stands behind the space after it. -/
def takeWord (line : List Char) : List Char × List Char :=
  let word := line.takeWhile (· ≠ ' ')
  (word, line.drop (word.length + 1))

/-- The request on a line. Its body is said to be Json. -/
def requestOf? (line : String) : Option (Listener × Request) := do
  let (listener, rest) := takeWord (line.toList.filter fun c => c ≠ '\n' && c ≠ '\x0d')
  let (method, rest) := takeWord rest
  let (target, body) := takeWord rest
  let headers := if body.isEmpty then [] else [("content-type", Text.toUtf8 "application/json")]
  return (← listenerOf? listener,
    ⟨String.ofList method, String.ofList target, headers, Text.toUtf8 (String.ofList body)⟩)

/-- The text of what a response carries. -/
def contentText : Content → String
  | .empty => ""
  | .json value => value.render
  | .text text => text

/-- The line of a response. -/
def responseLine (response : Response) : String :=
  let status := String.ofList (Text.toDigits 10 response.status)
  let content := contentText response.content
  if content.isEmpty then status else status ++ " " ++ content

/-- The response to a request and the session after it. -/
def answer (session : Session) (listener : Listener) (request : Request) : Response × Session :=
  match listener with
  | .api => session.request request
  | .metrics => (metricsResponse session.metrics request, session)

end Rolebook.Service.Console
