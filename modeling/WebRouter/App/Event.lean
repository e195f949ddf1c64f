import WebRouter.Handler
import WebRouter.Http.Message

/-!
# What can be seen of an application at work

Every call on an application leaves the list of what happened in it, in order:
what was written to a log, whose code ran, and what was received and sent.
-/

namespace WebRouter

/-- How much a log record matters. -/
inductive Level where
  | debug
  | error
  deriving DecidableEq

/-- What a level is called in a log. -/
def Level.name : Level → String
  | debug => "DEBUG"
  | error => "ERROR"

/-- Something that happened in an application. -/
inductive Event where
  /-- the router wrote a message -/
  | message (text : String)
  /-- the server wrote a log record -/
  | record (level : Level) (text : String)
  /-- the handler of a route was called -/
  | invoked (route : Route Handler) (state : RequestState)
  /-- the observer was shown a request and its answer -/
  | observed (request : Request) (response : Response)
  /-- a lifespan hook ran -/
  | ran (hook : String)
  /-- a lifespan message was received -/
  | received (kind : String)
  /-- a message was sent -/
  | sent (message : Message)

/-- The message, if the event is the sending of one. -/
def Event.sent? : Event → Option Message
  | sent m => some m
  | _ => none

end WebRouter
