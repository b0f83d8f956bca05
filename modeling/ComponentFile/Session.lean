import ComponentFile.Compilation

/-!
# Sessions

A host that reads documents itself hands over their tags one by one and asks for results when it
likes.  A tag that is refused leaves the session as it was, and asking for results changes nothing,
so it can be done again after further tags.

* `Session` — the tags accepted so far, with what their compilation reads.
* `Request`, `Reply`, `Session.step` — what a host can ask, and what happens.
* `Session.run` — a whole sequence of requests.
-/

namespace ComponentFile

/-- The tags accepted so far, with what their compilation reads. -/
structure Session where
  context : Context
  component : Component

/-- A session before the first tag. -/
def Session.new (context : Context) : Session := ⟨context, { }⟩

/-- What a host can ask. -/
inductive Request where
  | addTag (tag : Tag)
  | addRegion (region : Region)
  | results

/-- What a host gets back: whether a tag was accepted, or the results. -/
inductive Reply where
  | added (outcome : Except CompileError Unit)
  | results (outcome : Traced CompileOutput)

namespace Session

/-- Takes over an extended component; an error leaves the session as it was. -/
def accept (session : Session) (extended : Except CompileError Component) : Reply × Session :=
  match extended with
  | .ok component => (.added (.ok ()), { session with component })
  | .error error => (.added (.error error), session)

/-- Answers one request. -/
def step (session : Session) : Request → Reply × Session
  | .addTag tag => session.accept (session.component.add tag)
  | .addRegion region => session.accept (session.component.addRegion region)
  | .results => (.results (session.component.compile session.context), session)

/-- Answers requests in order, whatever becomes of each. -/
def run (session : Session) : List Request → List Reply × Session
  | [] => ([], session)
  | request :: rest =>
    let (reply, next) := session.step request
    let (replies, last) := next.run rest
    (reply :: replies, last)

end Session

end ComponentFile
