import ComponentFile.Proofs.Classification
import ComponentFile.Session
import Mathlib

/-!
# What a session remembers

A host may mix tags, regions and requests for results in any order, and carry on after a refusal.
Whatever it did, a session holds what it would hold if the host had only handed over the tags:
requests for results, unreadable regions and refused tags leave no trace.

* `delivered` — the tags that requests hand over, in order, refused ones among them.
* `Request.Answered` — what the reply to a request says, given the session that it was put to.
* `Session.step_ofTags`, `Session.step_answered`, `Session.step_of_refuses` — one request.
* `Session.run_ofTags` — any number of requests, by induction on them.
* `Session.run_remembers` — every request of every run.
-/

namespace ComponentFile

/-! ## Requests and replies -/

/-- The tag that a request hands over; a region that cannot be read has none. -/
def Request.tag? : Request → Option Tag
  | .addTag tag => some tag
  | .addRegion region => region.tag?
  | .results => none

/-- The tags that requests hand over, in order. -/
def delivered (requests : List Request) : List Tag := requests.filterMap Request.tag?

/-- What the reply to a request says.  Tags are judged by what the session holds, and so are the
regions that can be read.  What is wrong with one that cannot be read is returned whatever the
session holds. -/
def Request.Answered (session : Session) : Request → Reply → Prop
  | .addTag tag, .added answer => session.component.Judged tag answer
  | .addRegion region, .added answer =>
    match region.contents with
    | .ok contents => session.component.Judged (region.tag contents) answer
    | .error error => answer = .error (region.placed error)
  | .results, .results outcome => outcome = session.component.compile session.context
  | _, _ => False

/-- Whether a reply refuses what was offered. -/
def Reply.Refuses : Reply → Prop
  | .added (.error _) => True
  | _ => False

namespace Session

/-! ## One request -/

theorem accept_fst (session : Session) (extended : Except CompileError Component) :
    (session.accept extended).1 = .added (extended.map fun _ => ()) := by
  cases extended with
  | ok component => rfl
  | error error => rfl

theorem accept_snd (session : Session) (extended : Except CompileError Component) :
    (session.accept extended).2 =
      { session with component := extended.toOption.getD session.component } := by
  cases extended with
  | ok component => rfl
  | error error => rfl

theorem step_answered (session : Session) (request : Request) :
    request.Answered session (session.step request).1 := by
  match request with
  | .addTag tag =>
    rw [step, accept_fst]
    exact (Component.added_add session.component tag).judged
  | .addRegion region =>
    rw [step, accept_fst]
    match h : region.contents with
    | .ok contents =>
      rw [Component.addRegion_of_ok h]
      simp only [Request.Answered, h]
      exact (Component.added_add session.component (region.tag contents)).judged
    | .error error =>
      rw [Component.addRegion_of_error h]
      simp only [Request.Answered, h]
      rfl
  | .results => rfl

/-- A refusal leaves a session as it was, and so does asking for results. -/
theorem step_of_refuses {session : Session} {request : Request}
    (h : (session.step request).1.Refuses ∨ request = .results) :
    (session.step request).2 = session := by
  have haccept {extended : Except CompileError Component}
      (h : (session.accept extended).1.Refuses) : (session.accept extended).2 = session := by
    cases extended with
    | ok component => exact absurd h id
    | error error => rfl
  match request, h with
  | .addTag tag, .inl h => exact haccept h
  | .addRegion region, .inl h => exact haccept h
  | .results, _ => rfl

/-- One more request: the session holds what its tag adds to those before. -/
theorem step_ofTags (context : Context) (tags : List Tag) (request : Request) :
    (step ⟨context, .ofTags tags⟩ request).2 =
      ⟨context, .ofTags (tags ++ request.tag?.toList)⟩ := by
  have hadd (tag : Tag) :
      Component.ofTags (tags ++ [tag]) =
        ((Component.ofTags tags).add tag).toOption.getD (.ofTags tags) :=
    Component.ofTags_concat (Component.added_add (.ofTags tags) tag)
  match request with
  | .addTag tag =>
    rw [step, accept_snd, ← hadd]
    rfl
  | .addRegion region =>
    rw [step, accept_snd]
    match h : region.contents with
    | .ok contents =>
      rw [Component.addRegion_of_ok h, ← hadd, Request.tag?, Region.tag?_of_ok h]
      rfl
    | .error error =>
      rw [Component.addRegion_of_error h, Request.tag?, Region.tag?_of_error h]
      simp [Except.toOption]
  | .results => simp [step, Request.tag?]

/-! ## Many requests -/

theorem run_cons (session : Session) (request : Request) (rest : List Request) :
    session.run (request :: rest) =
      ((session.step request).1 :: ((session.step request).2.run rest).1,
        ((session.step request).2.run rest).2) := rfl

theorem run_append (session : Session) (before after : List Request) :
    session.run (before ++ after) =
      ((session.run before).1 ++ ((session.run before).2.run after).1,
        ((session.run before).2.run after).2) := by
  induction before generalizing session with
  | nil => rfl
  | cons request before ih =>
    rw [List.cons_append, run_cons, run_cons, ih]
    rfl

/-- Every request gets a reply. -/
theorem length_run (session : Session) (requests : List Request) :
    (session.run requests).1.length = requests.length := by
  induction requests generalizing session with
  | nil => rfl
  | cons request requests ih => rw [run_cons, List.length_cons, ih, List.length_cons]

theorem run_ofTags (context : Context) (tags : List Tag) (requests : List Request) :
    (run ⟨context, .ofTags tags⟩ requests).2 =
      ⟨context, .ofTags (tags ++ delivered requests)⟩ := by
  -- The tags of the history grow, so they are arbitrary and the step applies again.
  induction requests generalizing tags with
  | nil => simp [run, delivered]
  | cons request requests ih =>
    rw [run_cons, step_ofTags, ih]
    cases htag : request.tag? <;> simp [delivered, htag]

theorem run_new (context : Context) (requests : List Request) :
    ((Session.new context).run requests).2 = ⟨context, .ofTags (delivered requests)⟩ :=
  run_ofTags context [] requests

/-- **A session remembers the tags that it was handed, and nothing else.**  Take any request of any
run, after any history and with anything behind it.  The session that it is put to holds the first
template, the first script and all styles of the history.  It has a reply, the reply is the one that
the session calls for, and a refusal or a request for results leaves the session as it was. -/
theorem run_remembers (context : Context) (history : List Request) (request : Request)
    (rest : List Request) :
    let session := ((Session.new context).run history).2
    session = ⟨context, .ofTags (delivered history)⟩ ∧
      ∃ reply, ((Session.new context).run (history ++ request :: rest)).1[history.length]? =
          some reply ∧
        request.Answered session reply ∧
        (reply.Refuses ∨ request = .results →
          ((Session.new context).run (history ++ [request])).2 = session) := by
  intro session
  refine ⟨run_new context history, (session.step request).1, ?_, step_answered session request, ?_⟩
  · rw [run_append, List.getElem?_append_right (by rw [length_run]), length_run, Nat.sub_self]
    rfl
  · intro h
    rw [run_append]
    exact step_of_refuses h

end Session

end ComponentFile
