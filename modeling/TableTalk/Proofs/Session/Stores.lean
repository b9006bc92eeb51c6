import TableTalk.Proofs.Listing
import TableTalk.Session.Outcome
import TableTalk.Session.Store

/-!
# Sessions in a store are apart

Requests for many sessions reach a store one after the other, in any order. What a
request does and how it is answered depends on the session under its own identifier
alone, and the sessions under all other identifiers stay as they are. Conversations
that are mixed in a store therefore go as each of them would go without the others.
-/

namespace TableTalk

/-- What is asked of a store for one of its sessions. -/
inductive Request
  /-- To answer a question in the session, or in a new one if there is none. -/
  | ask (setting : Setting) (question : String)
  /-- To forget what was said. -/
  | clear
  /-- To take the session out. -/
  | remove

/-- How a request is answered. -/
inductive Reply
  | answered (outcome : Outcome)
  | cleared (wasThere : Bool)
  | removed (session : Option Session)

namespace Store

/-- Handles a request for the session under an identifier. -/
def handle (store : Store) (id : SessionId) : Request → Store × Reply
  | .ask setting question =>
    let (next, outcome) := store.modify id fun session => setting.ask session question
    (next, .answered outcome)
  | .clear =>
    let (next, wasThere) := store.clear id
    (next, .cleared wasThere)
  | .remove =>
    let (next, session) := store.remove id
    (next, .removed session)

/-- Handles requests one after the other. Every reply stands under the identifier of its session. -/
def handleAll (store : Store) : List (SessionId × Request) → Store × List (SessionId × Reply)
  | [] => (store, [])
  | (id, request) :: calls =>
    let (next, reply) := store.handle id request
    let (final, replies) := next.handleAll calls
    (final, (id, reply) :: replies)

variable {store others : Store} {id other : SessionId} {session : Session} {request : Request}
  {calls : List (SessionId × Request)}

theorem lookup_putSession (entries : List (SessionId × Session)) :
    (putSession id session entries).lookup other =
      if other = id then some session else entries.lookup other := by
  induction entries with
  | nil => exact Listing.lookup_cons_eq other (id, session) []
  | cons entry entries ih =>
    by_cases h : entry.1 = id
    · rw [putSession, if_pos h, Listing.lookup_cons_eq, Listing.lookup_cons_eq, h]
      split <;> rfl
    · rw [putSession, if_neg h]
      exact Listing.lookup_cons_of_ne h ih

theorem get?_put (store : Store) (id other : SessionId) (session : Session) :
    (store.put id session).get? other = if other = id then some session else store.get? other :=
  lookup_putSession store.entries

theorem lookup_filter_ne (entries : List (SessionId × Session)) :
    (entries.filter fun entry => entry.1 != id).lookup other =
      if other = id then none else entries.lookup other := by
  induction entries with
  | nil => exact (ite_self none).symm
  | cons entry entries ih =>
    rw [List.filter_cons]
    by_cases h : entry.1 = id
    · rw [if_neg (by simp [h]), ih, Listing.lookup_cons_eq, h]
      split <;> rfl
    · rw [if_pos (by simp [h])]
      exact Listing.lookup_cons_of_ne h ih

theorem get?_remove (store : Store) (id other : SessionId) :
    (store.remove id).1.get? other = if other = id then none else store.get? other :=
  lookup_filter_ne store.entries

/-- A request leaves the sessions under other identifiers as they are. -/
theorem get?_handle_of_ne (store : Store) (request : Request) (h : other ≠ id) :
    (store.handle id request).1.get? other = store.get? other := by
  cases request with
  | ask setting question =>
    change (store.put id _).get? other = _
    rw [get?_put, if_neg h]
  | clear =>
    simp only [handle, clear]
    cases store.get? id with
    | none => rfl
    | some session =>
      change (store.put id {}).get? other = _
      rw [get?_put, if_neg h]
  | remove =>
    change (store.remove id).1.get? other = _
    rw [get?_remove, if_neg h]

/-- What a request does and how it is answered depends on the session under its identifier alone. -/
theorem handle_congr (h : store.get? id = others.get? id) (request : Request) :
    (store.handle id request).2 = (others.handle id request).2 ∧
      (store.handle id request).1.get? id = (others.handle id request).1.get? id := by
  cases request with
  | ask setting question =>
    have hsession : store.get id = others.get id := by rw [get, get, h]
    simp only [handle, modify, hsession, get?_put, ↓reduceIte, and_self]
  | clear =>
    simp only [handle, clear, ← h]
    cases hsession : store.get? id with
    | none => exact ⟨rfl, h⟩
    | some session => simp only [get?_put, ↓reduceIte, and_self]
  | remove => exact ⟨congrArg Reply.removed h, by simp only [handle, get?_remove, ↓reduceIte]⟩

theorem map_fst_handleAll (store : Store) (calls : List (SessionId × Request)) :
    (store.handleAll calls).2.map Prod.fst = calls.map Prod.fst := by
  induction calls generalizing store with
  | nil => rfl
  | cons call calls ih => exact congrArg (call.1 :: ·) (ih (store.handle call.1 call.2).1)

/-- Two stores that agree on one session agree on it after all requests to the one and the requests
for this session to the other, and they have given it the same replies. -/
theorem handleAll_agrees (calls : List (SessionId × Request))
    (h : store.get? id = others.get? id) :
    let mixed := store.handleAll calls
    let alone := others.handleAll (calls.filter fun call => call.1 = id)
    mixed.1.get? id = alone.1.get? id ∧ mixed.2.filter (fun reply => reply.1 = id) = alone.2 := by
  induction calls generalizing store others with
  | nil => exact ⟨h, rfl⟩
  | cons call calls ih =>
    obtain ⟨name, request⟩ := call
    by_cases hname : name = id
    case pos =>
      subst hname
      obtain ⟨hreply, hnext⟩ := handle_congr h request
      obtain ⟨hfinal, hreplies⟩ := ih hnext
      simp only [List.filter_cons, decide_true, ↓reduceIte, handleAll]
      exact ⟨hfinal, by rw [hreply, hreplies]⟩
    case neg =>
      have hnext : (store.handle name request).1.get? id = others.get? id :=
        (get?_handle_of_ne store request (Ne.symm hname)).trans h
      simp only [List.filter_cons, hname, decide_false, Bool.false_eq_true, ↓reduceIte, handleAll]
      exact ih hnext

/-- However requests for many sessions are mixed, every request is answered, and a session ends as
it ends when the requests for it are the only ones, in their order and from the same store; and it
gets the same replies. -/
theorem mixed_requests_stay_apart (store : Store) (calls : List (SessionId × Request))
    (id : SessionId) :
    let mixed := store.handleAll calls
    let alone := store.handleAll (calls.filter fun call => call.1 = id)
    mixed.2.map Prod.fst = calls.map Prod.fst ∧
      mixed.1.get? id = alone.1.get? id ∧
      mixed.2.filter (fun reply => reply.1 = id) = alone.2 := by
  intro mixed alone
  exact ⟨map_fst_handleAll store calls, handleAll_agrees calls rfl⟩

end Store

end TableTalk
