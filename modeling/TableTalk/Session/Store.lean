import TableTalk.Session.Basic
import TableTalk.Session.Id

/-!
# Stores of sessions

A store keeps sessions apart under their identifiers. An operation on one session
leaves all others as they are.
-/

namespace TableTalk

/-- The entries with a session under an identifier, in the place of the one that it has. -/
def putSession (id : SessionId) (session : Session) :
    List (SessionId × Session) → List (SessionId × Session)
  | [] => [(id, session)]
  | entry :: entries =>
    if entry.1 = id then (id, session) :: entries else entry :: putSession id session entries

theorem mem_ids_putSession {id other : SessionId} {session : Session}
    {entries : List (SessionId × Session)} :
    other ∈ (putSession id session entries).map Prod.fst ↔
      other = id ∨ other ∈ entries.map Prod.fst := by
  induction entries with
  | nil => simp [putSession]
  | cons entry entries ih =>
    by_cases h : entry.1 = id
    · simp only [putSession, List.map_cons, List.mem_cons, h]
      grind
    · simp only [putSession, if_neg h, List.map_cons, List.mem_cons, ih]
      grind

theorem nodup_putSession (id : SessionId) (session : Session)
    (entries : List (SessionId × Session)) (distinct : (entries.map Prod.fst).Nodup) :
    ((putSession id session entries).map Prod.fst).Nodup := by
  induction entries with
  | nil => simp [putSession]
  | cons entry entries ih =>
    simp only [List.map_cons, List.nodup_cons] at distinct
    by_cases h : entry.1 = id
    · simp only [putSession, if_pos h, List.map_cons, List.nodup_cons]
      exact h ▸ distinct
    · simp only [putSession, if_neg h, List.map_cons, List.nodup_cons, mem_ids_putSession]
      exact ⟨fun hmem => hmem.elim h distinct.1, ih distinct.2⟩

/-- Sessions under identifiers, each identifier once. -/
structure Store where
  entries : List (SessionId × Session)
  distinct : (entries.map Prod.fst).Nodup

namespace Store

/-- The store without sessions. -/
def empty : Store := ⟨[], .nil⟩

instance : Inhabited Store := ⟨empty⟩

/-- The number of sessions. -/
def size (store : Store) : Nat :=
  store.entries.length

/-- The session under an identifier. -/
def get? (store : Store) (id : SessionId) : Option Session :=
  store.entries.lookup id

/-- The session under an identifier; a new one if there is none. -/
def get (store : Store) (id : SessionId) : Session :=
  (store.get? id).getD {}

/-- Keeps a session under an identifier. -/
def put (store : Store) (id : SessionId) (session : Session) : Store :=
  ⟨putSession id session store.entries, nodup_putSession id session store.entries store.distinct⟩

/-- Keeps a new session under an identifier made of random digits. -/
def create (store : Store) (source : Nat → Fin 16) : Store × SessionId :=
  let id := SessionId.random source
  (store.put id {}, id)

/-- Changes the session under an identifier, a new one if there is none, and gives an answer. -/
def modify (store : Store) (id : SessionId) (change : Session → Session × α) : Store × α :=
  let (session, answer) := change (store.get id)
  (store.put id session, answer)

/-- Forgets what was said in a session and keeps its identifier; tells whether it was there. -/
def clear (store : Store) (id : SessionId) : Store × Bool :=
  match store.get? id with
  | some _ => (store.put id {}, true)
  | none => (store, false)

/-- Takes a session out of the store. -/
def remove (store : Store) (id : SessionId) : Store × Option Session :=
  (⟨store.entries.filter fun entry => entry.1 != id,
      store.distinct.sublist (List.filter_sublist.map Prod.fst)⟩,
    store.get? id)

end Store

end TableTalk
