import Pyrin.Core.Value

/-!
# Session manager

`SessionManager` of `pyrin.security.session.manager`: it reads and extends the context of the
current request. The request is Flask's `request`, not under src/; what the manager reads of it
is its `context` dict, the state its methods run in.

`add_request_context` stores under every key that is not `None` or blank and raises without a
change otherwise (`addRequestContext_run`), so after any sequence of calls each key holds the
value of the last call that stored it (`lastStored_cons`). `is_fresh` reads `is_fresh` of the
`payload` dict, `False` by default, and raises for a payload that is not a dict (`isFresh_run`).
-/

namespace Pyrin.Security.Session

/-- A value of the request context: a plain value, or a dict such as the token `payload`. -/
inductive ContextValue where
  | value (v : PyValue)
  | dict (d : Dict String PyValue)
  deriving DecidableEq, Repr

inductive SessionError where
  | invalidRequestContextKeyName (message : String)
  /-- The attribute a non-dict `payload` lacks; Python words the message. -/
  | attributeError (name : String)
  deriving DecidableEq, Repr

structure Request where
  context : Dict String ContextValue
  deriving DecidableEq, Repr

def getCurrentRequestContext : EStateM SessionError Request (Dict String ContextValue) := do
  return (← get).context

def getCurrentUser : EStateM SessionError Request ContextValue := do
  return (← getCurrentRequestContext).get "user" (.value PyValue.none)

def invalidKeyError : SessionError :=
  .invalidRequestContextKeyName "Request context key could not be None."

def blankKey : Option String → Bool
  | none => true
  | some key => (strip key).length = 0

def addRequestContext (key : Option String) (value : ContextValue) :
    EStateM SessionError Request Unit := do
  if blankKey key then throw invalidKeyError
  let r ← get
  set { r with context := r.context.set (key.getD "") value }

def getCurrentPayload : EStateM SessionError Request ContextValue := do
  return (← getCurrentRequestContext).get "payload" (.dict Dict.empty)

def isFresh : EStateM SessionError Request PyValue := do
  match ← getCurrentPayload with
  | .dict payload => pure (payload.get "is_fresh" (PyValue.ofBool false))
  | .value _ => throw (.attributeError "get")

-- ---------------------------------------------------------------------------
-- One call
-- ---------------------------------------------------------------------------

variable {r : Request}

theorem addRequestContext_run (key : Option String) (value : ContextValue) :
    (addRequestContext key value).run r =
      if blankKey key then .error invalidKeyError r
      else .ok () ⟨r.context.set (key.getD "") value⟩ := by
  unfold addRequestContext
  split <;> rfl

theorem getCurrentPayload_run :
    getCurrentPayload.run r = .ok (r.context.get "payload" (.dict Dict.empty)) r := rfl

theorem isFresh_run :
    isFresh.run r = match r.context.get "payload" (.dict Dict.empty) with
      | .dict payload => .ok (payload.get "is_fresh" (PyValue.ofBool false)) r
      | .value _ => .error (.attributeError "get") r := by
  unfold isFresh
  rw [run_bind_ok getCurrentPayload_run]
  split <;> rfl

-- ---------------------------------------------------------------------------
-- Sequences of calls
-- ---------------------------------------------------------------------------

def addAll : List (Option String × ContextValue) → Request → List (Option SessionError) × Request
  | [], r => ([], r)
  | (key, value) :: calls, r =>
    match (addRequestContext key value).run r with
    | .ok _ r' => let (out, r'') := addAll calls r'; (none :: out, r'')
    | .error e r' => let (out, r'') := addAll calls r'; (some e :: out, r'')

def lastStored (calls : List (Option String × ContextValue)) (k : String) : Option ContextValue :=
  ((calls.filter fun call => !blankKey call.1 && call.1 == some k).getLast?).map (·.2)

theorem lastStored_cons (key : Option String) (value : ContextValue)
    (calls : List (Option String × ContextValue)) (k : String) :
    lastStored ((key, value) :: calls) k =
      (lastStored calls k).or (if !blankKey key && key == some k then some value else none) := by
  unfold lastStored
  rw [List.filter_cons]
  generalize List.filter (fun call => !blankKey call.1 && call.1 == some k) calls = l
  split
  · rw [List.getLast?_cons]; cases l.getLast? <;> rfl
  · cases l.getLast? <;> rfl

/-- A call raises exactly when its key is `None` or blank, and after any sequence of calls every
key holds the value of the last call that stored under it, or what it held before. -/
theorem addAll_spec (calls : List (Option String × ContextValue)) (r : Request) (k : String) :
    (addAll calls r).1 = calls.map (fun call => if blankKey call.1 then some invalidKeyError
      else none) ∧
    (addAll calls r).2.context.get? k = (lastStored calls k).or (r.context.get? k) := by
  induction calls generalizing r with
  | nil => exact ⟨rfl, rfl⟩
  | cons call calls ih =>
    obtain ⟨key, value⟩ := call
    unfold addAll
    rw [addRequestContext_run]
    by_cases hb : blankKey key
    · simp only [hb, if_true, List.map_cons, lastStored_cons, Bool.not_true, Bool.false_and,
        Bool.false_eq_true, if_false]
      exact ⟨by rw [(ih r).1], by rw [(ih r).2]; cases lastStored calls k <;> rfl⟩
    · simp only [hb, if_false, List.map_cons, lastStored_cons, Bool.false_eq_true]
      refine ⟨by rw [(ih _).1], ?_⟩
      rw [(ih _).2, Dict.get?_set]
      obtain _ | key := key
      · exact absurd rfl hb
      · by_cases hk : k = key
        · subst hk; cases lastStored calls k <;> simp
        · cases lastStored calls k <;> simp [hk, Ne.symm hk]

end Pyrin.Security.Session
