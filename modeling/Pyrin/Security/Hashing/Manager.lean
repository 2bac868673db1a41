import Pyrin.Core.Value

/-!
# Hashing manager

`HashingManager` of `pyrin.security.hashing.manager`: a registry of hashing handlers keyed by
`get_name()`. Methods run in `EStateM`, so that a raise keeps the state the method had left,
as a Python exception does. The handlers' own hashing (`HashingBase` subclasses) is not under
src/ and enters as parameters; `print_warning` on replacement writes to the console only and
is not modelled.
-/

namespace Pyrin.Security.Hashing

/-- A `HashingBase` instance, by what the manager reads of it: `get_name()` and `str()`. -/
structure HashingBase where
  name : Option String
  str : String
  deriving DecidableEq, Repr

inductive Instance where
  | hashingBase (h : HashingBase)
  | other (str : String)
  deriving DecidableEq, Repr

def Instance.str : Instance → String
  | .hashingBase h => h.str
  | .other s => s

inductive HashingError where
  | invalidHashingHandlerType (message : String)
  | invalidHashingHandlerName (message : String)
  | duplicatedHashingHandler (message : String)
  | hashingHandlerNotFound (message : String)
  deriving DecidableEq, Repr

structure HashingManager where
  hashingHandlers : Dict String HashingBase
  deriving DecidableEq, Repr

def HashingManager.init : HashingManager := ⟨Dict.empty⟩

def invalidNameError (h : HashingBase) : HashingError :=
  .invalidHashingHandlerName ("Hashing handler [" ++ h.str ++ "] has invalid name.")

def duplicatedError (h : HashingBase) (name : String) : HashingError :=
  .duplicatedHashingHandler ("There is another registered hashing handler with name ["
    ++ name ++ "] but \"replace\" option is not set, so handler [" ++ h.str
    ++ "] could not be registered.")

def notFoundError (name : String) : HashingError :=
  .hashingHandlerNotFound ("Hashing handler [" ++ name ++ "] not found.")

def replaceOption (options : Kwargs) : PyValue := options.get "replace" (PyValue.ofBool false)

def registerHashingHandler (inst : Instance) (options : Kwargs) :
    EStateM HashingError HashingManager Unit := do
  let .hashingBase h := inst
    | throw (.invalidHashingHandlerType
        ("Input parameter [" ++ inst.str ++ "] is not an instance of HashingBase."))
  let some name := h.name
    | throw (invalidNameError h)
  if (strip name).length = 0 then throw (invalidNameError h)
  let m ← get
  if name ∈ m.hashingHandlers.keys then
    if !(replaceOption options).isTrue then throw (duplicatedError h name)
  set { m with hashingHandlers := m.hashingHandlers.set name h }

def getHashingHandler (name : String) : EStateM HashingError HashingManager HashingBase := do
  let m ← get
  match m.hashingHandlers.get? name with
  | some h => pure h
  | none => throw (notFoundError name)

section Handlers

-- The handler's own `generate_hash` and `is_match`, not under src/.
variable (generate : HashingBase → String → Kwargs → List UInt8)
  (isMatchOf : HashingBase → String → List UInt8 → Bool)

def generateHash (handlerName text : String) (options : Kwargs) :
    EStateM HashingError HashingManager (List UInt8) := do
  let h ← getHashingHandler handlerName
  pure (generate h text options)

def isMatch (handlerName text : String) (fullHashedValue : List UInt8) :
    EStateM HashingError HashingManager Bool := do
  let h ← getHashingHandler handlerName
  pure (isMatchOf h text fullHashedValue)

end Handlers

-- ---------------------------------------------------------------------------
-- One registration
-- ---------------------------------------------------------------------------

variable {m : HashingManager} {h : HashingBase} {name : String} {options : Kwargs}

theorem registerHashingHandler_other (s : String) :
    (registerHashingHandler (.other s) options).run m =
      .error (.invalidHashingHandlerType
        ("Input parameter [" ++ s ++ "] is not an instance of HashingBase.")) m := rfl

theorem registerHashingHandler_none (hn : h.name = none) :
    (registerHashingHandler (.hashingBase h) options).run m = .error (invalidNameError h) m := by
  simp [registerHashingHandler, hn]

theorem registerHashingHandler_blank (hn : h.name = some name) (hb : (strip name).length = 0) :
    (registerHashingHandler (.hashingBase h) options).run m = .error (invalidNameError h) m := by
  simp [registerHashingHandler, hn, hb]

theorem registerHashingHandler_duplicated (hn : h.name = some name)
    (hb : (strip name).length ≠ 0) (hk : name ∈ m.hashingHandlers.keys)
    (hr : (replaceOption options).isTrue = false) :
    (registerHashingHandler (.hashingBase h) options).run m = .error (duplicatedError h name) m := by
  simp [registerHashingHandler, hn, hb, hk, hr, run_ite]

theorem registerHashingHandler_ok (hn : h.name = some name) (hb : (strip name).length ≠ 0)
    (hr : name ∈ m.hashingHandlers.keys → (replaceOption options).isTrue = true) :
    (registerHashingHandler (.hashingBase h) options).run m =
      .ok () ⟨m.hashingHandlers.set name h⟩ := by
  by_cases hk : name ∈ m.hashingHandlers.keys
  · simp [registerHashingHandler, hn, hb, hk, hr hk, run_ite]
  · simp [registerHashingHandler, hn, hb, hk, run_ite]

theorem getHashingHandler_run (m : HashingManager) (name : String) :
    (getHashingHandler name).run m = match m.hashingHandlers.get? name with
      | some h => .ok h m
      | none => .error (notFoundError name) m := by
  simp only [getHashingHandler, run_get_bind]
  split <;> rfl

/-- A raising registration leaves the manager as it was: every check comes before the write. -/
theorem registerHashingHandler_error_state {m m' : HashingManager} {inst : Instance} {e : HashingError}
    (he : (registerHashingHandler inst options).run m = .error e m') : m' = m := by
  cases inst with
  | other s => rw [registerHashingHandler_other] at he; cases he; rfl
  | hashingBase h =>
    cases hn : h.name with
    | none => rw [registerHashingHandler_none hn] at he; cases he; rfl
    | some name =>
      by_cases hb : (strip name).length = 0
      · rw [registerHashingHandler_blank hn hb] at he; cases he; rfl
      by_cases hr : name ∈ m.hashingHandlers.keys → (replaceOption options).isTrue = true
      · rw [registerHashingHandler_ok hn hb hr] at he; cases he
      · simp only [Classical.not_imp, Bool.not_eq_true] at hr
        rw [registerHashingHandler_duplicated hn hb hr.1 hr.2] at he; cases he; rfl

-- ---------------------------------------------------------------------------
-- Sequences of registrations against their history
-- ---------------------------------------------------------------------------

structure Call where
  inst : Instance
  options : Kwargs
  deriving DecidableEq, Repr

inductive ErrorKind where
  | invalidType
  | invalidName
  | duplicated
  | notFound
  deriving DecidableEq, Repr

def HashingError.kind : HashingError → ErrorKind
  | .invalidHashingHandlerType _ => .invalidType
  | .invalidHashingHandlerName _ => .invalidName
  | .duplicatedHashingHandler _ => .duplicated
  | .hashingHandlerNotFound _ => .notFound

/-- One call of a sequence: the exception it raises, if any, and the manager after it. -/
def registerStep (m : HashingManager) (c : Call) : Option HashingError × HashingManager :=
  match (registerHashingHandler c.inst c.options).run m with
  | .ok _ m' => (none, m')
  | .error e m' => (some e, m')

/-- Calls made one after another, each raise caught by the caller. -/
def registerAll (m : HashingManager) : List Call → List (Option HashingError) × HashingManager
  | [] => ([], m)
  | c :: cs =>
    let r := registerAll (registerStep m c).2 cs
    ((registerStep m c).1 :: r.1, r.2)

/-- What the registry is meant to be: the handlers of the calls that succeeded, oldest first. -/
abbrev History := List HashingBase

def lastNamed (hist : History) (n : String) : Option HashingBase :=
  hist.reverse.find? (·.name == some n)

/-- The outcome the rules give a call after `hist`, and the history after it: a name already
taken is refused unless the call passes `replace` as the `True` object itself. -/
def specStep (hist : History) (c : Call) : Option ErrorKind × History :=
  match c.inst with
  | .other _ => (some .invalidType, hist)
  | .hashingBase h =>
    match h.name with
    | none => (some .invalidName, hist)
    | some n =>
      if (strip n).length = 0 then (some .invalidName, hist)
      else if hist.any (·.name == some n) && !(c.options.get? "replace" == some (PyValue.ofBool true))
      then (some .duplicated, hist)
      else (none, hist ++ [h])

def specAll (hist : History) : List Call → List (Option ErrorKind) × History
  | [] => ([], hist)
  | c :: cs =>
    let r := specAll (specStep hist c).2 cs
    ((specStep hist c).1 :: r.1, r.2)

/-- The manager holds, under each name, the last handler registered with it. -/
def Refines (m : HashingManager) (hist : History) : Prop :=
  ∀ n, m.hashingHandlers.get? n = lastNamed hist n

def NamesValid (hist : History) : Prop :=
  ∀ h ∈ hist, ∃ n, h.name = some n ∧ (strip n).length ≠ 0

/-- `options.get('replace', False) is True` holds exactly when `replace` was passed as `True`. -/
theorem replaceOption_isTrue (options : Kwargs) :
    (replaceOption options).isTrue = (options.get? "replace" == some (PyValue.ofBool true)) := by
  unfold replaceOption Dict.get PyValue.isTrue
  cases options.get? "replace" <;> simp [PyValue.ofBool]

theorem lastNamed_isSome (hist : History) (n : String) :
    (lastNamed hist n).isSome = hist.any (·.name == some n) := by
  rw [Bool.eq_iff_iff, lastNamed, List.find?_isSome, List.any_eq_true]
  simp

theorem lastNamed_append (hist : History) (h : HashingBase) (n : String) :
    lastNamed (hist ++ [h]) n = if h.name = some n then some h else lastNamed hist n := by
  by_cases hn : h.name = some n <;> simp [lastNamed, hn]

theorem lastNamed_mem {hist : History} {n : String} {h : HashingBase}
    (hl : lastNamed hist n = some h) : h ∈ hist ∧ h.name = some n := by
  have := List.find?_some hl
  exact ⟨List.mem_reverse.mp (List.mem_of_find?_eq_some hl), by simpa using this⟩

theorem Refines.mem_keys (hr : Refines m hist) (n : String) :
    n ∈ m.hashingHandlers.keys ↔ hist.any (·.name == some n) = true := by
  rw [Dict.mem_keys, hr n, lastNamed_isSome]

theorem Refines.set (hr : Refines m hist) (hn : h.name = some name) :
    Refines ⟨m.hashingHandlers.set name h⟩ (hist ++ [h]) := by
  intro k
  simp only [Dict.get?_set, lastNamed_append, hn, Option.some.injEq, hr k]
  by_cases hk : k = name
  · simp [hk]
  · simp [hk, Ne.symm hk]

/-- One call keeps the manager in step with the history: it raises what the rules say, and a
raise changes nothing. -/
theorem registerStep_spec (hr : Refines m hist) (c : Call) :
    (registerStep m c).1.map HashingError.kind = (specStep hist c).1 ∧
      Refines (registerStep m c).2 (specStep hist c).2 ∧
      ((registerStep m c).1.isSome → (registerStep m c).2 = m) := by
  obtain ⟨inst, options⟩ := c
  cases inst with
  | other s => simp [registerStep, specStep, registerHashingHandler_other, HashingError.kind, hr]
  | hashingBase h =>
    cases hn : h.name with
    | none =>
      simp [registerStep, specStep, registerHashingHandler_none hn, hn, invalidNameError,
        HashingError.kind, hr]
    | some name =>
      by_cases hb : (strip name).length = 0
      · simp [registerStep, specStep, registerHashingHandler_blank hn hb, hn, hb,
          invalidNameError, HashingError.kind, hr]
      by_cases hd : name ∈ m.hashingHandlers.keys → (replaceOption options).isTrue = true
      · have hs : ¬ (hist.any (·.name == some name) = true ∧
            (replaceOption options).isTrue = false) := by
          rw [← hr.mem_keys]; simpa using hd
        simp only [registerStep, specStep, registerHashingHandler_ok hn hb hd, hn, hb,
          ← replaceOption_isTrue]
        simp only [Bool.and_eq_true, Bool.not_eq_true', if_false, hs]
        exact ⟨rfl, hr.set hn, by simp⟩
      · simp only [Classical.not_imp, Bool.not_eq_true] at hd
        have hs : hist.any (·.name == some name) = true := (hr.mem_keys name).mp hd.1
        simp [registerStep, specStep, registerHashingHandler_duplicated hn hb hd.1 hd.2, hn,
          hb, hs, ← replaceOption_isTrue, hd.2, duplicatedError, HashingError.kind, hr]

theorem registerAll_spec (hr : Refines m hist) (calls : List Call) :
    (registerAll m calls).1.map (Option.map HashingError.kind) = (specAll hist calls).1 ∧
      Refines (registerAll m calls).2 (specAll hist calls).2 := by
  induction calls generalizing m hist with
  | nil => exact ⟨rfl, hr⟩
  | cons c cs ih =>
    obtain ⟨h1, h2, -⟩ := registerStep_spec hr c
    obtain ⟨ih1, ih2⟩ := ih h2
    exact ⟨by simp [registerAll, specAll, h1, ih1], ih2⟩

theorem specStep_namesValid (hv : NamesValid hist) (c : Call) : NamesValid (specStep hist c).2 := by
  obtain ⟨inst, options⟩ := c
  cases inst with
  | other s => exact hv
  | hashingBase h =>
    cases hn : h.name with
    | none => simpa [specStep, hn] using hv
    | some name =>
      simp only [specStep, hn]
      split
      · exact hv
      split
      · exact hv
      · rename_i hb _
        intro h' hh'
        rcases List.mem_append.mp hh' with hh' | hh'
        · exact hv h' hh'
        · rw [List.mem_singleton.mp hh']; exact ⟨name, hn, hb⟩

theorem specAll_namesValid (hv : NamesValid hist) (calls : List Call) :
    NamesValid (specAll hist calls).2 := by
  induction calls generalizing hist with
  | nil => exact hv
  | cons c cs ih => exact ih (specStep_namesValid hv c)

theorem Refines.getHashingHandler (hr : Refines m hist) (n : String) :
    (getHashingHandler n).run m = match lastNamed hist n with
      | some h => .ok h m
      | none => .error (notFoundError n) m := by
  rw [getHashingHandler_run, hr n]

theorem Refines.stored (hr : Refines m hist) (hv : NamesValid hist) {k : String}
    {h : HashingBase} (hk : m.hashingHandlers.get? k = some h) :
    (strip k).length ≠ 0 ∧ h.name = some k := by
  rw [hr k] at hk
  obtain ⟨hm, hn⟩ := lastNamed_mem hk
  obtain ⟨n, hn', hb⟩ := hv h hm
  rw [hn] at hn'
  cases hn'
  exact ⟨hb, hn⟩

section Handlers

variable (generate : HashingBase → String → Kwargs → List UInt8)
  (isMatchOf : HashingBase → String → List UInt8 → Bool)

theorem generateHash_run (m : HashingManager) (n text : String) (options : Kwargs) :
    (generateHash generate n text options).run m = match m.hashingHandlers.get? n with
      | some h => .ok (generate h text options) m
      | none => .error (notFoundError n) m := by
  cases hn : m.hashingHandlers.get? n with
  | some h => exact run_bind_ok (by rw [getHashingHandler_run, hn])
  | none => exact run_bind_error (by rw [getHashingHandler_run, hn])

theorem isMatch_run (m : HashingManager) (n text : String) (value : List UInt8) :
    (isMatch isMatchOf n text value).run m = match m.hashingHandlers.get? n with
      | some h => .ok (isMatchOf h text value) m
      | none => .error (notFoundError n) m := by
  cases hn : m.hashingHandlers.get? n with
  | some h => exact run_bind_ok (by rw [getHashingHandler_run, hn])
  | none => exact run_bind_error (by rw [getHashingHandler_run, hn])

end Handlers

/-- A sequence of registrations on a fresh manager follows its history: each call raises what
the rules give it after the calls that succeeded before it, a raise changes nothing, and a
lookup finds the handler of the last successful call of that name, or raises not found. -/
theorem registration_sequence_spec (calls : List Call) :
    let m := (registerAll HashingManager.init calls).2
    let hist := (specAll [] calls).2
    (registerAll HashingManager.init calls).1.map (Option.map HashingError.kind) =
        (specAll [] calls).1 ∧
      (∀ (m₀ m' : HashingManager) (c : Call) (e : HashingError),
        (registerHashingHandler c.inst c.options).run m₀ = .error e m' → m' = m₀) ∧
      (∀ n, (getHashingHandler n).run m = match lastNamed hist n with
        | some h => .ok h m
        | none => .error (notFoundError n) m) ∧
      (∀ generate n text options, (generateHash generate n text options).run m =
        match lastNamed hist n with
        | some h => .ok (generate h text options) m
        | none => .error (notFoundError n) m) ∧
      (∀ isMatchOf n text value, (isMatch isMatchOf n text value).run m =
        match lastNamed hist n with
        | some h => .ok (isMatchOf h text value) m
        | none => .error (notFoundError n) m) ∧
      (∀ k h, m.hashingHandlers.get? k = some h → (strip k).length ≠ 0 ∧ h.name = some k) := by
  have h0 : Refines HashingManager.init [] := fun n => rfl
  obtain ⟨h1, hr⟩ := registerAll_spec h0 calls
  have hv : NamesValid (specAll [] calls).2 := specAll_namesValid (by simp [NamesValid]) calls
  refine ⟨h1, fun _ _ _ _ he => registerHashingHandler_error_state he,
    hr.getHashingHandler, fun g n t o => ?_, fun g n t v => ?_, fun _ _ hk => hr.stored hv hk⟩
  · rw [generateHash_run, hr n]
  · rw [isMatch_run, hr n]

end Pyrin.Security.Hashing
