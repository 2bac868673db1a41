import Mathlib.Data.List.Basic
import Pyrin.Core.Dict

/-!
# Python values

The values the modelled code reads: scalars, the container types of `LIST_TYPES`, and the
string operations the code calls on names (`strip`). Containers hold scalars; nothing in the
modelled code looks inside a nested container. `LIST_TYPES` lives in `pyrin.core.globals`,
which is not under src/; it is taken as `list`, `tuple` and `set`.
-/

namespace Pyrin

/-- A Python value that holds no other value. A callable is a function object, known by
its name. -/
inductive Scalar where
  | none
  | bool (b : Bool)
  | int (n : Int)
  | str (s : String)
  | callable (name : String)
  deriving DecidableEq, Repr

/-- The types of `LIST_TYPES`. -/
inductive ListType where
  | list
  | tuple
  | set
  deriving DecidableEq, Repr

inductive PyValue where
  | scalar (v : Scalar)
  | collection (type : ListType) (items : List Scalar)
  deriving DecidableEq, Repr

abbrev Kwargs := Dict String PyValue

namespace PyValue

def none : PyValue := .scalar .none

def ofBool (b : Bool) : PyValue := .scalar (.bool b)

def isNone (v : PyValue) : Bool := v == none

/-- `v is True`: only the `True` object itself, not another truthy value. -/
def isTrue (v : PyValue) : Bool := v == ofBool true

def callable : PyValue → Bool
  | .scalar (.callable _) => true
  | _ => false

def isListType : PyValue → Bool
  | .collection .. => true
  | .scalar _ => false

def len : PyValue → Option Nat
  | .collection _ items => some items.length
  | .scalar (.str s) => some s.length
  | .scalar _ => Option.none

/-- Truth value testing, as `if v` and `v or w` do it. -/
def truthy : PyValue → Bool
  | .scalar .none => false
  | .scalar (.bool b) => b
  | .scalar (.int n) => n != 0
  | .scalar (.str s) => !s.isEmpty
  | .scalar (.callable _) => true
  | .collection _ items => !items.isEmpty

def pyOr (v w : PyValue) : PyValue := if v.truthy then v else w

@[simp] theorem isNone_iff (v : PyValue) : v.isNone = true ↔ v = none := by
  simp [isNone]

@[simp] theorem isNone_eq_false (v : PyValue) : v.isNone = false ↔ v ≠ none := by
  simp [isNone]

@[simp] theorem isTrue_iff (v : PyValue) : v.isTrue = true ↔ v = ofBool true := by
  simp [isTrue]

end PyValue

-- ---------------------------------------------------------------------------
-- Strings
-- ---------------------------------------------------------------------------

/-- `str.isspace` on one character: the Unicode whitespace CPython strips. -/
def isSpace (c : Char) : Bool :=
  let n := c.toNat
  (0x09 ≤ n && n ≤ 0x0D) || (0x1C ≤ n && n ≤ 0x20) || n == 0x85 || n == 0xA0 ||
    n == 0x1680 || (0x2000 ≤ n && n ≤ 0x200A) || n == 0x2028 || n == 0x2029 ||
    n == 0x202F || n == 0x205F || n == 0x3000

def strip (s : String) : String :=
  ⟨((s.data.dropWhile isSpace).reverse.dropWhile isSpace).reverse⟩

theorem strip_length_eq_zero (s : String) :
    (strip s).length = 0 ↔ ∀ c ∈ s.data, isSpace c = true := by
  simp only [strip, String.length, List.length_reverse, List.length_eq_zero,
    List.reverse_eq_nil_iff, List.dropWhile_eq_nil_iff, List.mem_reverse]
  constructor
  · intro h
    by_cases hd : s.data.dropWhile isSpace = []
    · exact List.dropWhile_eq_nil_iff.mp hd
    · have := List.head_dropWhile_not isSpace s.data hd
      rw [h _ (List.head_mem hd)] at this
      exact absurd this (by decide)
  · exact fun h c hc => h c ((List.dropWhile_sublist isSpace).subset hc)

-- ---------------------------------------------------------------------------
-- Running code that raises
-- ---------------------------------------------------------------------------

/-! Methods run in `EStateM ε σ`: a raise ends the run with the exception and the state the
method had reached, which is what a caught Python exception leaves behind. -/

section Run

variable {ε σ α β : Type} {s s' : σ}

@[simp] theorem run_get_bind (f : σ → EStateM ε σ α) :
    (get >>= f).run s = (f s).run s := rfl

@[simp] theorem run_map_get (f : σ → α) : (f <$> (get : EStateM ε σ σ)).run s = .ok (f s) s := rfl

@[simp] theorem run_set : (set s' : EStateM ε σ PUnit).run s = .ok () s' := rfl

@[simp] theorem run_set_bind (f : PUnit → EStateM ε σ α) :
    (set s' >>= f).run s = (f ⟨⟩).run s' := rfl

@[simp] theorem run_throw (e : ε) : (throw e : EStateM ε σ α).run s = .error e s := rfl

@[simp] theorem run_throw_bind (e : ε) (f : α → EStateM ε σ β) :
    (throw e >>= f).run s = .error e s := rfl

@[simp] theorem run_map_set (f : PUnit → α) :
    (f <$> (set s' : EStateM ε σ PUnit)).run s = .ok (f ()) s' := rfl

@[simp] theorem run_pure (a : α) : (pure a : EStateM ε σ α).run s = .ok a s := rfl

theorem run_bind_ok {x : EStateM ε σ α} {f : α → EStateM ε σ β} {a : α}
    (hx : x.run s = .ok a s') : (x >>= f).run s = (f a).run s' := by
  change (match x s with | .ok a s => f a s | .error e s => .error e s) = f a s'
  rw [show x s = .ok a s' from hx]

theorem run_bind_error {x : EStateM ε σ α} {f : α → EStateM ε σ β} {e : ε}
    (hx : x.run s = .error e s') : (x >>= f).run s = .error e s' := by
  change (match x s with | .ok a s => f a s | .error e s => .error e s) = .error e s'
  rw [show x s = .error e s' from hx]

theorem run_bind (x : EStateM ε σ α) (f : α → EStateM ε σ β) (s : σ) :
    (x >>= f).run s = match x.run s with
      | .ok a s' => (f a).run s'
      | .error e s' => .error e s' := rfl

/-- What a run returned; `none` if it raised. -/
def resultValue : EStateM.Result ε σ α → Option α
  | .ok a _ => some a
  | .error .. => Option.none

def resultState : EStateM.Result ε σ α → σ
  | .ok _ s => s
  | .error _ s => s

theorem resultValue_map (f : α → β) (x : EStateM ε σ α) :
    resultValue ((x >>= fun r => pure (f r)).run s) = (resultValue (x.run s)).map f := by
  cases hx : x.run s with
  | ok a s' => rw [run_bind_ok hx]; rfl
  | error e s' => rw [run_bind_error hx]; rfl

/-- What a run gave its caller: the value it returned, or the exception it raised. -/
def resultOutcome : EStateM.Result ε σ α → Except ε α
  | .ok a _ => .ok a
  | .error e _ => .error e

theorem resultOutcome_map (f : α → β) (x : EStateM ε σ α) :
    resultOutcome ((x >>= fun r => pure (f r)).run s) = (resultOutcome (x.run s)).map f := by
  rw [run_bind]; cases x.run s <;> rfl

/-- A method whose continuation leaves `p` of the state alone leaves it as its first call did. -/
theorem resultState_bind_frame {τ : Type} (p : σ → τ) {x : EStateM ε σ α}
    {f : α → EStateM ε σ β} (hf : ∀ a s, p (resultState ((f a).run s)) = p s) :
    p (resultState ((x >>= f).run s)) = p (resultState (x.run s)) := by
  rw [run_bind]
  cases x.run s with
  | ok a s' => exact hf a s'
  | error e s' => rfl

theorem run_ite (c : Prop) [Decidable c] (x y : EStateM ε σ α) :
    (if c then x else y).run s = if c then x.run s else y.run s := by
  split <;> rfl

-- The loops of the modelled code, `for x in xs` with no `break`, run at the state level.

theorem run_forIn_yield (l : List α) (f : α → PUnit → EStateM ε σ (ForInStep PUnit))
    (g : α → EStateM ε σ PUnit)
    (hf : ∀ a s, (f a ⟨⟩).run s = match (g a).run s with
      | .ok _ s' => .ok (.yield ⟨⟩) s'
      | .error e s' => .error e s') (s : σ) :
    (forIn l ⟨⟩ f).run s = (l.forM g).run s := by
  induction l generalizing s with
  | nil => rfl
  | cons a l ih =>
    rw [List.forIn_cons, List.forM_cons', run_bind, run_bind, hf]
    cases (g a).run s with
    | ok u s' => exact ih s'
    | error e s' => rfl

theorem run_bind_pure_unit (x : EStateM ε σ PUnit) (s : σ) :
    (x >>= fun _ => pure PUnit.unit).run s = x.run s := by
  rw [run_bind]; cases x.run s <;> rfl

theorem run_bind_const (x : EStateM ε σ PUnit) (b : β) (s : σ) :
    (x >>= fun _ => pure b).run s = match x.run s with
      | .ok _ s' => .ok b s'
      | .error e s' => .error e s' := by
  rw [run_bind]; cases x.run s <;> rfl

theorem run_bind_yield (x : EStateM ε σ PUnit) (s : σ) :
    (x >>= fun _ => pure PUnit.unit >>= fun _ => pure (ForInStep.yield PUnit.unit)).run s =
      match x.run s with
      | .ok _ s' => .ok (.yield ⟨⟩) s'
      | .error e s' => .error e s' := by
  rw [run_bind]; cases x.run s <;> rfl

theorem run_forM_filter_map (l : List α) (p : α → Bool) (k : α → β) (g : β → EStateM ε σ PUnit)
    (s : σ) :
    (l.forM fun a => if p a then g (k a) else pure ⟨⟩).run s =
      (((l.filter p).map k).forM g).run s := by
  induction l generalizing s with
  | nil => rfl
  | cons a l ih =>
    by_cases hp : p a
    · rw [List.forM_cons', List.filter_cons_of_pos hp, List.map_cons, List.forM_cons', if_pos hp,
        run_bind, run_bind]
      cases (g (k a)).run s with
      | ok u s' => exact ih s'
      | error e s' => rfl
    · rw [List.forM_cons', List.filter_cons_of_neg hp, if_neg hp, run_bind_ok (run_pure _)]
      exact ih s

theorem run_forM_flatMap (l : List α) (t : α → List β) (g : β → EStateM ε σ PUnit) (s : σ) :
    ((l.flatMap t).forM g).run s = (l.forM fun a => (t a).forM g).run s := by
  induction l generalizing s with
  | nil => rfl
  | cons a l ih =>
    rw [List.flatMap_cons, List.forM_append, List.forM_cons', run_bind, run_bind]
    cases ((t a).forM g).run s with
    | ok u s' => exact ih s'
    | error e s' => rfl

end Run

end Pyrin
