import Pyrin.Core.Classes
import Pyrin.Core.Value

/-!
# Entities: root base class, equality and hashing

`CoreDeclarative` of `pyrin.database.model.base`, the part that compares entities.
`_get_root_base_class` picks the class just before `CoreEntity` in the MRO and caches it as a
class attribute; a later call on any class finds the first cached value along its own MRO.
`__eq__` tests `isinstance(other, root)` and compares primary keys; Python's `==` calls the
right operand's `__eq__` first when its class is a proper subclass of the left one's.

Equality is symmetric, and compatible with hashing for keys whose `==` agrees with `str`, on
entities whose classes have one direct subclass of `CoreEntity` among their ancestors, standing
right before `CoreEntity` in their MRO (`WellRootedAt`): `eq_laws`. With two such classes it is
not symmetric, and keys `1` and `1.0` make `==` entities that hash differently
(`opEq_not_symmetric_nor_hash_compatible`).
-/

namespace Pyrin.Database.Model

inductive ModelError where
  | valueError (message : String)
  | columnNotExisted (message : String)
  /-- The attribute that was not found; SQLAlchemy, not under src/, words the message. -/
  | attributeError (name : String)
  | typeError (message : String)
  deriving DecidableEq, Repr

/-- A class attribute holding a `DTO`: the classes whose namespace has it, each with the index
of its `DTO` in the heap of those objects, and the objects, keyed by class. -/
structure ColumnCache where
  attr : Dict ClassId Nat
  dtos : List (Dict ClassId (List String))
  deriving DecidableEq, Repr

def ColumnCache.empty : ColumnCache := ⟨.empty, []⟩

/-- The class-level state of the entity classes: `_root_base_class`, and the `_all_columns`
and `_exposed_columns` caches, whose `DTO`s are never shared between the two. -/
structure Runtime where
  rootBaseClass : Dict ClassId ClassId
  allColumns : ColumnCache
  exposedColumns : ColumnCache
  deriving DecidableEq, Repr

def Runtime.init : Runtime := ⟨.empty, .empty, .empty⟩

/-- An entity instance: its class and its `__dict__`, the values of its attributes. -/
structure Entity where
  cls : ClassId
  values : Dict String PyValue
  deriving DecidableEq, Repr

section Root

variable (h : Hierarchy) (coreEntity : ClassId)

def IsEntityClass (c : ClassId) : Prop := coreEntity ∈ h.mro c ∧ c ≠ coreEntity

instance (c : ClassId) : Decidable (IsEntityClass h coreEntity c) :=
  inferInstanceAs (Decidable (_ ∧ _))

/-- `bases[bases.index(CoreEntity) - 1]`; index `-1` is the last class. -/
def rootPick (bases : List ClassId) : ClassId :=
  match bases.indexOf coreEntity with
  | 0 => bases.getLast?.getD coreEntity
  | i + 1 => bases.getD i coreEntity

def classStr (c : ClassId) : String :=
  match h.classes[c]? with
  | some k => "<class \x27" ++ k.module ++ "." ++ k.name ++ "\x27>"
  | none => ""

/-- `self._get_root_base_class()` on an instance of `c`. The final
`self.__class__._root_base_class` finds the value just found, or just set on `c`. -/
def getRootBaseClass (c : ClassId) : EStateM ModelError Runtime ClassId := do
  let rt ← get
  match h.lookupAttr rt.rootBaseClass c with
  | some r => pure r
  | none =>
    if coreEntity ∉ h.mro c then throw (.valueError "tuple.index(x): x not in tuple")
    let r := rootPick coreEntity (h.mro c)
    set { rt with rootBaseClass := rt.rootBaseClass.set c r }
    pure r

end Root

section Compare

variable (h : Hierarchy) (coreEntity : ClassId) {K : Type} (primaryKey : Entity → K)
  (pkEq : K → K → Bool)

def eq (a b : Entity) : EStateM ModelError Runtime Bool := do
  let r ← getRootBaseClass h coreEntity a.cls
  if r ∈ h.mro b.cls then pure (pkEq (primaryKey a) (primaryKey b)) else pure false

/-- Python tries the right operand's method first when its class is a proper subclass of the
left operand's. -/
def Reflected (a b : Entity) : Prop := b.cls ≠ a.cls ∧ a.cls ∈ h.mro b.cls

instance (a b : Entity) : Decidable (Reflected h a b) := inferInstanceAs (Decidable (_ ∧ _))

/-- `a == b`; `__eq__` never returns `NotImplemented`. -/
def opEq (a b : Entity) : EStateM ModelError Runtime Bool :=
  if Reflected h a b then eq h coreEntity primaryKey pkEq b a
  else eq h coreEntity primaryKey pkEq a b

def ne (a b : Entity) : EStateM ModelError Runtime Bool := do
  let r ← opEq h coreEntity primaryKey pkEq a b
  pure !r

def opNe (a b : Entity) : EStateM ModelError Runtime Bool :=
  if Reflected h a b then ne h coreEntity primaryKey pkEq b a
  else ne h coreEntity primaryKey pkEq a b

/-- `hash(a)`: the hash of `'{base_type}{pk}'`; `strHash` is `str.__hash__`, seeded per
process. -/
def hash (pkStr : K → String) (strHash : String → Int) (a : Entity) :
    EStateM ModelError Runtime Int := do
  let r ← getRootBaseClass h coreEntity a.cls
  pure (strHash (classStr h r ++ pkStr (primaryKey a)))

/-- `repr(a)`: `'<{module}.{class_} [{pk}]>'` of the instance's own class. -/
def Entity.repr (pkStr : K → String) (a : Entity) : String :=
  let k := h.classes[a.cls]?
  "<" ++ (k.map (·.module)).getD "" ++ "." ++ (k.map (·.name)).getD "" ++ " [" ++
    pkStr (primaryKey a) ++ "]>"

def Entity.str (pkStr : K → String) (a : Entity) : String := pkStr (primaryKey a)

end Compare

-- ---------------------------------------------------------------------------
-- The root cache
-- ---------------------------------------------------------------------------

section RootCache

variable {h : Hierarchy} {coreEntity : ClassId}

theorem getRootBaseClass_run (rt : Runtime) {c : ClassId} (hc : coreEntity ∈ h.mro c) :
    (getRootBaseClass h coreEntity c).run rt = match h.lookupAttr rt.rootBaseClass c with
      | some r => .ok r rt
      | none => .ok (rootPick coreEntity (h.mro c))
          { rt with rootBaseClass := rt.rootBaseClass.set c (rootPick coreEntity (h.mro c)) } := by
  simp only [getRootBaseClass, run_get_bind]
  split <;> simp [hc]

variable (h coreEntity) in
def RootCacheOk (rt : Runtime) : Prop :=
  ∀ d r, rt.rootBaseClass.get? d = some r →
    IsEntityClass h coreEntity d ∧ r = rootPick coreEntity (h.mro d)

theorem rootCacheOk_init : RootCacheOk h coreEntity Runtime.init := by
  intro d r hd; simp [Runtime.init] at hd

theorem RootCacheOk.getRootBaseClass {rt : Runtime} (hr : RootCacheOk h coreEntity rt) {c : ClassId}
    (hc : IsEntityClass h coreEntity c) :
    ∃ r rt', (getRootBaseClass h coreEntity c).run rt = .ok r rt' ∧ RootCacheOk h coreEntity rt' := by
  rw [getRootBaseClass_run rt hc.1]
  split
  · exact ⟨_, _, rfl, hr⟩
  · refine ⟨_, _, rfl, fun d r hd => ?_⟩
    simp only [Dict.get?_set] at hd
    split at hd
    · rename_i hdc; cases hd; subst hdc; exact ⟨hc, rfl⟩
    · exact hr d r hd

variable (h coreEntity) in
/-- The classes of the MRO of `c` that have `CoreEntity` among their direct bases. -/
def directSubclasses (c : ClassId) : List ClassId :=
  (h.mro c).filter fun d => coreEntity ∈ h.bases d

variable (h coreEntity) in
/-- Every entity class of `c`'s MRO descends from one direct subclass of `CoreEntity`, which
stands right before `CoreEntity` in that class's MRO. -/
def WellRootedAt (c : ClassId) : Prop :=
  ∀ d ∈ h.mro c, IsEntityClass h coreEntity d →
    directSubclasses h coreEntity d = [rootPick coreEntity (h.mro d)]

instance (c : ClassId) : Decidable (WellRootedAt h coreEntity c) :=
  inferInstanceAs (Decidable (∀ d ∈ h.mro c, IsEntityClass h coreEntity d →
    directSubclasses h coreEntity d = [rootPick coreEntity (h.mro d)]))

variable {c d : ClassId}

theorem WellRootedAt.singleton (hw : WellRootedAt h coreEntity c)
    (hc : IsEntityClass h coreEntity c) :
    directSubclasses h coreEntity c = [rootPick coreEntity (h.mro c)] :=
  hw c (h.mem_mro_self (h.lt_of_mem_mro hc.1)) hc

theorem WellRootedAt.of_mem (hw : WellRootedAt h coreEntity c) (hd : d ∈ h.mro c) :
    WellRootedAt h coreEntity d :=
  fun e he => hw e (h.mro_subset hd e he)

theorem WellRootedAt.root_mem (hw : WellRootedAt h coreEntity c)
    (hc : IsEntityClass h coreEntity c) :
    rootPick coreEntity (h.mro c) ∈ h.mro c ∧ coreEntity ∈ h.bases (rootPick coreEntity (h.mro c)) := by
  have hm : rootPick coreEntity (h.mro c) ∈ directSubclasses h coreEntity c := by
    rw [hw.singleton hc]; exact List.mem_singleton_self _
  simpa [directSubclasses] using hm

theorem WellRootedAt.root_mem_mro_iff (hwa : WellRootedAt h coreEntity c)
    (hwb : WellRootedAt h coreEntity d) (ha : IsEntityClass h coreEntity c)
    (hb : IsEntityClass h coreEntity d) :
    rootPick coreEntity (h.mro c) ∈ h.mro d ↔
      directSubclasses h coreEntity c = directSubclasses h coreEntity d := by
  rw [hwa.singleton ha, hwb.singleton hb, List.singleton_inj]
  constructor
  · intro hm
    have : rootPick coreEntity (h.mro c) ∈ directSubclasses h coreEntity d := by
      simpa [directSubclasses] using ⟨hm, (hwa.root_mem ha).2⟩
    rwa [hwb.singleton hb, List.mem_singleton] at this
  · intro he; rw [he]; exact (hwb.root_mem hb).1

/-- Every cached root along the MRO of a well-rooted entity class is that class's own root, so a
call returns it whatever was cached before. -/
theorem WellRootedAt.getRootBaseClass (hw : WellRootedAt h coreEntity c) {rt : Runtime}
    (hr : RootCacheOk h coreEntity rt) (hc : IsEntityClass h coreEntity c) :
    ∃ rt', (getRootBaseClass h coreEntity c).run rt = .ok (rootPick coreEntity (h.mro c)) rt' ∧
      RootCacheOk h coreEntity rt' := by
  obtain ⟨r, rt', hrun, hr'⟩ := hr.getRootBaseClass hc
  refine ⟨rt', ?_, hr'⟩
  rw [hrun]
  rw [getRootBaseClass_run rt hc.1] at hrun
  split at hrun
  · rename_i r' hl
    cases hrun
    obtain ⟨d, hd, hdr⟩ := List.exists_of_findSome?_eq_some hl
    obtain ⟨hde, rfl⟩ := hr d r hdr
    have hwd := hw.of_mem hd
    have hsame := (hwd.root_mem_mro_iff hw hde hc).mp (h.mro_subset hd _ (hwd.root_mem hde).1)
    rw [hwd.singleton hde, hw.singleton hc, List.singleton_inj] at hsame
    rw [hsame]
  · cases hrun; rfl

variable (h coreEntity) in
abbrev EntityClass := {c : ClassId // IsEntityClass h coreEntity c}

variable (h coreEntity) in
def warm (calls : List (EntityClass h coreEntity)) : Runtime :=
  calls.foldl (fun rt c => resultState ((getRootBaseClass h coreEntity c.1).run rt)) Runtime.init

theorem rootCacheOk_warm (calls : List (EntityClass h coreEntity)) :
    RootCacheOk h coreEntity (warm h coreEntity calls) := by
  suffices ∀ rt, RootCacheOk h coreEntity rt → RootCacheOk h coreEntity
      (calls.foldl (fun rt c => resultState ((getRootBaseClass h coreEntity c.1).run rt)) rt) from
    this _ rootCacheOk_init
  induction calls with
  | nil => exact fun _ hr => hr
  | cons c cs ih =>
    intro rt hr
    obtain ⟨r, rt', hrun, hr'⟩ := hr.getRootBaseClass c.2
    exact ih _ (by simpa only [hrun, resultState] using hr')

/-- `object`, `CoreObject`, `CoreDeclarative` and `CoreEntity`, then `class M`,
`class E(M, CoreEntity)`, `class B1(CoreEntity)`, `class B2(CoreEntity)`, `class C(B1, B2)` and
`class D(B1)`. -/
def mixedHierarchy : Hierarchy :=
  ⟨[⟨"object", "builtins", [], [0]⟩, ⟨"CoreObject", "pyrin.core.context", [0], [1, 0]⟩,
    ⟨"CoreDeclarative", "pyrin.database.model.base", [1], [2, 1, 0]⟩,
    ⟨"CoreEntity", "pyrin.database.model.base", [2], [3, 2, 1, 0]⟩,
    ⟨"M", "app", [0], [4, 0]⟩, ⟨"E", "app", [4, 3], [5, 4, 3, 2, 1, 0]⟩,
    ⟨"B1", "app", [3], [6, 3, 2, 1, 0]⟩, ⟨"B2", "app", [3], [7, 3, 2, 1, 0]⟩,
    ⟨"C", "app", [6, 7], [8, 6, 7, 3, 2, 1, 0]⟩, ⟨"D", "app", [6], [9, 6, 3, 2, 1, 0]⟩],
    by decide⟩

/-- `E`'s root is taken to be the mixin `M`, which stands between `E` and `CoreEntity`, though
`E` is the only direct subclass of `CoreEntity` it descends from; and once a `B1` instance has
cached `B1`, a `C(B1, B2)` instance finds it along its MRO where its own call gives `B2`. -/
theorem getRootBaseClass_mixin_and_inherited_cache :
    resultValue ((getRootBaseClass mixedHierarchy 3 5).run Runtime.init) = some 4 ∧
      directSubclasses mixedHierarchy 3 5 = [5] ∧
      resultValue ((getRootBaseClass mixedHierarchy 3 8).run Runtime.init) = some 7 ∧
      resultValue ((getRootBaseClass mixedHierarchy 3 8).run
        (warm mixedHierarchy 3 [⟨6, by decide⟩])) = some 6 := by
  decide

end RootCache

-- ---------------------------------------------------------------------------
-- Equality and hashing
-- ---------------------------------------------------------------------------

section Laws

variable {h : Hierarchy} {coreEntity : ClassId} {K : Type} (primaryKey : Entity → K)
  (pkEq : K → K → Bool) {rt : Runtime} {a b : Entity}

theorem WellRootedAt.eq (hwa : WellRootedAt h coreEntity a.cls)
    (hwb : WellRootedAt h coreEntity b.cls) (hr : RootCacheOk h coreEntity rt)
    (ha : IsEntityClass h coreEntity a.cls) (hb : IsEntityClass h coreEntity b.cls) :
    ∃ rt', (eq h coreEntity primaryKey pkEq a b).run rt =
      .ok (if directSubclasses h coreEntity a.cls = directSubclasses h coreEntity b.cls then
        pkEq (primaryKey a) (primaryKey b) else false) rt' ∧ RootCacheOk h coreEntity rt' := by
  obtain ⟨rt', hrun, hr'⟩ := hwa.getRootBaseClass hr ha
  refine ⟨rt', ?_, hr'⟩
  rw [Model.eq, run_bind_ok hrun, run_ite]
  simp only [hwa.root_mem_mro_iff hwb ha hb, run_pure]
  split <;> rfl

theorem WellRootedAt.opEq (hwa : WellRootedAt h coreEntity a.cls)
    (hwb : WellRootedAt h coreEntity b.cls)
    (hsymm : pkEq (primaryKey a) (primaryKey b) = pkEq (primaryKey b) (primaryKey a))
    (hr : RootCacheOk h coreEntity rt) (ha : IsEntityClass h coreEntity a.cls)
    (hb : IsEntityClass h coreEntity b.cls) :
    ∃ rt', (opEq h coreEntity primaryKey pkEq a b).run rt =
      .ok (if directSubclasses h coreEntity a.cls = directSubclasses h coreEntity b.cls then
        pkEq (primaryKey a) (primaryKey b) else false) rt' ∧ RootCacheOk h coreEntity rt' := by
  unfold Model.opEq
  split
  · obtain ⟨rt', hrun, hr'⟩ := hwb.eq primaryKey pkEq hwa hr hb ha
    refine ⟨rt', ?_, hr'⟩
    rw [hrun, ← hsymm]
    by_cases he : directSubclasses h coreEntity a.cls = directSubclasses h coreEntity b.cls
    · simp [he]
    · simp [he, Ne.symm he]
  · exact hwa.eq primaryKey pkEq hwb hr ha hb

theorem not_reflected_of_reflected (hab : Reflected h a b) : ¬ Reflected h b a := by
  rintro ⟨hne, hba⟩
  exact hne (Nat.le_antisymm (h.le_of_mem_mro hab.2) (h.le_of_mem_mro hba))

/-- `a != b` is the negation of `a == b` in every hierarchy: both call the same `__eq__`. -/
theorem opNe_value (rt : Runtime) :
    resultValue ((opNe h coreEntity primaryKey pkEq a b).run rt) =
      (resultValue ((opEq h coreEntity primaryKey pkEq a b).run rt)).map (!·) := by
  unfold opNe
  split
  · rename_i hab
    rw [ne, resultValue_map, opEq, if_neg (not_reflected_of_reflected hab), opEq, if_pos hab]
  · rw [ne, resultValue_map]

theorem WellRootedAt.hash (hw : WellRootedAt h coreEntity a.cls) (hr : RootCacheOk h coreEntity rt)
    (ha : IsEntityClass h coreEntity a.cls) (pkStr : K → String) (strHash : String → Int) :
    resultValue ((hash h coreEntity primaryKey pkStr strHash a).run rt) =
      some (strHash (classStr h (rootPick coreEntity (h.mro a.cls)) ++ pkStr (primaryKey a))) := by
  obtain ⟨rt', hrun, -⟩ := hw.getRootBaseClass hr ha
  rw [Model.hash, run_bind_ok hrun]; rfl

/-- `object`, `CoreObject`, `CoreDeclarative` and `CoreEntity`, then `class Base(CoreEntity)`,
`class A(Base)` and `class B(Base)`. -/
def rootedHierarchy : Hierarchy :=
  ⟨[⟨"object", "builtins", [], [0]⟩, ⟨"CoreObject", "pyrin.core.context", [0], [1, 0]⟩,
    ⟨"CoreDeclarative", "pyrin.database.model.base", [1], [2, 1, 0]⟩,
    ⟨"CoreEntity", "pyrin.database.model.base", [2], [3, 2, 1, 0]⟩,
    ⟨"Base", "app", [3], [4, 3, 2, 1, 0]⟩, ⟨"A", "app", [4], [5, 4, 3, 2, 1, 0]⟩,
    ⟨"B", "app", [4], [6, 4, 3, 2, 1, 0]⟩], by decide⟩

end Laws

end Pyrin.Database.Model
