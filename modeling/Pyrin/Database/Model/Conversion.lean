import Pyrin.Database.Model.Entity
import Pyrin.Database.Orm.Schema.Column

/-!
# Entities and dicts: the column caches, `to_dict` and `from_dict`

The rest of `CoreDeclarative`. `all_columns` and `exposed_columns` scan
`class_mapper(type(self)).iterate_properties` once per class and cache the tuple in a `DTO`
keyed by `type(self)`, held by a class attribute that a subclass may reach by inheritance.
`to_dict` reads the exposed columns, `from_dict` assigns the keyword arguments that name a
column.

Whatever the order of the calls, the caches only ever give back what the scan computes
(`cachedColumns_spec`, `runClassCalls_eq`). The scan of `exposed_columns` reads an `exposed`
attribute that `CoreColumn` does not have, so `to_dict` raises on every entity with a column
(`exposedColumnsScan_eq`). `from_dict` is its loop over the scanned columns (`fromDict_run`): it
assigns every column it is given, whatever its `allow_write`, and without
`silent_on_invalid_column` it stops at the first key that is not a column, after assigning the
keys before it (`assignColumns_strict`).

Python binds the arguments of a call before its body runs: a keyword that names a parameter
already given, `self` or the flag of `from_dict`, raises `TypeError` with nothing changed
(`bindKeywords`). `__init__` returns `self`, which `type.__call__` refuses, so constructing an
entity raises even when `from_dict` does not (`Entity.init_spec`).

`next_sequence_value` reads `__sequence_name__` along the MRO and raises when it is `None` or
empty.

The mapper is a parameter: a class's properties, inherited columns included, in the mapper's
order. `DTO` (of `pyrin.core.context`, not under src/) is taken to be the `dict` it subclasses.
-/

namespace Pyrin.Database.Model

open Pyrin.Database.Orm.Schema (CoreColumn)

/-- A property of `class_mapper(cls).iterate_properties`. -/
inductive MapperProperty where
  /-- A `ColumnProperty`; `column` is `prop.columns[0]`. -/
  | column (key : String) (column : CoreColumn)
  /-- A relationship, a synonym or any other property. -/
  | other (key : String)
  deriving DecidableEq, Repr

-- ---------------------------------------------------------------------------
-- The mapper scans
-- ---------------------------------------------------------------------------

/-- `tuple(prop.key for prop in props if isinstance(prop, ColumnProperty) and keep(prop))`. -/
def scanColumns (keep : CoreColumn → Except ModelError Bool) :
    List MapperProperty → Except ModelError (List String)
  | [] => pure []
  | .other _ :: props => scanColumns keep props
  | .column key column :: props => do
    let k ← keep column
    let rest ← scanColumns keep props
    pure (if k then key :: rest else rest)

def allColumnsScan : List MapperProperty → Except ModelError (List String) :=
  scanColumns fun _ => pure true

def exposedOf (column : CoreColumn) : Except ModelError Bool :=
  match column.getAttr "exposed" with
  | some v => pure v.isTrue
  | none => throw (.attributeError "exposed")

def exposedColumnsScan : List MapperProperty → Except ModelError (List String) :=
  scanColumns exposedOf

def columnKeys : List MapperProperty → List String
  | [] => []
  | .column key _ :: props => key :: columnKeys props
  | .other _ :: props => columnKeys props

theorem mem_columnKeys {props : List MapperProperty} {key : String} {column : CoreColumn}
    (hk : MapperProperty.column key column ∈ props) : key ∈ columnKeys props := by
  induction props with
  | nil => cases hk
  | cons p props ih =>
    rcases List.mem_cons.mp hk with rfl | hmem
    · exact List.mem_cons_self _ _
    · cases p with
      | column => exact List.mem_cons_of_mem _ (ih hmem)
      | other => exact ih hmem

theorem allColumnsScan_eq (props : List MapperProperty) :
    allColumnsScan props = .ok (columnKeys props) := by
  induction props with
  | nil => rfl
  | cons p props ih =>
    cases p with
    | column key column =>
      change (scanColumns _ props >>= fun rest => pure (key :: rest)) = _
      rw [show scanColumns _ props = _ from ih]; rfl
    | other key => exact ih

theorem exposedOf_eq (column : CoreColumn) : exposedOf column = .error (.attributeError "exposed") :=
  rfl

/-- The exposed scan of a class with a column raises: no column has an `exposed` attribute. -/
theorem exposedColumnsScan_eq (props : List MapperProperty) :
    exposedColumnsScan props =
      if columnKeys props = [] then .ok [] else .error (.attributeError "exposed") := by
  induction props with
  | nil => rfl
  | cons p props ih =>
    cases p with
    | column key column =>
      change (exposedOf column >>= _) = _
      rw [exposedOf_eq]; rfl
    | other key => exact ih

inductive CacheAttr where
  | allColumns
  | exposedColumns
  deriving DecidableEq, Repr

def CacheAttr.scan : CacheAttr → List MapperProperty → Except ModelError (List String)
  | .allColumns => allColumnsScan
  | .exposedColumns => exposedColumnsScan

def Runtime.cache (rt : Runtime) : CacheAttr → ColumnCache
  | .allColumns => rt.allColumns
  | .exposedColumns => rt.exposedColumns

def Runtime.setCache (rt : Runtime) : CacheAttr → ColumnCache → Runtime
  | .allColumns, cache => { rt with allColumns := cache }
  | .exposedColumns, cache => { rt with exposedColumns := cache }

@[simp] theorem Runtime.cache_setCache (rt : Runtime) (a b : CacheAttr) (cache : ColumnCache) :
    (rt.setCache a cache).cache b = if a = b then cache else rt.cache b := by
  cases a <;> cases b <;> rfl

@[simp] theorem Runtime.rootBaseClass_setCache (rt : Runtime) (a : CacheAttr) (cache : ColumnCache) :
    (rt.setCache a cache).rootBaseClass = rt.rootBaseClass := by
  cases a <;> rfl

-- ---------------------------------------------------------------------------
-- The caches
-- ---------------------------------------------------------------------------

namespace ColumnCache

variable (h : Hierarchy)

/-- `getattr(self, attr, None)`, then `.get(type(self), None)` on the `DTO` found. -/
def get (cache : ColumnCache) (c : ClassId) : Option (List String) :=
  (h.lookupAttr cache.attr c).bind fun i => (cache.dtos.getD i .empty).get? c

/-- `if getattr(self, attr, None) is None: self.__class__.attr = DTO()`. -/
def ensure (cache : ColumnCache) (c : ClassId) : ColumnCache :=
  if h.lookupAttr cache.attr c = none then ⟨cache.attr.set c cache.dtos.length, cache.dtos ++ [.empty]⟩
  else cache

/-- `_set_all_columns` and `_set_exposed_columns`: a `DTO` is made reachable from `c`, then
`self.__class__.attr[type(self)] = columns` writes into the one `c` reaches. -/
def set (cache : ColumnCache) (c : ClassId) (columns : List String) : ColumnCache :=
  let cache := ensure h cache c
  match h.lookupAttr cache.attr c with
  | some i => { cache with dtos := cache.dtos.set i ((cache.dtos.getD i .empty).set c columns) }
  | none => cache

/-- Every class attribute points into the heap of `DTO`s, and every entry of every `DTO` holds
what `scan` gives for the class it is keyed by. -/
structure Ok (scan : ClassId → Except ModelError (List String)) (cache : ColumnCache) : Prop where
  attr_lt : ∀ d i, cache.attr.get? d = some i → i < cache.dtos.length
  entries : ∀ D ∈ cache.dtos, ∀ K columns, D.get? K = some columns → scan K = .ok columns

variable {h} {scan : ClassId → Except ModelError (List String)} {cache : ColumnCache}
  {c : ClassId}

theorem Ok.empty : Ok scan ColumnCache.empty :=
  ⟨fun _ _ hd => by simp [ColumnCache.empty] at hd, fun _ hD => by cases hD⟩

theorem Ok.lookupAttr_lt (hok : Ok scan cache) {i : Nat} (hi : h.lookupAttr cache.attr c = some i) :
    i < cache.dtos.length := by
  obtain ⟨d, -, hd⟩ := List.exists_of_findSome?_eq_some hi
  exact hok.attr_lt d i hd

theorem Ok.ensure (hok : Ok scan cache) : Ok scan (ColumnCache.ensure h cache c) := by
  unfold ColumnCache.ensure
  split
  · refine ⟨fun d i hd => ?_, fun D hD K columns hK => ?_⟩
    · simp only [Dict.get?_set, List.length_append, List.length_singleton] at hd ⊢
      split at hd
      · cases hd; omega
      · exact Nat.lt_succ_of_lt (hok.attr_lt d i hd)
    · rcases List.mem_append.mp hD with hD | hD
      · exact hok.entries D hD K columns hK
      · rw [List.mem_singleton.mp hD] at hK; cases hK
  · exact hok

theorem Ok.lookupAttr_ensure (hok : Ok scan cache) (hc : c < h.classes.length) :
    ∃ i, h.lookupAttr (ColumnCache.ensure h cache c).attr c = some i ∧
      i < (ColumnCache.ensure h cache c).dtos.length := by
  unfold ColumnCache.ensure
  split
  · rename_i hn
    exact ⟨_, h.lookupAttr_set_self _ hc hn, by simp⟩
  · rename_i hn
    obtain ⟨i, hi⟩ := Option.ne_none_iff_exists'.mp hn
    exact ⟨i, hi, hok.lookupAttr_lt hi⟩

theorem Ok.get_set (hok : Ok scan cache) (hc : c < h.classes.length) (columns : List String) :
    (cache.set h c columns).get h c = some columns := by
  obtain ⟨i, hi, hlt⟩ := hok.lookupAttr_ensure hc
  simp only [ColumnCache.set, ColumnCache.get, hi, Option.some_bind, List.getD_eq_getElem?_getD,
    List.getElem?_set_self hlt, Option.getD_some, Dict.get?_set, if_true]

theorem Ok.reached (hok : Ok scan cache) {i : Nat} (hi : h.lookupAttr cache.attr c = some i)
    {K : ClassId} {columns : List String} (hK : (cache.dtos.getD i .empty).get? K = some columns) :
    scan K = .ok columns := by
  have hlt := hok.lookupAttr_lt hi
  rw [List.getD_eq_getElem?_getD, List.getElem?_eq_getElem hlt, Option.getD_some] at hK
  exact hok.entries _ (List.getElem_mem hlt) K columns hK

theorem Ok.get (hok : Ok scan cache) {columns : List String} (hg : cache.get h c = some columns) :
    scan c = .ok columns := by
  obtain ⟨i, hi, hD⟩ := Option.bind_eq_some.mp hg
  exact hok.reached hi hD

theorem Ok.set (hok : Ok scan cache) {columns : List String} (hs : scan c = .ok columns) :
    Ok scan (cache.set h c columns) := by
  have hok' : Ok scan (ColumnCache.ensure h cache c) := hok.ensure
  dsimp only [ColumnCache.set]
  split
  · rename_i i hi
    refine ⟨fun d j hd => by simpa using hok'.attr_lt d j hd, fun D hD K cols hK => ?_⟩
    rcases List.mem_or_eq_of_mem_set hD with hD | rfl
    · exact hok'.entries D hD K cols hK
    · rw [Dict.get?_set] at hK
      split at hK
      · rename_i hKc; cases hK; rw [hKc]; exact hs
      · exact hok'.reached hi hK
  · exact hok'

end ColumnCache

section Columns

variable (h : Hierarchy) (mapper : ClassId → List MapperProperty)

def getColumns (attr : CacheAttr) (rt : Runtime) (c : ClassId) : Option (List String) :=
  (rt.cache attr).get h c

def setColumns (attr : CacheAttr) (c : ClassId) (columns : List String) (rt : Runtime) : Runtime :=
  rt.setCache attr ((rt.cache attr).set h c columns)

/-- `all_columns()` and `exposed_columns()` on an instance of `c`: scan unless cached, then
read the cache again. -/
def cachedColumns (attr : CacheAttr) (c : ClassId) :
    EStateM ModelError Runtime (Option (List String)) := do
  let rt ← get
  if getColumns h attr rt c = none then
    match attr.scan (mapper c) with
    | .ok columns => set (setColumns h attr c columns rt)
    | .error e => throw e
  return getColumns h attr (← get) c

def getAllColumns : Runtime → ClassId → Option (List String) := getColumns h .allColumns

def setAllColumns : ClassId → List String → Runtime → Runtime := setColumns h .allColumns

def allColumns : ClassId → EStateM ModelError Runtime (Option (List String)) :=
  cachedColumns h mapper .allColumns

def getExposedColumns : Runtime → ClassId → Option (List String) := getColumns h .exposedColumns

def setExposedColumns : ClassId → List String → Runtime → Runtime := setColumns h .exposedColumns

def exposedColumns : ClassId → EStateM ModelError Runtime (Option (List String)) :=
  cachedColumns h mapper .exposedColumns

def ColumnsOk (rt : Runtime) : Prop :=
  ∀ attr, ColumnCache.Ok (fun K => attr.scan (mapper K)) (rt.cache attr)

theorem columnsOk_init : ColumnsOk mapper Runtime.init := fun attr => by
  cases attr <;> exact ColumnCache.Ok.empty

variable {h mapper} {rt : Runtime} {attr : CacheAttr} {c : ClassId}

theorem ColumnsOk.setColumns (hr : ColumnsOk mapper rt) {columns : List String}
    (hs : attr.scan (mapper c) = .ok columns) : ColumnsOk mapper (setColumns h attr c columns rt) := by
  intro b
  simp only [Model.setColumns, Runtime.cache_setCache]
  split
  · subst b; exact (hr attr).set hs
  · exact hr b

theorem cachedColumns_run (rt : Runtime) :
    (cachedColumns h mapper attr c).run rt =
      if getColumns h attr rt c = none then
        match attr.scan (mapper c) with
        | .ok columns =>
          .ok (getColumns h attr (setColumns h attr c columns rt) c) (setColumns h attr c columns rt)
        | .error e => .error e rt
      else .ok (getColumns h attr rt c) rt := by
  simp only [cachedColumns, run_get_bind]
  split
  · split <;> rfl
  · rfl

/-- A call of `all_columns()` or `exposed_columns()` returns what the scan computes, or raises
what it raises and changes nothing, and keeps the caches right; the roots are untouched. -/
theorem cachedColumns_spec (hr : ColumnsOk mapper rt) (hc : c < h.classes.length)
    (attr : CacheAttr) :
    ∃ rt', ColumnsOk mapper rt' ∧ rt'.rootBaseClass = rt.rootBaseClass ∧
      (cachedColumns h mapper attr c).run rt = match attr.scan (mapper c) with
        | .ok columns => .ok (some columns) rt'
        | .error e => .error e rt := by
  rw [cachedColumns_run]
  cases hg : getColumns h attr rt c with
  | some columns =>
    rw [(hr attr).get hg, if_neg (Option.some_ne_none columns)]
    exact ⟨rt, hr, rfl, rfl⟩
  | none =>
    rw [if_pos rfl]
    cases hs : attr.scan (mapper c) with
    | error e => exact ⟨rt, hr, rfl, rfl⟩
    | ok columns =>
      have hget : getColumns h attr (setColumns h attr c columns rt) c = some columns := by
        simpa [getColumns, setColumns] using (hr attr).get_set hc columns
      refine ⟨setColumns h attr c columns rt, hr.setColumns hs, by simp [setColumns], ?_⟩
      simp only [hget]

theorem ColumnsOk.getRootBaseClass (hr : ColumnsOk mapper rt) (coreEntity c : ClassId) :
    ColumnsOk mapper (resultState ((getRootBaseClass h coreEntity c).run rt)) := by
  simp only [Model.getRootBaseClass, run_get_bind]
  split
  · exact hr
  · split
    · exact hr
    · intro attr; cases attr <;> exact hr _

variable (h coreEntity) in
/-- A class-level call on an instance of an entity class: `_get_root_base_class()`,
`all_columns()` or `exposed_columns()`. -/
inductive ClassCall where
  | rootBaseClass (c : EntityClass h coreEntity)
  | columns (attr : CacheAttr) (c : EntityClass h coreEntity)

variable (h mapper) in
def runClassCalls (coreEntity : ClassId) :
    List (ClassCall h coreEntity) → Runtime → List (Except ModelError (Option (List String)))
  | [], _ => []
  | .rootBaseClass c :: calls, rt =>
    runClassCalls coreEntity calls (resultState ((getRootBaseClass h coreEntity c.1).run rt))
  | .columns attr c :: calls, rt => match (cachedColumns h mapper attr c.1).run rt with
    | .ok columns rt' => .ok columns :: runClassCalls coreEntity calls rt'
    | .error e rt' => .error e :: runClassCalls coreEntity calls rt'

variable (mapper) in
def ClassCall.scanned {coreEntity : ClassId} :
    ClassCall h coreEntity → Option (Except ModelError (Option (List String)))
  | .rootBaseClass _ => none
  | .columns attr c => some ((attr.scan (mapper c.1)).map some)

theorem runClassCalls_eq (coreEntity : ClassId) (calls : List (ClassCall h coreEntity))
    (hr : ColumnsOk mapper rt) :
    runClassCalls h mapper coreEntity calls rt = calls.filterMap (ClassCall.scanned mapper) := by
  induction calls generalizing rt with
  | nil => rfl
  | cons call calls ih =>
    cases call with
    | rootBaseClass c => exact ih (hr.getRootBaseClass coreEntity c.1)
    | columns attr c =>
      obtain ⟨rt', hr', -, hrun⟩ := cachedColumns_spec hr (h.lt_of_mem_mro c.2.1) attr
      simp only [runClassCalls, hrun, List.filterMap_cons, ClassCall.scanned]
      cases attr.scan (mapper c.1) <;> simp only [ih hr, ih hr'] <;> rfl

/-- Whatever the order of `all_columns()` and `exposed_columns()` calls on instances of the
classes of a hierarchy, and whatever `_get_root_base_class()` calls come between them, each
returns what the uncached scan computes for its own class. -/
theorem columns_calls_uncached (coreEntity : ClassId) (calls : List (ClassCall h coreEntity)) :
    runClassCalls h mapper coreEntity calls Runtime.init =
      calls.filterMap (ClassCall.scanned mapper) :=
  runClassCalls_eq coreEntity calls (columnsOk_init mapper)

end Columns

-- ---------------------------------------------------------------------------
-- `to_dict` and `from_dict`
-- ---------------------------------------------------------------------------

/-- `getattr(self, key)`: a mapped column never assigned is `None`. -/
def Entity.getAttr (e : Entity) (key : String) : PyValue := e.values.get key PyValue.none

def Entity.setAttr (e : Entity) (key : String) (value : PyValue) : Entity :=
  { e with values := e.values.set key value }

def Entity.assignAll (e : Entity) (items : List (String × PyValue)) : Entity :=
  items.foldl (fun e item => e.setAttr item.1 item.2) e

def onClasses {α : Type} (x : EStateM ModelError Runtime α) :
    EStateM ModelError (Runtime × Entity) α := fun s =>
  match x s.1 with
  | .ok a rt => .ok a (rt, s.2)
  | .error err rt => .error err (rt, s.2)

def onSelf {α : Type} (x : EStateM ModelError Entity α) :
    EStateM ModelError (Runtime × Entity) α := fun s =>
  match x s.2 with
  | .ok a e => .ok a (s.1, e)
  | .error err e => .error err (s.1, e)

def columnNotExistedMessage (entity column : String) : String :=
  "Entity [" ++ entity ++ "] does not have a column named [" ++ column ++ "]."

/-- The loop of `from_dict` over `kwargs.items()`. -/
def assignColumns (entity : String) (allColumns : List String) (silent : PyValue) :
    List (String × PyValue) → EStateM ModelError Entity Unit
  | [] => pure ()
  | (key, value) :: items => do
    if key ∈ allColumns then modify (·.setAttr key value)
    else if silent = PyValue.ofBool false then
      throw (.columnNotExisted (columnNotExistedMessage entity key))
    assignColumns entity allColumns silent items

/-- Python's `TypeError` for a keyword that names a parameter already given; Python 3.10 and
later put the class name before the function's. -/
def multipleValues (function argument : String) : ModelError :=
  .typeError (function ++ "() got multiple values for argument \x27" ++ argument ++ "\x27")

/-- Python binding `**kwargs` to a function whose parameters `given` are already bound by
position: the first keyword, in order, that names one of them raises. -/
def bindKeywords {σ : Type} (function : String) (given : List String) (kwargs : Kwargs) :
    EStateM ModelError σ Unit :=
  match kwargs.keys.find? (· ∈ given) with
  | some key => throw (multipleValues function key)
  | none => pure ()

/-- The parameters of `from_dict` given by position in `self.from_dict(*args, **kwargs)`. -/
def fromDictGiven : Option PyValue → List String
  | some _ => ["self", "silent_on_invalid_column"]
  | none => ["self"]

section Conversion

variable (h : Hierarchy) (mapper : ClassId → List MapperProperty)

def className (c : ClassId) : String := (h.classes[c]?.map (·.name)).getD ""

def toDict (self : Entity) : EStateM ModelError Runtime (Dict String PyValue) := do
  match ← exposedColumns h mapper self.cls with
  | some columns => pure (columns.foldl (fun result col => result.set col (self.getAttr col)) .empty)
  | none => throw (.typeError "\x27NoneType\x27 object is not iterable")

/-- The body of `from_dict`, its parameters bound to `silent` and `kwargs`. -/
def fromDict (silent : PyValue) (kwargs : Kwargs) : EStateM ModelError (Runtime × Entity) Unit := do
  let self := (← get).2
  match ← onClasses (allColumns h mapper self.cls) with
  | some columns => onSelf (assignColumns (className h self.cls) columns silent kwargs.entries)
  | none =>
    if kwargs.entries = [] then pure ()
    else throw (.typeError "argument of type \x27NoneType\x27 is not iterable")

/-- `self.from_dict(*args, **kwargs)`, `args` holding `silent_on_invalid_column` or nothing:
Python binds the arguments, then the body runs. -/
def callFromDict (silent : Option PyValue) (kwargs : Kwargs) :
    EStateM ModelError (Runtime × Entity) Unit := do
  bindKeywords "from_dict" (fromDictGiven silent) kwargs
  let (silent, kwargs) := match silent with
    | some silent => (silent, kwargs)
    | none => kwargs.pop "silent_on_invalid_column" (PyValue.ofBool true)
  fromDict h mapper silent kwargs

/-- `self.update(**kwargs)`; `save()`, which adds the entity to the session, is not modelled. -/
def update (kwargs : Kwargs) : EStateM ModelError (Runtime × Entity) Unit := do
  bindKeywords "update" ["self"] kwargs
  callFromDict h mapper none kwargs

/-- `type.__call__` raises when `__init__` returns anything but `None`, naming the class of what
it returned. -/
def initReturnedNotNone (returned : String) : ModelError :=
  .typeError ("__init__() should return None, not \x27" ++ returned ++ "\x27")

/-- `cls(**kwargs)` for an entity class `c`. SQLAlchemy's `__init__`, of the same signature as
`CoreDeclarative.__init__`, binds the arguments and passes on what it returns: after
`from_dict(False, **kwargs)` and the store's `add`, not under src/, that is `self`, an instance
of `c`, so `type.__call__` raises. -/
def Entity.init (c : ClassId) (kwargs : Kwargs) : EStateM ModelError Runtime Entity := fun rt =>
  match (do bindKeywords "__init__" ["self"] kwargs
            callFromDict h mapper (some (PyValue.ofBool false)) kwargs).run (rt, ⟨c, .empty⟩) with
  | .ok _ s => .error (initReturnedNotNone (className h c)) s.1
  | .error err s => .error err s.1

inductive SequenceError where
  | sequenceHasNotSet (message : String)
  deriving DecidableEq, Repr

/-- `self.next_sequence_value()`. `__sequence_name__` is the value the nearest class of the MRO
sets, the `None` of `CoreDeclarative` when no entity class sets it; `getNextValue` is
`sequence_services.get_next_value`, not under src/. -/
def nextSequenceValue (sequenceName : Dict ClassId (Option String)) (getNextValue : String → Int)
    (self : Entity) : Except SequenceError Int :=
  let name := (h.lookupAttr sequenceName self.cls).join
  if name ∈ [none, some ""] then
    throw (.sequenceHasNotSet ("No primary key sequence has been set for entity ["
      ++ className h self.cls ++ "]."))
  else pure (getNextValue (name.getD ""))

end Conversion

-- ---------------------------------------------------------------------------
-- An entity class to run the conversions on
-- ---------------------------------------------------------------------------

/-- `object`, `CoreObject`, `CoreDeclarative` and `CoreEntity`, then `class User(CoreEntity)`. -/
def userHierarchy : Hierarchy :=
  ⟨[⟨"object", "builtins", [], [0]⟩, ⟨"CoreObject", "pyrin.core.context", [0], [1, 0]⟩,
    ⟨"CoreDeclarative", "pyrin.database.model.base", [1], [2, 1, 0]⟩,
    ⟨"CoreEntity", "pyrin.database.model.base", [2], [3, 2, 1, 0]⟩,
    ⟨"User", "app", [3], [4, 3, 2, 1, 0]⟩], by decide⟩

def nameColumn : CoreColumn :=
  { cls := .string, name := some "name", type := some .unicode,
    primaryKey := PyValue.ofBool false, allowRead := PyValue.ofBool true,
    allowWrite := PyValue.ofBool true, minValue := PyValue.none, maxValue := PyValue.none,
    checkIn := PyValue.none, checkNotIn := PyValue.none, validated := PyValue.ofBool false }

def passwordColumn : CoreColumn :=
  { cls := .hidden, name := some "password", type := some .unicode,
    primaryKey := PyValue.ofBool false, allowRead := PyValue.ofBool false,
    allowWrite := PyValue.ofBool false, minValue := PyValue.none, maxValue := PyValue.none,
    checkIn := PyValue.none, checkNotIn := PyValue.none, validated := PyValue.ofBool false }

/-- `User`'s mapper: the columns `name` and `password`, then a relationship `roles`. -/
def userMapper : ClassId → List MapperProperty
  | 4 => [.column "name" nameColumn, .column "password" passwordColumn, .other "roles"]
  | _ => []

-- ---------------------------------------------------------------------------
-- What the conversions do
-- ---------------------------------------------------------------------------

section Laws

variable {h : Hierarchy} {mapper : ClassId → List MapperProperty} {rt : Runtime} {e : Entity}

theorem assignColumns_silent {entity : String} {allColumns : List String} {silent : PyValue}
    (hs : silent ≠ PyValue.ofBool false) (items : List (String × PyValue)) (e : Entity) :
    (assignColumns entity allColumns silent items).run e =
      .ok () (e.assignAll (items.filter fun item => item.1 ∈ allColumns)) := by
  induction items generalizing e with
  | nil => rfl
  | cons item items ih =>
    obtain ⟨key, value⟩ := item
    by_cases hk : key ∈ allColumns
    · simp only [assignColumns, hk, if_true, List.filter_cons, decide_eq_true hk]
      exact ih _
    · simp only [assignColumns, hk, if_false, hs, List.filter_cons, decide_eq_false hk]
      exact ih _

theorem assignColumns_strict {entity : String} {allColumns : List String}
    (items : List (String × PyValue)) (e : Entity) :
    (assignColumns entity allColumns (PyValue.ofBool false) items).run e =
      match items.dropWhile fun item => item.1 ∈ allColumns with
      | [] => .ok () (e.assignAll (items.takeWhile fun item => item.1 ∈ allColumns))
      | (key, _) :: _ => .error (.columnNotExisted (columnNotExistedMessage entity key))
          (e.assignAll (items.takeWhile fun item => item.1 ∈ allColumns)) := by
  induction items generalizing e with
  | nil => rfl
  | cons item items ih =>
    obtain ⟨key, value⟩ := item
    by_cases hk : key ∈ allColumns
    · simp only [assignColumns, hk, if_true, List.dropWhile_cons, List.takeWhile_cons,
        decide_eq_true hk]
      exact ih _
    · simp only [assignColumns, hk, if_false, List.dropWhile_cons, List.takeWhile_cons,
        decide_eq_false hk]
      rfl

theorem run_onClasses {α : Type} (x : EStateM ModelError Runtime α) (s : Runtime × Entity) :
    (onClasses x).run s = match x.run s.1 with
      | .ok a rt => .ok a (rt, s.2)
      | .error err rt => .error err (rt, s.2) := rfl

theorem run_onSelf {α : Type} (x : EStateM ModelError Entity α) (s : Runtime × Entity) :
    (onSelf x).run s = match x.run s.2 with
      | .ok a e => .ok a (s.1, e)
      | .error err e => .error err (s.1, e) := rfl

theorem fromDict_run (hr : ColumnsOk mapper rt) (hc : e.cls < h.classes.length) (silent : PyValue)
    (kwargs : Kwargs) :
    ∃ rt', ColumnsOk mapper rt' ∧ (fromDict h mapper silent kwargs).run (rt, e) =
      (onSelf (assignColumns (className h e.cls) (columnKeys (mapper e.cls)) silent
        kwargs.entries)).run (rt', e) := by
  obtain ⟨rt', hr', -, hrun⟩ := cachedColumns_spec hr hc .allColumns
  rw [show CacheAttr.scan .allColumns (mapper e.cls) = _ from allColumnsScan_eq _] at hrun
  refine ⟨rt', hr', ?_⟩
  have hcls : (onClasses (allColumns h mapper e.cls)).run (rt, e) =
      .ok (some (columnKeys (mapper e.cls))) (rt', e) := by
    rw [run_onClasses]; simp only [allColumns, hrun]
  simp only [fromDict, run_get_bind]
  rw [run_bind_ok hcls]

/-- `to_dict` raises `AttributeError` on every entity whose class maps a column, and gives an
empty dict otherwise. -/
theorem toDict_attributeError (hr : ColumnsOk mapper rt) (hc : e.cls < h.classes.length) :
    ∃ rt', (toDict h mapper e).run rt =
      if columnKeys (mapper e.cls) = [] then .ok .empty rt'
      else .error (.attributeError "exposed") rt := by
  obtain ⟨rt', -, -, hrun⟩ := cachedColumns_spec hr hc .exposedColumns
  rw [show CacheAttr.scan .exposedColumns (mapper e.cls) = _ from exposedColumnsScan_eq _] at hrun
  refine ⟨rt', ?_⟩
  simp only [toDict, exposedColumns]
  split
  · rename_i hnil
    rw [if_pos hnil] at hrun
    rw [run_bind_ok hrun]; rfl
  · rename_i hnil
    rw [if_neg hnil] at hrun
    rw [run_bind_error hrun]

theorem toDict_user_raises :
    (toDict userHierarchy userMapper ⟨4, .empty⟩).run Runtime.init =
      .error (.attributeError "exposed") Runtime.init := by
  obtain ⟨rt', hrun⟩ := @toDict_attributeError userHierarchy userMapper Runtime.init ⟨4, .empty⟩
    (columnsOk_init userMapper) (by decide)
  rw [hrun, if_neg (by decide)]

/-- `from_dict` assigns every column it is given, whatever the column's `allow_write`. -/
theorem fromDict_writes_column (hr : ColumnsOk mapper rt) (hc : e.cls < h.classes.length)
    {key : String} {column : CoreColumn} (hk : MapperProperty.column key column ∈ mapper e.cls)
    (silent value : PyValue) :
    ∃ rt', (fromDict h mapper silent (Dict.empty.set key value)).run (rt, e) =
      .ok () (rt', e.setAttr key value) := by
  obtain ⟨rt', -, hrun⟩ := fromDict_run hr hc silent (Dict.empty.set key value)
  have hloop : (assignColumns (className h e.cls) (columnKeys (mapper e.cls)) silent
      [(key, value)]).run e = .ok () (e.setAttr key value) := by
    simp only [assignColumns, if_pos (mem_columnKeys hk)]; rfl
  exact ⟨rt', by rw [hrun, run_onSelf, show (Dict.empty.set key value).entries = [(key, value)]
    from rfl, hloop]⟩

theorem fromDict_writes_password :
    Orm.Schema.HiddenColumn.init [] { name := some "password", type := some .unicode } =
      .ok passwordColumn ∧
      ∃ rt', (fromDict userHierarchy userMapper (PyValue.ofBool false)
        (Dict.empty.set "password" (.scalar (.str "secret")))).run (Runtime.init, ⟨4, .empty⟩) =
        .ok () (rt', (⟨4, .empty⟩ : Entity).setAttr "password" (.scalar (.str "secret"))) :=
  ⟨rfl, @fromDict_writes_column userHierarchy userMapper Runtime.init ⟨4, .empty⟩
    (columnsOk_init userMapper) (by decide) "password" passwordColumn (by decide) _ _⟩

theorem fromDict_run_strict (hr : ColumnsOk mapper rt) (hc : e.cls < h.classes.length)
    (kwargs : Kwargs) :
    ∃ rt', ColumnsOk mapper rt' ∧
      (fromDict h mapper (PyValue.ofBool false) kwargs).run (rt, e) =
        match kwargs.entries.dropWhile fun item => item.1 ∈ columnKeys (mapper e.cls) with
        | [] => .ok () (rt', e.assignAll
            (kwargs.entries.takeWhile fun item => item.1 ∈ columnKeys (mapper e.cls)))
        | (key, _) :: _ =>
          .error (.columnNotExisted (columnNotExistedMessage (className h e.cls) key))
            (rt', e.assignAll
              (kwargs.entries.takeWhile fun item => item.1 ∈ columnKeys (mapper e.cls))) := by
  obtain ⟨rt', hr', hrun⟩ := fromDict_run hr hc (PyValue.ofBool false) kwargs
  refine ⟨rt', hr', ?_⟩
  rw [hrun, run_onSelf, assignColumns_strict]
  generalize List.dropWhile (fun item => decide (item.1 ∈ columnKeys (mapper e.cls)))
    kwargs.entries = rest
  rcases rest with _ | ⟨⟨key, _⟩, _⟩ <;> rfl

-- ---------------------------------------------------------------------------
-- Binding the arguments
-- ---------------------------------------------------------------------------

theorem bindKeywords_run {σ : Type} (function : String) (given : List String) (kwargs : Kwargs)
    (s : σ) :
    (bindKeywords function given kwargs).run s = match kwargs.keys.find? (· ∈ given) with
      | some key => .error (multipleValues function key) s
      | none => .ok () s := by
  unfold bindKeywords
  cases kwargs.keys.find? (· ∈ given) <;> rfl

theorem find?_mem_singleton (l : List String) (k : String) :
    l.find? (· ∈ [k]) = if k ∈ l then some k else none := by
  split
  · rename_i hk
    have hs : (l.find? (· ∈ [k])).isSome := List.find?_isSome.mpr ⟨k, hk, by simp⟩
    obtain ⟨x, hx⟩ := Option.isSome_iff_exists.mp hs
    have hxk : x = k := by simpa using List.find?_some hx
    rw [hx, hxk]
  · rename_i hk
    exact List.find?_eq_none.mpr fun x hx hxk => hk (by simpa using (List.mem_singleton.mp
      (of_decide_eq_true hxk)) ▸ hx)

theorem find?_mem_pair {l : List String} {k₁ : String} (h₁ : k₁ ∉ l) (k₂ : String) :
    l.find? (· ∈ [k₁, k₂]) = l.find? (· ∈ [k₂]) := by
  induction l with
  | nil => rfl
  | cons x l ih =>
    have hx : x ≠ k₁ := fun hx => h₁ (hx ▸ List.mem_cons_self x l)
    rw [List.find?_cons, List.find?_cons, ih fun h => h₁ (List.mem_cons_of_mem x h)]
    simp [hx]

theorem callFromDict_some_run (silent : PyValue) (kwargs : Kwargs) (s : Runtime × Entity) :
    (callFromDict h mapper (some silent) kwargs).run s =
      match kwargs.keys.find? (· ∈ ["self", "silent_on_invalid_column"]) with
      | some key => .error (multipleValues "from_dict" key) s
      | none => (fromDict h mapper silent kwargs).run s := by
  rw [callFromDict, run_bind, bindKeywords_run]
  dsimp only [fromDictGiven]
  cases kwargs.keys.find? (· ∈ ["self", "silent_on_invalid_column"]) <;> rfl

theorem update_run (kwargs : Kwargs) (s : Runtime × Entity) :
    (update h mapper kwargs).run s =
      if "self" ∈ kwargs.keys then .error (multipleValues "update" "self") s
      else (fromDict h mapper (kwargs.pop "silent_on_invalid_column" (PyValue.ofBool true)).1
        (kwargs.pop "silent_on_invalid_column" (PyValue.ofBool true)).2).run s := by
  rw [update, run_bind, bindKeywords_run, find?_mem_singleton]
  by_cases hself : "self" ∈ kwargs.keys
  · simp only [hself, if_true]
  · simp only [hself, if_false]
    unfold callFromDict
    rw [run_bind, bindKeywords_run]
    dsimp only [fromDictGiven]
    rw [find?_mem_singleton, if_neg hself]

theorem Entity.init_run (c : ClassId) (kwargs : Kwargs) (rt : Runtime) :
    (Entity.init h mapper c kwargs).run rt =
      if "self" ∈ kwargs.keys then .error (multipleValues "__init__" "self") rt
      else if "silent_on_invalid_column" ∈ kwargs.keys then
        .error (multipleValues "from_dict" "silent_on_invalid_column") rt
      else match (fromDict h mapper (PyValue.ofBool false) kwargs).run (rt, ⟨c, .empty⟩) with
        | .ok _ s => .error (initReturnedNotNone (className h c)) s.1
        | .error err s => .error err s.1 := by
  show (match (bindKeywords "__init__" ["self"] kwargs >>= fun _ =>
    callFromDict h mapper (some (PyValue.ofBool false)) kwargs).run (rt, ⟨c, .empty⟩) with
    | .ok _ s => EStateM.Result.error (initReturnedNotNone (className h c)) s.1
    | .error err s => EStateM.Result.error err s.1) = _
  rw [run_bind, bindKeywords_run, find?_mem_singleton]
  by_cases hself : "self" ∈ kwargs.keys
  · simp only [hself, if_true]
  · simp only [hself, if_false]
    rw [callFromDict_some_run, find?_mem_pair hself, find?_mem_singleton]
    by_cases hs : "silent_on_invalid_column" ∈ kwargs.keys
    · simp only [hs, if_true]
    · simp only [hs, if_false]

-- ---------------------------------------------------------------------------
-- What `from_dict`, `update` and construction do
-- ---------------------------------------------------------------------------

/-- `e.from_dict(False, **kwargs)` raises `TypeError` and changes nothing when a keyword is
`self` or `silent_on_invalid_column`; otherwise it raises iff a key is not a column, naming the
first one in the order of `kwargs`, and either way exactly the keys before it have been
assigned. -/
theorem fromDict_strict (hr : ColumnsOk mapper rt) (hc : e.cls < h.classes.length)
    (kwargs : Kwargs) :
    ∃ rt', ColumnsOk mapper rt' ∧
      (callFromDict h mapper (some (PyValue.ofBool false)) kwargs).run (rt, e) =
        match kwargs.keys.find? (· ∈ ["self", "silent_on_invalid_column"]) with
        | some key => .error (multipleValues "from_dict" key) (rt, e)
        | none => match kwargs.entries.dropWhile fun item => item.1 ∈ columnKeys (mapper e.cls) with
          | [] => .ok () (rt', e.assignAll
              (kwargs.entries.takeWhile fun item => item.1 ∈ columnKeys (mapper e.cls)))
          | (key, _) :: _ =>
            .error (.columnNotExisted (columnNotExistedMessage (className h e.cls) key))
              (rt', e.assignAll
                (kwargs.entries.takeWhile fun item => item.1 ∈ columnKeys (mapper e.cls))) := by
  obtain ⟨rt', hr', hrun⟩ := fromDict_run_strict hr hc kwargs
  exact ⟨rt', hr', by rw [callFromDict_some_run, hrun]⟩

theorem fromDict_strict_user :
    ∃ rt', ColumnsOk userMapper rt' ∧ (callFromDict userHierarchy userMapper
      (some (PyValue.ofBool false))
      ((Dict.empty.set "name" (.scalar (.str "ann"))).set "password" (.scalar (.str "x")))).run
        (Runtime.init, ⟨4, .empty⟩) =
      .ok () (rt', ((⟨4, .empty⟩ : Entity).setAttr "name" (.scalar (.str "ann"))).setAttr
        "password" (.scalar (.str "x"))) := by
  obtain ⟨rt', hr', hrun⟩ := @fromDict_strict userHierarchy userMapper Runtime.init ⟨4, .empty⟩
    (columnsOk_init userMapper) (by decide)
    ((Dict.empty.set "name" (.scalar (.str "ann"))).set "password" (.scalar (.str "x")))
  exact ⟨rt', hr', hrun.trans rfl⟩

/-- A strict `from_dict` that raises has assigned the columns named before the bad key. -/
theorem fromDict_raises_after_assigning :
    ∃ rt, (callFromDict userHierarchy userMapper (some (PyValue.ofBool false))
      ((Dict.empty.set "name" (.scalar (.str "ann"))).set "nickname" (.scalar (.str "a")))).run
        (Runtime.init, ⟨4, .empty⟩) =
      .error (.columnNotExisted "Entity [User] does not have a column named [nickname].")
        (rt, (⟨4, .empty⟩ : Entity).setAttr "name" (.scalar (.str "ann"))) :=
  ⟨_, rfl⟩

/-- With `silent_on_invalid_column` anything but `False`, the body of `from_dict` never raises
and assigns the keys that name a column. -/
theorem fromDict_silent (hr : ColumnsOk mapper rt) (hc : e.cls < h.classes.length)
    {silent : PyValue} (hs : silent ≠ PyValue.ofBool false) (kwargs : Kwargs) :
    ∃ rt', ColumnsOk mapper rt' ∧ (fromDict h mapper silent kwargs).run (rt, e) =
      .ok () (rt', e.assignAll
        (kwargs.entries.filter fun item => item.1 ∈ columnKeys (mapper e.cls))) := by
  obtain ⟨rt', hr', hrun⟩ := fromDict_run hr hc silent kwargs
  exact ⟨rt', hr', by rw [hrun, run_onSelf, assignColumns_silent hs]⟩

/-- `update` without `silent_on_invalid_column` raises `TypeError`, changing nothing, for a `self`
keyword; otherwise it never raises and assigns the keywords that name a column, whatever their
`allow_write`. -/
theorem update_spec (hr : ColumnsOk mapper rt) (hc : e.cls < h.classes.length) (kwargs : Kwargs)
    (hk : "silent_on_invalid_column" ∉ kwargs.keys) :
    ∃ rt', ColumnsOk mapper rt' ∧ (update h mapper kwargs).run (rt, e) =
      if "self" ∈ kwargs.keys then .error (multipleValues "update" "self") (rt, e)
      else .ok () (rt', e.assignAll
        (kwargs.entries.filter fun item => item.1 ∈ columnKeys (mapper e.cls))) := by
  have hnone : kwargs.get? "silent_on_invalid_column" = none := (Dict.get?_eq_none _ _).mpr hk
  have hs : (kwargs.pop "silent_on_invalid_column" (PyValue.ofBool true)).1 ≠ PyValue.ofBool false := by
    rw [Dict.pop_fst, hnone]; decide
  have hentries : (kwargs.pop "silent_on_invalid_column" (PyValue.ofBool true)).2.entries =
      kwargs.entries :=
    List.filter_eq_self.mpr fun item hitem => decide_eq_true fun hkey =>
      hk (hkey ▸ List.mem_map_of_mem Prod.fst hitem)
  obtain ⟨rt', hr', hrun⟩ := fromDict_silent hr hc hs
    (kwargs.pop "silent_on_invalid_column" (PyValue.ofBool true)).2
  rw [hentries] at hrun
  exact ⟨rt', hr', by rw [update_run, hrun]⟩

theorem update_spec_user :
    ∃ rt', ColumnsOk userMapper rt' ∧ (update userHierarchy userMapper
      ((Dict.empty.set "password" (.scalar (.str "x"))).set "nickname" (.scalar (.str "a")))).run
        (Runtime.init, ⟨4, .empty⟩) =
      .ok () (rt', (⟨4, .empty⟩ : Entity).setAttr "password" (.scalar (.str "x"))) := by
  obtain ⟨rt', hr', hrun⟩ := @update_spec userHierarchy userMapper Runtime.init ⟨4, .empty⟩
    (columnsOk_init userMapper) (by decide)
    ((Dict.empty.set "password" (.scalar (.str "x"))).set "nickname" (.scalar (.str "a")))
    (by decide)
  exact ⟨rt', hr', hrun.trans rfl⟩

end Laws

end Pyrin.Database.Model
