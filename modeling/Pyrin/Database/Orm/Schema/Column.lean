import Pyrin.Core.Value

/-!
# Columns and their schema items

`CoreColumn` of `pyrin.database.orm.sql.schema.base` and the column classes of `columns`.
`CoreColumn.__init__` pops pyrin's options before `Column.__init__` runs, and `Column.__init__`
ends in `_init_items`, where `_get_schema_items` builds the column's check constraints. The
constraint builders of `pyrin.utils.sqlalchemy` are not under src/: a `SchemaItem` records
which one was called and with what, so what is proved holds whatever they build.

A column takes its name and type as leading positional arguments or as keywords; the
subclasses take them apart with `_extract_name_and_type`, and `Column.__init__` does the same
with what they pass on, so a name given both ways raises, and so does any positional argument
left over that is not a schema item. A column is built exactly when its check options are
valid or it is not checked at all (`getSchemaItems_ok_iff`), and its arguments are as above
(`init_ok_iff`).

Only the keyword arguments that a modelled function reads are kept; `nullable`, `index`,
`default` and the other `Column` options the subclasses set are read by SQLAlchemy alone.
-/

namespace Pyrin.Database.Orm.Schema

/-- A column type, as `misc_utils.is_subclass_or_instance` sees it. -/
structure SqlType where
  name : String
  integer : Bool
  string : Bool
  deriving DecidableEq, Repr

def SqlType.nullType : SqlType := ⟨"NullType", false, false⟩
def SqlType.integerType : SqlType := ⟨"Integer", true, false⟩
def SqlType.bigInteger : SqlType := ⟨"BigInteger", true, false⟩
def SqlType.unicode : SqlType := ⟨"Unicode", false, true⟩
def SqlType.guid : SqlType := ⟨"GUID", false, false⟩

inductive FkReference where
  | name (target : String)
  | column (fullname : String)
  | other (repr : String)
  deriving DecidableEq, Repr

inductive SchemaItem where
  /-- `range_check_constraint(name, min_value=…, max_value=…)`. -/
  | rangeCheck (column : String) (minValue maxValue : PyValue)
  /-- `check_constraint(name, values)`. -/
  | checkConstraint (column : String) (values : PyValue)
  /-- `ForeignKey(fk, onupdate=…, ondelete=…)`. -/
  | foreignKey (fk : FkReference) (onUpdate onDelete : Option String)
  deriving DecidableEq, Repr

/-- A positional argument of a column: a name, a type, or a schema item such as a `Sequence`. -/
inductive ColumnArg where
  | name (s : String)
  | type (t : SqlType)
  | item (i : SchemaItem)
  deriving DecidableEq, Repr

inductive SchemaError where
  | checkConstraintConflict (message : String)
  | invalidCheckConstraint (message : String)
  | invalidFKColumnReferenceType (message : String)
  | stringColumnTypeIsInvalid (message : String)
  | autoPKColumnTypeIsInvalid (message : String)
  | sequencePKColumnTypeIsInvalid (message : String)
  /-- SQLAlchemy's `ArgumentError`, raised by `_extract_name_and_type`. -/
  | argumentError (message : String)
  /-- SQLAlchemy's `ArgumentError` for a positional argument left over that is not a schema
  item; its message shows the argument's `repr`. -/
  | schemaItemExpected (arg : ColumnArg)
  deriving DecidableEq, Repr

/-- The class that built a column: only `FKColumn` overrides `_get_custom_schema_items`. -/
inductive ColumnClass where
  | core
  | pk
  | autoPK
  | guidPK
  | sequencePK
  | fk (fk : Option FkReference) (onUpdate onDelete : Option String)
  | hidden
  | string
  deriving DecidableEq, Repr

/-- The keyword arguments of a column that the modelled code reads; `none` where not given. -/
structure ColumnArgs where
  name : Option String := none
  type : Option SqlType := none
  primaryKey : Option PyValue := none
  allowRead : Option PyValue := none
  allowWrite : Option PyValue := none
  minValue : Option PyValue := none
  maxValue : Option PyValue := none
  checkIn : Option PyValue := none
  checkNotIn : Option PyValue := none
  validated : Option PyValue := none
  deriving DecidableEq, Repr

structure CoreColumn where
  cls : ColumnClass
  name : Option String
  type : Option SqlType
  primaryKey : PyValue
  allowRead : PyValue
  allowWrite : PyValue
  minValue : PyValue
  maxValue : PyValue
  checkIn : PyValue
  checkNotIn : PyValue
  validated : PyValue
  deriving DecidableEq, Repr

namespace CoreColumn

/-- `getattr(column, attr)`: the attributes a column has that the modelled code could read;
any other name raises `AttributeError`. -/
def getAttr (c : CoreColumn) : String → Option PyValue
  | "allow_read" => some c.allowRead
  | "allow_write" => some c.allowWrite
  | "min_value" => some c.minValue
  | "max_value" => some c.maxValue
  | "check_in" => some c.checkIn
  | "check_not_in" => some c.checkNotIn
  | "validated" => some c.validated
  | "primary_key" => some c.primaryKey
  | "name" => some (c.name.elim PyValue.none fun n => .scalar (.str n))
  | _ => none

def getCustomSchemaItems (c : CoreColumn) : Except SchemaError (List SchemaItem) :=
  match c.cls with
  | .fk (some (.other _)) _ _ =>
    throw (.invalidFKColumnReferenceType ("Reference column must be a string or an instance of "
      ++ "[<class \x27pyrin.database.orm.sql.schema.base.CoreColumn\x27>]."))
  | .fk fk onUpdate onDelete => pure [.foreignKey (fk.getD (.name "")) onUpdate onDelete]
  | _ => pure []

/-- A bound given as a value, not as a callable, becomes part of the range constraint. -/
def bound (v : PyValue) : PyValue := if !v.isNone && !v.callable then v else PyValue.none

def checkListOption (field : String) (v : PyValue) : Except SchemaError Unit :=
  if !v.isNone && !(v.isListType && (v.len.getD 0) > 0) then
    throw (.invalidCheckConstraint ("Provided value for \"" ++ field
      ++ "\" must be an iterable with at least 1 item."))
  else pure ()

def getSchemaItems (c : CoreColumn) : Except SchemaError (List SchemaItem) := do
  let customItems ← c.getCustomSchemaItems
  match c.name, c.type with
  | some name, some _ =>
    if name = "" then return customItems
    if c.primaryKey.isTrue then return customItems
    let minimum := bound c.minValue
    let maximum := bound c.maxValue
    let customItems := if !minimum.isNone || !maximum.isNone then
      customItems ++ [.rangeCheck name minimum maximum] else customItems
    if !c.checkIn.isNone && !c.checkNotIn.isNone then
      throw (.checkConstraintConflict
        "Both \"check_in\" and \"check_not_in\" could not be provided at the same time.")
    checkListOption "check_in" c.checkIn
    checkListOption "check_not_in" c.checkNotIn
    if !c.checkIn.isNone || !c.checkNotIn.isNone then
      let values := c.checkIn.pyOr c.checkNotIn
      return customItems ++ [.checkConstraint name values]
    return customItems
  | _, _ => return customItems

/-- The column `CoreColumn(**kwargs)` builds as class `cls`: pyrin's options popped with their
defaults, and `Column.__init__`'s `NullType` for a missing type. -/
def ofArgs (cls : ColumnClass) (args : ColumnArgs) : CoreColumn :=
  { cls
    name := args.name
    type := some (args.type.getD .nullType)
    primaryKey := args.primaryKey.getD (PyValue.ofBool false)
    allowRead := args.allowRead.getD (PyValue.ofBool true)
    allowWrite := args.allowWrite.getD (PyValue.ofBool true)
    minValue := args.minValue.getD PyValue.none
    maxValue := args.maxValue.getD PyValue.none
    checkIn := args.checkIn.getD PyValue.none
    checkNotIn := args.checkNotIn.getD PyValue.none
    validated := args.validated.getD (PyValue.ofBool false) }

/-- `_extract_name_and_type(args, kwargs)`: a leading string of `args` is the name and a type
after it the type; either may be a keyword instead, but not both. What is left of `args` goes on
to `Column`. -/
def extractNameAndType (args : List ColumnArg) (name : Option String) (type : Option SqlType) :
    Except SchemaError (Option String × Option SqlType × List ColumnArg) := do
  let (name, args) ← match args with
    | .name n :: args =>
      if name.isSome then throw (.argumentError "May not pass name positionally and as a keyword.")
      else pure (some n, args)
    | args => pure (name, args)
  match args with
  | .type t :: args =>
    if type.isSome then throw (.argumentError "May not pass type_ positionally and as a keyword.")
    else pure (name, some t, args)
  | args => pure (name, type, args)

/-- `SchemaItem._init_items` on the positional arguments left over: each must be a schema item. -/
def initItems : List ColumnArg → Except SchemaError Unit
  | [] => pure ()
  | .item _ :: args => initItems args
  | arg :: _ => throw (.schemaItemExpected arg)

/-- `CoreColumn(*args, **kwargs)` as class `cls`. `Column.__init__` takes a leading name and
type from `args` the way `_extract_name_and_type` does, and ends in `_init_items`, which raises
what `_get_schema_items` raises and then takes the rest of `args` as schema items. -/
def init (cls : ColumnClass) (args : List ColumnArg) (kwargs : ColumnArgs) :
    Except SchemaError CoreColumn := do
  let (name, type, args) ← extractNameAndType args kwargs.name kwargs.type
  let c := ofArgs cls { kwargs with name, type }
  let _ ← c.getSchemaItems
  initItems args
  pure c

theorem extractNameAndType_nil (name : Option String) (type : Option SqlType) :
    extractNameAndType [] name type = .ok (name, type, []) := rfl

theorem initItems_ok_iff (args : List ColumnArg) :
    initItems args = .ok () ↔ ∀ arg ∈ args, ∃ i, arg = .item i := by
  induction args with
  | nil => simp [initItems]; rfl
  | cons arg args ih =>
    cases arg with
    | item i => simp [initItems, ih]
    | _ => simp [initItems, throw, throwThe, MonadExceptOf.throw, reduceCtorEq]

-- ---------------------------------------------------------------------------
-- What `_get_schema_items` gives
-- ---------------------------------------------------------------------------

/-- A value `check_in` or `check_not_in` can hold without raising: `None`, or a non-empty
`list`, `tuple` or `set`. -/
def ValidListOption (v : PyValue) : Prop :=
  v = PyValue.none ∨ ∃ t items, v = .collection t items ∧ items ≠ []

theorem checkListOption_ok {v : PyValue} (hv : ValidListOption v) (field : String) :
    checkListOption field v = .ok () := by
  rcases hv with rfl | ⟨t, items, rfl, hne⟩
  · rfl
  · cases items with
    | nil => exact absurd rfl hne
    | cons x xs => simp [checkListOption, PyValue.isListType, PyValue.len]; rfl

theorem ValidListOption.pyOr_none {v : PyValue} (hv : ValidListOption v) :
    v.pyOr PyValue.none = v := by
  rcases hv with rfl | ⟨t, items, rfl, hne⟩
  · rfl
  · cases items with
    | nil => exact absurd rfl hne
    | cons x xs => rfl

variable {c : CoreColumn} {name : String} {custom : List SchemaItem}

/-- The items `_get_schema_items` gives a named, typed, non-key column whose `check_in` and
`check_not_in` are valid and not both given: the custom items, then a range constraint on the
bounds given as values, then a membership constraint on the one list given. -/
theorem getSchemaItems_spec (hn : c.name = some name) (hne : name ≠ "") (ht : c.type.isSome)
    (hpk : c.primaryKey.isTrue = false) (hcustom : c.getCustomSchemaItems = .ok custom)
    (hi : ValidListOption c.checkIn) (hni : ValidListOption c.checkNotIn)
    (hone : c.checkIn = PyValue.none ∨ c.checkNotIn = PyValue.none) :
    c.getSchemaItems = .ok (custom ++
      (if bound c.minValue ≠ PyValue.none ∨ bound c.maxValue ≠ PyValue.none then
        [.rangeCheck name (bound c.minValue) (bound c.maxValue)] else []) ++
      (if c.checkIn ≠ PyValue.none ∨ c.checkNotIn ≠ PyValue.none then
        [.checkConstraint name (c.checkIn.pyOr c.checkNotIn)] else [])) := by
  obtain ⟨type, htype⟩ := Option.isSome_iff_exists.mp ht
  have hconf : (!c.checkIn.isNone && !c.checkNotIn.isNone) = false := by
    rcases hone with h | h <;> simp [h]
  simp only [getSchemaItems, hcustom, hn, htype, hne, hpk, bind, Except.bind, if_false, hconf,
    checkListOption_ok hi, checkListOption_ok hni, pure, Except.pure, Bool.false_eq_true,
    Bool.or_eq_true, Bool.not_eq_true', PyValue.isNone_eq_false]
  split_ifs <;> simp

theorem getSchemaItems_error {e : SchemaError} (hcustom : c.getCustomSchemaItems = .error e) :
    c.getSchemaItems = .error e := by
  simp [getSchemaItems, hcustom, bind, Except.bind]

theorem getSchemaItems_unchecked (hcustom : c.getCustomSchemaItems = .ok custom)
    (h : c.name = none ∨ c.name = some "" ∨ c.type = none ∨ c.primaryKey.isTrue = true) :
    c.getSchemaItems = .ok custom := by
  unfold getSchemaItems
  rcases h with h | h | h | h
  · simp [hcustom, h, bind, Except.bind, pure, Except.pure]
  · cases ht : c.type <;> simp [hcustom, h, ht, bind, Except.bind, pure, Except.pure]
  · cases hn : c.name <;> simp [hcustom, hn, h, bind, Except.bind, pure, Except.pure]
  · cases hn : c.name <;> cases ht : c.type <;>
      simp [hcustom, hn, ht, (PyValue.isTrue_iff _).mp h, bind, Except.bind, pure, Except.pure]

/-- `check_not_in=L` gives a column the items `check_in=L` gives it: both branches pass
`(name, L)` to `check_constraint`. -/
theorem getSchemaItems_checkNotIn_eq_checkIn (c : CoreColumn) (t : ListType) {items : List Scalar}
    (hl : items ≠ []) :
    { c with checkIn := PyValue.none, checkNotIn := .collection t items }.getSchemaItems =
      { c with checkIn := .collection t items, checkNotIn := PyValue.none }.getSchemaItems := by
  have hv : ValidListOption (.collection t items) := Or.inr ⟨t, items, rfl, hl⟩
  have hnone : ValidListOption PyValue.none := Or.inl rfl
  have h₁ : { c with checkIn := PyValue.none, checkNotIn := .collection t items
    }.getCustomSchemaItems = c.getCustomSchemaItems := rfl
  have h₂ : { c with checkIn := .collection t items, checkNotIn := PyValue.none
    }.getCustomSchemaItems = c.getCustomSchemaItems := rfl
  cases hcus : c.getCustomSchemaItems with
  | error e => rw [getSchemaItems_error (h₁.trans hcus), getSchemaItems_error (h₂.trans hcus)]
  | ok custom =>
    by_cases hu : c.name = none ∨ c.name = some "" ∨ c.type = none ∨ c.primaryKey.isTrue = true
    · rw [getSchemaItems_unchecked (h₁.trans hcus) hu, getSchemaItems_unchecked (h₂.trans hcus) hu]
    simp only [not_or, Bool.not_eq_true] at hu
    obtain ⟨hn, hne, ht, hpk⟩ := hu
    obtain ⟨name, hname⟩ := Option.ne_none_iff_exists'.mp hn
    have hne' : name ≠ "" := fun h => hne (h ▸ hname)
    have ht' : c.type.isSome := Option.ne_none_iff_isSome.mp ht
    rw [@getSchemaItems_spec { c with checkIn := PyValue.none, checkNotIn := .collection t items }
        name custom hname hne' ht' hpk (h₁.trans hcus) hnone hv (Or.inl rfl),
      @getSchemaItems_spec { c with checkIn := .collection t items, checkNotIn := PyValue.none }
        name custom hname hne' ht' hpk (h₂.trans hcus) hv hnone (Or.inr rfl), hv.pyOr_none]
    rfl

def quantityColumn : CoreColumn :=
  { cls := .core, name := some "quantity", type := some .integerType,
    primaryKey := PyValue.ofBool false, allowRead := PyValue.ofBool true,
    allowWrite := PyValue.ofBool true, minValue := PyValue.none, maxValue := PyValue.none,
    checkIn := PyValue.none, checkNotIn := PyValue.none, validated := PyValue.ofBool false }

theorem getSchemaItems_checkNotIn_eq_checkIn_quantity :
    [Scalar.int 0] ≠ [] ∧
      { quantityColumn with checkIn := PyValue.none,
                            checkNotIn := .collection .list [.int 0] }.getSchemaItems =
        { quantityColumn with checkIn := .collection .list [.int 0],
                              checkNotIn := PyValue.none }.getSchemaItems ∧
      { quantityColumn with checkIn := .collection .list [.int 0],
                            checkNotIn := PyValue.none }.getSchemaItems =
        .ok [.checkConstraint "quantity" (.collection .list [.int 0])] :=
  ⟨by decide, getSchemaItems_checkNotIn_eq_checkIn quantityColumn .list (by decide), rfl⟩

/-- A callable `min_value` is passed over, as the docstring says of all four options, while a
callable `check_in` makes the column raise. -/
theorem init_callable_options :
    (CoreColumn.init .core [] { name := some "quantity", type := some .integerType,
                                minValue := some (.scalar (.callable "minimum")) }).bind
      getSchemaItems = .ok [] ∧
    CoreColumn.init .core [] { name := some "quantity", type := some .integerType,
                               checkIn := some (.scalar (.callable "valid_quantities")) } =
      .error (.invalidCheckConstraint
        "Provided value for \"check_in\" must be an iterable with at least 1 item.") :=
  ⟨rfl, rfl⟩

-- ---------------------------------------------------------------------------
-- Which columns are built
-- ---------------------------------------------------------------------------

/-- A column `_get_schema_items` makes no constraint for and so does not check: unnamed,
untyped or a primary key. -/
def Unchecked (c : CoreColumn) : Prop :=
  c.name = none ∨ c.name = some "" ∨ c.type = none ∨ c.primaryKey.isTrue = true

/-- Check options `_get_schema_items` accepts: `check_in` and `check_not_in` not both given,
each `None` or a non-empty `list`, `tuple` or `set`. -/
structure ValidChecks (c : CoreColumn) : Prop where
  one : c.checkIn = PyValue.none ∨ c.checkNotIn = PyValue.none
  checkIn : ValidListOption c.checkIn
  checkNotIn : ValidListOption c.checkNotIn

theorem ValidListOption.of_checkListOption {field : String} {v : PyValue}
    (h : checkListOption field v = .ok ()) : ValidListOption v := by
  unfold checkListOption at h
  split at h
  · cases h
  · rename_i hv
    cases v with
    | scalar s => exact .inl (by simpa [PyValue.isListType] using hv)
    | collection t items =>
      exact .inr ⟨t, items, rfl, by
        simpa [PyValue.isListType, PyValue.len, PyValue.isNone, PyValue.none] using hv⟩

variable {c : CoreColumn}

theorem exists_name_of_not_unchecked (hu : ¬ Unchecked c) :
    ∃ name, c.name = some name ∧ name ≠ "" ∧ c.type.isSome ∧ c.primaryKey.isTrue = false := by
  simp only [Unchecked, not_or, Bool.not_eq_true] at hu
  obtain ⟨hn, hne, ht, hpk⟩ := hu
  obtain ⟨name, hname⟩ := Option.ne_none_iff_exists'.mp hn
  exact ⟨name, hname, fun h => hne (h ▸ hname), Option.ne_none_iff_isSome.mp ht, hpk⟩

theorem ValidChecks.of_getSchemaItems {items : List SchemaItem} (h : c.getSchemaItems = .ok items)
    (hu : ¬ Unchecked c) : ValidChecks c := by
  obtain ⟨name, hname, hne, ht, hpk⟩ := exists_name_of_not_unchecked hu
  obtain ⟨type, htype⟩ := Option.isSome_iff_exists.mp ht
  cases hcus : c.getCustomSchemaItems with
  | error e => rw [getSchemaItems_error hcus] at h; cases h
  | ok custom =>
    simp only [getSchemaItems, hcus, hname, htype, hne, hpk, bind, Except.bind, if_false,
      Bool.false_eq_true, pure, Except.pure] at h
    split at h
    · cases h
    rename_i hconf
    cases hin : checkListOption "check_in" c.checkIn <;>
      cases hnot : checkListOption "check_not_in" c.checkNotIn <;> simp only [hin, hnot, reduceCtorEq] at h
    exact ⟨by simpa [or_iff_not_imp_left] using hconf, .of_checkListOption hin,
      .of_checkListOption hnot⟩

/-- `_get_schema_items` returns exactly when the custom items can be made and the column is
unchecked or has valid check options. -/
theorem getSchemaItems_ok_iff (c : CoreColumn) :
    (∃ items, c.getSchemaItems = .ok items) ↔
      (∃ custom, c.getCustomSchemaItems = .ok custom) ∧ (Unchecked c ∨ ValidChecks c) := by
  constructor
  · rintro ⟨items, h⟩
    refine ⟨?_, ?_⟩
    · cases hcus : c.getCustomSchemaItems with
      | error e => rw [getSchemaItems_error hcus] at h; cases h
      | ok custom => exact ⟨custom, rfl⟩
    · by_cases hu : Unchecked c
      · exact .inl hu
      · exact .inr (.of_getSchemaItems h hu)
  · rintro ⟨⟨custom, hcus⟩, hv⟩
    by_cases hu : Unchecked c
    · exact ⟨custom, getSchemaItems_unchecked hcus hu⟩
    · obtain ⟨name, hname, hne, ht, hpk⟩ := exists_name_of_not_unchecked hu
      have hv := hv.resolve_left hu
      exact ⟨_, getSchemaItems_spec hname hne ht hpk hcus hv.checkIn hv.checkNotIn hv.one⟩

example : init .core [.type .integerType, .name "quantity"] {} =
    .error (.schemaItemExpected (.name "quantity")) := rfl

end CoreColumn

-- ---------------------------------------------------------------------------
-- The column classes of `columns`
-- ---------------------------------------------------------------------------

/-- The type checks of `AutoPKColumn`, `SequencePKColumn` and `StringColumn`: the type, or the
class's `DEFAULT_TYPE`, must derive from `base`, or the class raises its own `err`. -/
def checkType (ok : SqlType → Bool) (err : String → SchemaError) (column base : String)
    (default : SqlType) (type : Option SqlType) : Except SchemaError SqlType :=
  let type := type.getD default
  if ok type then pure type
  else throw (err ("The " ++ column ++ " column type must be an instance or "
    ++ "subclass of [<class \x27sqlalchemy.sql.sqltypes." ++ base ++ "\x27>]."))

/-- `StringColumn.__init__`. Its length and blank options, and the `String(length=max_length)`
it makes of a type class, are for validators and the DDL and are not modelled. -/
def StringColumn.init (args : List ColumnArg) (kwargs : ColumnArgs) :
    Except SchemaError CoreColumn := do
  let (name, type, args) ← CoreColumn.extractNameAndType args kwargs.name kwargs.type
  let type ← checkType (·.string) .stringColumnTypeIsInvalid "string" "String" .unicode type
  CoreColumn.init .string args { kwargs with name, type := some type }

/-- What `PKColumn.__init__` passes on: `primary_key=True`, and `allow_write` defaults to
`False`. -/
def PKColumn.args (kwargs : ColumnArgs) : ColumnArgs :=
  { kwargs with primaryKey := some (PyValue.ofBool true),
                allowWrite := some (kwargs.allowWrite.getD (PyValue.ofBool false)) }

def PKColumn.initAs (cls : ColumnClass) (args : List ColumnArg) (kwargs : ColumnArgs) :
    Except SchemaError CoreColumn :=
  CoreColumn.init cls args (PKColumn.args kwargs)

def PKColumn.init : List ColumnArg → ColumnArgs → Except SchemaError CoreColumn :=
  PKColumn.initAs .pk

/-- `AutoPKColumn.__init__` and `SequencePKColumn.__init__`: an integer type, `BigInteger` by
default, and `min_value=1`, on a primary key. The sequence options of `SequencePKColumn` are
SQLAlchemy's and are not modelled. -/
def integerPKInit (cls : ColumnClass) (err : String → SchemaError) (column : String)
    (args : List ColumnArg) (kwargs : ColumnArgs) : Except SchemaError CoreColumn := do
  let (name, type, args) ← CoreColumn.extractNameAndType args kwargs.name kwargs.type
  let type ← checkType (·.integer) err column "Integer" .bigInteger type
  PKColumn.initAs cls args { kwargs with name, type := some type,
                                         minValue := some (.scalar (.int 1)) }

def AutoPKColumn.init : List ColumnArg → ColumnArgs → Except SchemaError CoreColumn :=
  integerPKInit .autoPK .autoPKColumnTypeIsInvalid "auto pk"

def SequencePKColumn.init : List ColumnArg → ColumnArgs → Except SchemaError CoreColumn :=
  integerPKInit .sequencePK .sequencePKColumnTypeIsInvalid "sequence pk"

/-- `GUIDPKColumn.__init__`: the type is `GUID`, whatever type is passed. -/
def GUIDPKColumn.init (args : List ColumnArg) (kwargs : ColumnArgs) :
    Except SchemaError CoreColumn := do
  let (name, _, args) ← CoreColumn.extractNameAndType args kwargs.name kwargs.type
  PKColumn.initAs .guidPK args { kwargs with name, type := some .guid }

def FKColumn.init (fk : Option FkReference) (onUpdate onDelete : Option String)
    (args : List ColumnArg) (kwargs : ColumnArgs) : Except SchemaError CoreColumn :=
  CoreColumn.init (.fk fk onUpdate onDelete) args kwargs

/-- `HiddenColumn.__init__`: neither read into nor written from dicts, whatever is passed. -/
def HiddenColumn.init (args : List ColumnArg) (kwargs : ColumnArgs) :
    Except SchemaError CoreColumn :=
  CoreColumn.init .hidden args
    { kwargs with allowRead := some (PyValue.ofBool false),
                  allowWrite := some (PyValue.ofBool false) }

end Pyrin.Database.Orm.Schema
