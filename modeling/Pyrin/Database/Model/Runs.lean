import Pyrin.Database.Model.Conversion

/-!
# Runs of entity methods

The class-level state of the entity classes, `Runtime`, holds three caches: the
`_root_base_class` attributes and the `DTO`s of `_all_columns` and `_exposed_columns`. An entity
method reaches it through one class-level call, `_get_root_base_class()` or the scan behind
`all_columns()` or `exposed_columns()`, or not at all (`EntityCall.next_eq`). Each of those
calls keeps the caches right (`CachesOk.classNext`), so every run of entity methods does
(`cachesOk_runCalls`).

From a runtime whose caches are right, every method gives its caller what it gives on a fresh
runtime. For the conversions this holds in every hierarchy (`cachedColumns_outcome`,
`fromDict_outcome`); for `==`, `!=` and `hash` it needs well-rooted classes (`eq_outcome`,
`hash_outcome`), without which an inherited root can be seen.
-/

namespace Pyrin.Database.Model

-- ---------------------------------------------------------------------------
-- Entity methods
-- ---------------------------------------------------------------------------

section Calls

variable (h : Hierarchy) (coreEntity : ClassId)

abbrev EntityInstance := {e : Entity // IsEntityClass h coreEntity e.cls}

inductive EntityCall where
  /-- `self._get_root_base_class()`. -/
  | rootBaseClass (c : EntityClass h coreEntity)
  /-- `a == b`, whatever `b` is. -/
  | eq (a : EntityInstance h coreEntity) (b : Entity)
  /-- `a != b`. -/
  | ne (a : EntityInstance h coreEntity) (b : Entity)
  /-- `hash(a)`. -/
  | hash (a : EntityInstance h coreEntity)
  /-- `self.all_columns()` or `self.exposed_columns()`. -/
  | columns (attr : CacheAttr) (c : EntityClass h coreEntity)
  /-- `self.to_dict()`. -/
  | toDict (a : EntityInstance h coreEntity)
  /-- `self.from_dict(*args, **kwargs)`, `args` holding the flag or nothing. -/
  | fromDict (silent : Option PyValue) (kwargs : Kwargs) (a : EntityInstance h coreEntity)
  /-- `self.update(**kwargs)`. -/
  | update (kwargs : Kwargs) (a : EntityInstance h coreEntity)
  /-- `cls(**kwargs)`. -/
  | init (c : EntityClass h coreEntity) (kwargs : Kwargs)

variable {h coreEntity}

theorem IsEntityClass.of_reflected {a b : Entity} (ha : IsEntityClass h coreEntity a.cls)
    (hr : Reflected h a b) : IsEntityClass h coreEntity b.cls :=
  ⟨h.mro_subset hr.2 _ ha.1, fun hb =>
    ha.2 (Nat.le_antisymm (h.le_of_mem_mro (hb ▸ hr.2)) (h.le_of_mem_mro ha.1))⟩

/-- The class whose `__eq__` runs for `a == b`: the right operand's when Python reflects. -/
def EntityInstance.eqOperand (a : EntityInstance h coreEntity) (b : Entity) :
    EntityClass h coreEntity :=
  if hr : Reflected h a.1 b then ⟨b.cls, a.2.of_reflected hr⟩ else ⟨a.1.cls, a.2⟩

/-- The one class-level call an entity method makes, if any. -/
def EntityCall.classCall : EntityCall h coreEntity → Option (ClassCall h coreEntity)
  | .rootBaseClass c => some (.rootBaseClass c)
  | .eq a b => some (.rootBaseClass (EntityInstance.eqOperand a b))
  | .ne a b => some (.rootBaseClass (EntityInstance.eqOperand a b))
  | .hash a => some (.rootBaseClass ⟨a.1.cls, a.2⟩)
  | .columns attr c => some (.columns attr c)
  | .toDict a => some (.columns .exposedColumns ⟨a.1.cls, a.2⟩)
  | .fromDict silent kwargs a =>
    if (kwargs.keys.find? (· ∈ fromDictGiven silent)).isSome then none
    else some (.columns .allColumns ⟨a.1.cls, a.2⟩)
  | .update kwargs a =>
    if "self" ∈ kwargs.keys then none else some (.columns .allColumns ⟨a.1.cls, a.2⟩)
  | .init c kwargs =>
    if "self" ∈ kwargs.keys ∨ "silent_on_invalid_column" ∈ kwargs.keys then none
    else some (.columns .allColumns c)

variable (mapper : ClassId → List MapperProperty) {K : Type} (primaryKey : Entity → K)
  (pkEq : K → K → Bool) (pkStr : K → String) (strHash : String → Int)

def ClassCall.next : ClassCall h coreEntity → Runtime → Runtime
  | .rootBaseClass c, rt => resultState ((getRootBaseClass h coreEntity c.1).run rt)
  | .columns attr c, rt => resultState ((cachedColumns h mapper attr c.1).run rt)

def EntityCall.next : EntityCall h coreEntity → Runtime → Runtime
  | .rootBaseClass c, rt => resultState ((getRootBaseClass h coreEntity c.1).run rt)
  | .eq a b, rt => resultState ((opEq h coreEntity primaryKey pkEq a.1 b).run rt)
  | .ne a b, rt => resultState ((opNe h coreEntity primaryKey pkEq a.1 b).run rt)
  | .hash a, rt => resultState ((Model.hash h coreEntity primaryKey pkStr strHash a.1).run rt)
  | .columns attr c, rt => resultState ((cachedColumns h mapper attr c.1).run rt)
  | .toDict a, rt => resultState ((Model.toDict h mapper a.1).run rt)
  | .fromDict silent kwargs a, rt =>
    (resultState ((callFromDict h mapper silent kwargs).run (rt, a.1))).1
  | .update kwargs a, rt => (resultState ((Model.update h mapper kwargs).run (rt, a.1))).1
  | .init c kwargs, rt => resultState ((Entity.init h mapper c.1 kwargs).run rt)

/-- The runtime a sequence of entity methods leaves, from a fresh one. -/
def runCalls (calls : List (EntityCall h coreEntity)) : Runtime :=
  calls.foldl (fun rt call => call.next mapper primaryKey pkEq pkStr strHash rt) Runtime.init

end Calls

-- ---------------------------------------------------------------------------
-- What each method does to the runtime
-- ---------------------------------------------------------------------------

section Frame

variable {h : Hierarchy} {coreEntity : ClassId} {mapper : ClassId → List MapperProperty}
  {K : Type} (primaryKey : Entity → K) (pkEq : K → K → Bool) (rt : Runtime)

theorem resultState_eq (a b : Entity) :
    resultState ((eq h coreEntity primaryKey pkEq a b).run rt) =
      resultState ((getRootBaseClass h coreEntity a.cls).run rt) := by
  unfold Model.eq
  exact resultState_bind_frame id fun _ _ => by split <;> rfl

theorem resultState_opEq (a : EntityInstance h coreEntity) (b : Entity) :
    resultState ((opEq h coreEntity primaryKey pkEq a.1 b).run rt) =
      resultState ((getRootBaseClass h coreEntity (EntityInstance.eqOperand a b).1).run rt) := by
  unfold opEq EntityInstance.eqOperand
  by_cases hr : Reflected h a.1 b
  · rw [if_pos hr, dif_pos hr]; exact resultState_eq primaryKey pkEq rt b a.1
  · rw [if_neg hr, dif_neg hr]; exact resultState_eq primaryKey pkEq rt a.1 b

theorem resultState_opNe (a b : Entity) :
    resultState ((opNe h coreEntity primaryKey pkEq a b).run rt) =
      resultState ((opEq h coreEntity primaryKey pkEq a b).run rt) := by
  have hne : ∀ x y, resultState ((ne h coreEntity primaryKey pkEq x y).run rt) =
      resultState ((opEq h coreEntity primaryKey pkEq x y).run rt) := fun _ _ =>
    resultState_bind_frame id fun _ _ => rfl
  unfold opNe
  split
  · rename_i hab
    rw [hne, opEq, if_neg (not_reflected_of_reflected hab), opEq, if_pos hab]
  · exact hne a b

theorem resultState_hash (pkStr : K → String) (strHash : String → Int) (a : Entity) :
    resultState ((hash h coreEntity primaryKey pkStr strHash a).run rt) =
      resultState ((getRootBaseClass h coreEntity a.cls).run rt) :=
  resultState_bind_frame id fun _ _ => rfl

theorem resultState_toDict (e : Entity) :
    resultState ((toDict h mapper e).run rt) =
      resultState ((cachedColumns h mapper .exposedColumns e.cls).run rt) :=
  resultState_bind_frame id fun columns _ => by cases columns <;> rfl

theorem resultState_onSelf {α : Type} (x : EStateM ModelError Entity α) (s : Runtime × Entity) :
    (resultState ((onSelf x).run s)).1 = s.1 := by
  rw [run_onSelf]; split <;> rfl

theorem resultState_onClasses {α : Type} (x : EStateM ModelError Runtime α) (s : Runtime × Entity) :
    (resultState ((onClasses x).run s)).1 = resultState (x.run s.1) := by
  rw [run_onClasses]; cases x.run s.1 <;> rfl

theorem fromDict_runtime (silent : PyValue) (kwargs : Kwargs) (e : Entity) :
    (resultState ((fromDict h mapper silent kwargs).run (rt, e))).1 =
      resultState ((cachedColumns h mapper .allColumns e.cls).run rt) := by
  simp only [fromDict, run_get_bind]
  refine (resultState_bind_frame Prod.fst fun columns s => ?_).trans (resultState_onClasses _ _)
  cases columns with
  | some columns => exact resultState_onSelf _ s
  | none => dsimp only; split <;> rfl

theorem callFromDict_runtime (silent : Option PyValue) (kwargs : Kwargs) (e : Entity) :
    (resultState ((callFromDict h mapper silent kwargs).run (rt, e))).1 =
      if (kwargs.keys.find? (· ∈ fromDictGiven silent)).isSome then rt
      else resultState ((cachedColumns h mapper .allColumns e.cls).run rt) := by
  unfold callFromDict
  rw [run_bind, bindKeywords_run]
  cases kwargs.keys.find? (· ∈ fromDictGiven silent)
  · exact fromDict_runtime rt _ _ e
  · rfl

theorem update_runtime (kwargs : Kwargs) (e : Entity) :
    (resultState ((update h mapper kwargs).run (rt, e))).1 =
      if "self" ∈ kwargs.keys then rt
      else resultState ((cachedColumns h mapper .allColumns e.cls).run rt) := by
  rw [update_run]
  split
  · rfl
  · exact fromDict_runtime rt _ _ e

theorem Entity.init_runtime (c : ClassId) (kwargs : Kwargs) :
    resultState ((Entity.init h mapper c kwargs).run rt) =
      if "self" ∈ kwargs.keys ∨ "silent_on_invalid_column" ∈ kwargs.keys then rt
      else resultState ((cachedColumns h mapper .allColumns c).run rt) := by
  rw [Entity.init_run, ← fromDict_runtime rt (PyValue.ofBool false) kwargs ⟨c, .empty⟩]
  by_cases hself : "self" ∈ kwargs.keys
  · simp only [hself, true_or, if_true]; rfl
  by_cases hs : "silent_on_invalid_column" ∈ kwargs.keys
  · simp only [hself, hs, or_true, if_true, if_false]; rfl
  simp only [hself, hs, or_false, if_false]
  cases (fromDict h mapper (PyValue.ofBool false) kwargs).run (rt, ⟨c, .empty⟩) <;> rfl

end Frame

-- ---------------------------------------------------------------------------
-- Runs keep the caches right
-- ---------------------------------------------------------------------------

section Caches

variable {h : Hierarchy} {coreEntity : ClassId} (mapper : ClassId → List MapperProperty)
  {K : Type} (primaryKey : Entity → K) (pkEq : K → K → Bool) (pkStr : K → String)
  (strHash : String → Int)

/-- Every entity method changes the runtime as its one class-level call does. -/
theorem EntityCall.next_eq (call : EntityCall h coreEntity) (rt : Runtime) :
    call.next mapper primaryKey pkEq pkStr strHash rt =
      call.classCall.elim rt fun c => c.next mapper rt := by
  cases call with
  | rootBaseClass c => rfl
  | eq a b => exact resultState_opEq primaryKey pkEq rt a b
  | ne a b =>
    exact (resultState_opNe primaryKey pkEq rt a.1 b).trans (resultState_opEq primaryKey pkEq rt a b)
  | hash a => exact resultState_hash primaryKey rt pkStr strHash a.1
  | columns attr c => rfl
  | toDict a => exact resultState_toDict rt a.1
  | fromDict silent kwargs a =>
    rw [EntityCall.next, callFromDict_runtime, EntityCall.classCall]
    split <;> rfl
  | update kwargs a =>
    rw [EntityCall.next, update_runtime, EntityCall.classCall]
    split <;> rfl
  | init c kwargs =>
    rw [EntityCall.next, Entity.init_runtime, EntityCall.classCall]
    split <;> rfl

variable (h coreEntity) in
/-- The caches of a runtime are right: every cached root was computed for the entity class it is
cached on, and both column caches hold only what their scans compute. -/
structure CachesOk (rt : Runtime) : Prop where
  root : RootCacheOk h coreEntity rt
  columns : ColumnsOk mapper rt

theorem cachesOk_init : CachesOk h coreEntity mapper Runtime.init :=
  ⟨rootCacheOk_init, columnsOk_init mapper⟩

theorem RootCacheOk.of_rootBaseClass_eq {rt rt' : Runtime} (hr : RootCacheOk h coreEntity rt)
    (he : rt'.rootBaseClass = rt.rootBaseClass) : RootCacheOk h coreEntity rt' :=
  fun d r hd => hr d r (he ▸ hd)

variable {mapper} {rt : Runtime}

theorem CachesOk.classNext (hr : CachesOk h coreEntity mapper rt) (call : ClassCall h coreEntity) :
    CachesOk h coreEntity mapper (call.next mapper rt) := by
  cases call with
  | rootBaseClass c =>
    obtain ⟨r, rt', hrun, hroot⟩ := hr.root.getRootBaseClass c.2
    refine ⟨?_, hr.columns.getRootBaseClass coreEntity c.1⟩
    rw [ClassCall.next, hrun]; exact hroot
  | columns attr c =>
    obtain ⟨rt', hcols, hroot, hrun⟩ :=
      cachedColumns_spec hr.columns (h.lt_of_mem_mro c.2.1) attr
    rw [ClassCall.next, hrun]
    split
    · exact ⟨hr.root.of_rootBaseClass_eq hroot, hcols⟩
    · exact hr

theorem CachesOk.next (hr : CachesOk h coreEntity mapper rt) (call : EntityCall h coreEntity) :
    CachesOk h coreEntity mapper (call.next mapper primaryKey pkEq pkStr strHash rt) := by
  rw [EntityCall.next_eq]
  cases call.classCall with
  | none => exact hr
  | some c => exact hr.classNext c

variable (mapper) in
theorem cachesOk_runCalls (calls : List (EntityCall h coreEntity)) :
    CachesOk h coreEntity mapper (runCalls mapper primaryKey pkEq pkStr strHash calls) := by
  suffices ∀ rt, CachesOk h coreEntity mapper rt → CachesOk h coreEntity mapper
      (calls.foldl (fun rt call => call.next mapper primaryKey pkEq pkStr strHash rt) rt) from
    this _ (cachesOk_init mapper)
  induction calls with
  | nil => exact fun _ hr => hr
  | cons call calls ih => exact fun rt hr => ih _ (hr.next primaryKey pkEq pkStr strHash call)

end Caches

-- ---------------------------------------------------------------------------
-- What each method gives its caller
-- ---------------------------------------------------------------------------

section Outcomes

variable {h : Hierarchy} {mapper : ClassId → List MapperProperty} {rt : Runtime}

theorem cachedColumns_outcome (hr : ColumnsOk mapper rt) {c : ClassId}
    (hc : c < h.classes.length) (attr : CacheAttr) :
    resultOutcome ((cachedColumns h mapper attr c).run rt) = (attr.scan (mapper c)).map some := by
  obtain ⟨rt', -, -, hrun⟩ := cachedColumns_spec hr hc attr
  rw [hrun]
  cases attr.scan (mapper c) <;> rfl

theorem toDict_outcome (hr : ColumnsOk mapper rt) {e : Entity} (hc : e.cls < h.classes.length) :
    resultOutcome ((toDict h mapper e).run rt) = (exposedColumnsScan (mapper e.cls)).map
      fun columns => columns.foldl (fun result col => result.set col (e.getAttr col)) .empty := by
  obtain ⟨rt', -, -, hrun⟩ := cachedColumns_spec hr hc .exposedColumns
  rw [toDict, exposedColumns, run_bind, hrun, CacheAttr.scan]
  cases exposedColumnsScan (mapper e.cls) <;> rfl

theorem fromDict_outcome (hr : ColumnsOk mapper rt) {e : Entity} (hc : e.cls < h.classes.length)
    (silent : PyValue) (kwargs : Kwargs) :
    resultOutcome ((fromDict h mapper silent kwargs).run (rt, e)) = resultOutcome
        ((assignColumns (className h e.cls) (columnKeys (mapper e.cls)) silent kwargs.entries).run e) ∧
      (resultState ((fromDict h mapper silent kwargs).run (rt, e))).2 = resultState
        ((assignColumns (className h e.cls) (columnKeys (mapper e.cls)) silent kwargs.entries).run e) := by
  obtain ⟨rt', -, hrun⟩ := fromDict_run hr hc silent kwargs
  rw [hrun, run_onSelf]
  cases (assignColumns (className h e.cls) (columnKeys (mapper e.cls)) silent kwargs.entries).run e <;>
    exact ⟨rfl, rfl⟩

theorem Entity.init_outcome (hr : ColumnsOk mapper rt) {c : ClassId} (hc : c < h.classes.length)
    (kwargs : Kwargs) :
    resultOutcome ((Entity.init h mapper c kwargs).run rt) =
      if "self" ∈ kwargs.keys then .error (multipleValues "__init__" "self")
      else if "silent_on_invalid_column" ∈ kwargs.keys then
        .error (multipleValues "from_dict" "silent_on_invalid_column")
      else match (assignColumns (className h c) (columnKeys (mapper c)) (PyValue.ofBool false)
          kwargs.entries).run ⟨c, .empty⟩ with
        | .ok _ _ => .error (initReturnedNotNone (className h c))
        | .error err _ => .error err := by
  obtain ⟨rt', -, hrun⟩ := @fromDict_run h mapper rt ⟨c, .empty⟩ hr hc (PyValue.ofBool false) kwargs
  rw [Entity.init_run]
  split_ifs
  · rfl
  · rfl
  · rw [hrun, run_onSelf]
    cases (assignColumns (className h c) (columnKeys (mapper c)) (PyValue.ofBool false)
      kwargs.entries).run ⟨c, .empty⟩ <;> rfl

variable {coreEntity : ClassId} {K : Type} (primaryKey : Entity → K) (pkEq : K → K → Bool)

theorem getRootBaseClass_outcome {c : ClassId} (hw : WellRootedAt h coreEntity c)
    (hr : RootCacheOk h coreEntity rt) (hc : IsEntityClass h coreEntity c) :
    resultOutcome ((getRootBaseClass h coreEntity c).run rt) = .ok (rootPick coreEntity (h.mro c)) := by
  obtain ⟨rt', hrun, -⟩ := hw.getRootBaseClass hr hc
  rw [hrun]; rfl

theorem eq_outcome {a : Entity} (hw : WellRootedAt h coreEntity a.cls)
    (hr : RootCacheOk h coreEntity rt) (ha : IsEntityClass h coreEntity a.cls) (b : Entity) :
    resultOutcome ((eq h coreEntity primaryKey pkEq a b).run rt) =
      .ok (if rootPick coreEntity (h.mro a.cls) ∈ h.mro b.cls then
        pkEq (primaryKey a) (primaryKey b) else false) := by
  obtain ⟨rt', hrun, -⟩ := hw.getRootBaseClass hr ha
  rw [Model.eq, run_bind_ok hrun, run_ite]
  split <;> rfl

theorem opEq_outcome (a : EntityInstance h coreEntity) {b : Entity}
    (hwa : WellRootedAt h coreEntity a.1.cls) (hwb : WellRootedAt h coreEntity b.cls)
    (hr : RootCacheOk h coreEntity rt) :
    resultOutcome ((opEq h coreEntity primaryKey pkEq a.1 b).run rt) =
      if Reflected h a.1 b then
        .ok (if rootPick coreEntity (h.mro b.cls) ∈ h.mro a.1.cls then
          pkEq (primaryKey b) (primaryKey a.1) else false)
      else
        .ok (if rootPick coreEntity (h.mro a.1.cls) ∈ h.mro b.cls then
          pkEq (primaryKey a.1) (primaryKey b) else false) := by
  unfold opEq
  split
  · exact eq_outcome primaryKey pkEq hwb hr (a.2.of_reflected ‹_›) a.1
  · exact eq_outcome primaryKey pkEq hwa hr a.2 b

theorem opNe_outcome (a b : Entity) :
    resultOutcome ((opNe h coreEntity primaryKey pkEq a b).run rt) =
      (resultOutcome ((opEq h coreEntity primaryKey pkEq a b).run rt)).map (!·) := by
  unfold opNe
  split
  · rename_i hab
    rw [ne, resultOutcome_map, opEq, if_neg (not_reflected_of_reflected hab), opEq, if_pos hab]
  · rw [ne, resultOutcome_map]

theorem hash_outcome {a : Entity} (hw : WellRootedAt h coreEntity a.cls)
    (hr : RootCacheOk h coreEntity rt) (ha : IsEntityClass h coreEntity a.cls)
    (pkStr : K → String) (strHash : String → Int) :
    resultOutcome ((hash h coreEntity primaryKey pkStr strHash a).run rt) =
      .ok (strHash (classStr h (rootPick coreEntity (h.mro a.cls)) ++ pkStr (primaryKey a))) := by
  obtain ⟨rt', hrun, -⟩ := hw.getRootBaseClass hr ha
  rw [Model.hash, run_bind_ok hrun]; rfl

end Outcomes

-- ---------------------------------------------------------------------------
-- The caches cannot be seen
-- ---------------------------------------------------------------------------

section Unobservable

variable {h : Hierarchy} {coreEntity : ClassId} (mapper : ClassId → List MapperProperty)
  {K : Type} (primaryKey : Entity → K) (pkEq : K → K → Bool) (pkStr : K → String)
  (strHash : String → Int)

/-- Whatever entity methods ran before, `_get_root_base_class()`, `==`, `!=` and `hash()` on
instances of well-rooted classes give their caller what they give on a fresh runtime. -/
theorem root_cache_unobservable (calls : List (EntityCall h coreEntity)) :
    let rt := runCalls mapper primaryKey pkEq pkStr strHash calls
    (∀ c : EntityClass h coreEntity, WellRootedAt h coreEntity c.1 →
      resultOutcome ((getRootBaseClass h coreEntity c.1).run rt) =
        resultOutcome ((getRootBaseClass h coreEntity c.1).run Runtime.init)) ∧
    (∀ (a : EntityInstance h coreEntity) b, WellRootedAt h coreEntity a.1.cls →
      WellRootedAt h coreEntity b.cls →
      resultOutcome ((opEq h coreEntity primaryKey pkEq a.1 b).run rt) =
        resultOutcome ((opEq h coreEntity primaryKey pkEq a.1 b).run Runtime.init)) ∧
    (∀ (a : EntityInstance h coreEntity) b, WellRootedAt h coreEntity a.1.cls →
      WellRootedAt h coreEntity b.cls →
      resultOutcome ((opNe h coreEntity primaryKey pkEq a.1 b).run rt) =
        resultOutcome ((opNe h coreEntity primaryKey pkEq a.1 b).run Runtime.init)) ∧
    (∀ a : EntityInstance h coreEntity, WellRootedAt h coreEntity a.1.cls →
      resultOutcome ((hash h coreEntity primaryKey pkStr strHash a.1).run rt) =
        resultOutcome ((hash h coreEntity primaryKey pkStr strHash a.1).run Runtime.init)) := by
  intro rt
  have hr := (cachesOk_runCalls mapper primaryKey pkEq pkStr strHash calls).root
  have h0 : RootCacheOk h coreEntity Runtime.init := rootCacheOk_init
  have heq : ∀ (a : EntityInstance h coreEntity) b, WellRootedAt h coreEntity a.1.cls →
      WellRootedAt h coreEntity b.cls →
      resultOutcome ((opEq h coreEntity primaryKey pkEq a.1 b).run rt) =
        resultOutcome ((opEq h coreEntity primaryKey pkEq a.1 b).run Runtime.init) :=
    fun a b hwa hwb => by
      rw [opEq_outcome primaryKey pkEq a hwa hwb hr, opEq_outcome primaryKey pkEq a hwa hwb h0]
  refine ⟨fun c hw => ?_, heq, fun a b hwa hwb => ?_, fun a hw => ?_⟩
  · rw [getRootBaseClass_outcome hw hr c.2, getRootBaseClass_outcome hw h0 c.2]
  · rw [opNe_outcome, opNe_outcome, heq a b hwa hwb]
  · rw [hash_outcome primaryKey hw hr a.2, hash_outcome primaryKey hw h0 a.2]

theorem root_cache_unobservable_rooted :
    (∀ c < 7, WellRootedAt rootedHierarchy 3 c) ∧
      let rt := runCalls (fun _ => []) (fun _ => (1 : Nat)) (· == ·) toString (fun s => s.length)
        [(.eq ⟨⟨5, .empty⟩, by decide⟩ ⟨6, .empty⟩ : EntityCall rootedHierarchy 3)]
      (∀ c : EntityClass rootedHierarchy 3, WellRootedAt rootedHierarchy 3 c.1 →
        resultOutcome ((getRootBaseClass rootedHierarchy 3 c.1).run rt) =
          resultOutcome ((getRootBaseClass rootedHierarchy 3 c.1).run Runtime.init)) ∧
      (∀ (a : EntityInstance rootedHierarchy 3) b, WellRootedAt rootedHierarchy 3 a.1.cls →
        WellRootedAt rootedHierarchy 3 b.cls →
        resultOutcome ((opEq rootedHierarchy 3 (fun _ => (1 : Nat)) (· == ·) a.1 b).run rt) =
          resultOutcome ((opEq rootedHierarchy 3 (fun _ => (1 : Nat)) (· == ·) a.1 b).run
            Runtime.init)) ∧
      (∀ (a : EntityInstance rootedHierarchy 3) b, WellRootedAt rootedHierarchy 3 a.1.cls →
        WellRootedAt rootedHierarchy 3 b.cls →
        resultOutcome ((opNe rootedHierarchy 3 (fun _ => (1 : Nat)) (· == ·) a.1 b).run rt) =
          resultOutcome ((opNe rootedHierarchy 3 (fun _ => (1 : Nat)) (· == ·) a.1 b).run
            Runtime.init)) ∧
      (∀ a : EntityInstance rootedHierarchy 3, WellRootedAt rootedHierarchy 3 a.1.cls →
        resultOutcome ((hash rootedHierarchy 3 (fun _ => (1 : Nat)) toString (fun s => s.length)
          a.1).run rt) =
        resultOutcome ((hash rootedHierarchy 3 (fun _ => (1 : Nat)) toString (fun s => s.length)
          a.1).run Runtime.init)) :=
  ⟨by decide, root_cache_unobservable (fun _ => []) (fun _ => (1 : Nat)) (· == ·) toString
    (fun s => s.length) _⟩

end Unobservable

end Pyrin.Database.Model
