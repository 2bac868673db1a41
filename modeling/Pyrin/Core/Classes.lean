import Mathlib.Data.List.Basic
import Pyrin.Core.Dict

/-!
# Python classes

A program's classes, each with its direct bases in the order written and the `__mro__` that
`type()` stored when the class statement ran. The MRO is the C3 linearisation (`pmerge` of
CPython's `typeobject.c`): a class statement whose bases admit none, or repeat a base, raises
`TypeError`, so no such class exists. Class attributes are looked up along the MRO and set on
one class's namespace.

`mro_subset`: the MRO of every class in `C`'s MRO is contained in `C`'s.
-/

namespace Pyrin

abbrev ClassId := Nat

structure PyClass where
  name : String
  module : String
  bases : List ClassId
  mro : List ClassId
  deriving DecidableEq, Repr

-- ---------------------------------------------------------------------------
-- C3 linearisation
-- ---------------------------------------------------------------------------

/-- The first head of `seqs`, in order, that is in no tail. -/
def c3Candidate (seqs : List (List ClassId)) : Option ClassId :=
  seqs.findSome? fun
    | c :: _ => if seqs.any (c ∈ ·.tail) then none else some c
    | [] => none

def c3Pop (c : ClassId) (seqs : List (List ClassId)) : List (List ClassId) :=
  seqs.map fun s => if s.head? = some c then s.tail else s

/-- `pmerge`, with `fuel` bounding the rounds; `none` where CPython raises. -/
def c3Merge : Nat → List (List ClassId) → Option (List ClassId)
  | 0, seqs => if seqs.all (·.isEmpty) then some [] else none
  | fuel + 1, seqs =>
    if seqs.all (·.isEmpty) then some []
    else match c3Candidate seqs with
      | some c => (c3Merge fuel (c3Pop c seqs)).map (c :: ·)
      | none => none

/-- The classes left to merge; each round takes at least one off. -/
def c3Fuel (seqs : List (List ClassId)) : Nat := seqs.foldr (fun s n => s.length + n) 0

def mroOf (classes : List PyClass) (c : ClassId) : Option (List ClassId) :=
  classes[c]?.map (·.mro)

/-- `check_duplicates`: some base is listed twice. -/
def duplicateBase : List ClassId → Bool
  | [] => false
  | b :: bs => bs.contains b || duplicateBase bs

/-- `mro_implementation` for a new class `self` with direct `bases`: the merge of the bases'
MROs and the list of bases. `none` where CPython raises `TypeError`. -/
def linearize (classes : List PyClass) (self : ClassId) (bases : List ClassId) :
    Option (List ClassId) :=
  if duplicateBase bases then none
  else match bases.mapM (mroOf classes) with
    | some mros =>
      let seqs := mros ++ [bases]
      (c3Merge (c3Fuel seqs) seqs).map (self :: ·)
    | none => none

/-- The classes of a program; class `i` was created after classes `0 … i-1`, from them. -/
structure Hierarchy where
  classes : List PyClass
  wf : ∀ i (hi : i < classes.length),
    linearize (classes.take i) i (classes.get ⟨i, hi⟩).bases = some (classes.get ⟨i, hi⟩).mro

-- ---------------------------------------------------------------------------
-- What the merge keeps
-- ---------------------------------------------------------------------------

theorem c3Candidate_head {seqs : List (List ClassId)} {c : ClassId}
    (h : c3Candidate seqs = some c) : ∃ s ∈ seqs, s.head? = some c := by
  obtain ⟨s, hs, hf⟩ := List.exists_of_findSome?_eq_some h
  refine ⟨s, hs, ?_⟩
  cases s with
  | nil => cases hf
  | cons d t =>
    simp only at hf
    split at hf
    · cases hf
    · cases hf; rfl

theorem mem_c3Pop {c : ClassId} {seqs : List (List ClassId)} {s' : List ClassId}
    (h : s' ∈ c3Pop c seqs) : ∃ s ∈ seqs, ∀ x ∈ s', x ∈ s := by
  obtain ⟨s, hs, rfl⟩ := List.mem_map.mp h
  refine ⟨s, hs, fun x hx => ?_⟩
  split at hx
  · exact List.mem_of_mem_tail hx
  · exact hx

theorem eq_nil_of_all_isEmpty {seqs : List (List ClassId)} (h : seqs.all (·.isEmpty) = true)
    {s : List ClassId} (hs : s ∈ seqs) : s = [] :=
  List.isEmpty_iff.mp (List.all_eq_true.mp h s hs)

theorem c3Merge_subset : ∀ {fuel : Nat} {seqs : List (List ClassId)} {out : List ClassId},
    c3Merge fuel seqs = some out → ∀ x ∈ out, ∃ s ∈ seqs, x ∈ s
  | 0, seqs, out, h, x, hx => by
    simp only [c3Merge] at h
    split at h
    · cases h; cases hx
    · cases h
  | fuel + 1, seqs, out, h, x, hx => by
    simp only [c3Merge] at h
    split at h
    · cases h; cases hx
    · split at h
      · rename_i c hc
        obtain ⟨out', ho, rfl⟩ := Option.map_eq_some'.mp h
        rcases List.mem_cons.mp hx with rfl | hx
        · obtain ⟨s, hs, hh⟩ := c3Candidate_head hc
          exact ⟨s, hs, List.mem_of_mem_head? hh⟩
        · obtain ⟨s', hs', hx'⟩ := c3Merge_subset ho x hx
          obtain ⟨s, hs, hsub⟩ := mem_c3Pop hs'
          exact ⟨s, hs, hsub x hx'⟩
      · cases h

theorem c3Merge_superset : ∀ {fuel : Nat} {seqs : List (List ClassId)} {out : List ClassId},
    c3Merge fuel seqs = some out → ∀ s ∈ seqs, ∀ x ∈ s, x ∈ out
  | 0, seqs, out, h, s, hs, x, hx => by
    simp only [c3Merge] at h
    split at h
    · rename_i he; rw [eq_nil_of_all_isEmpty he hs] at hx; cases hx
    · cases h
  | fuel + 1, seqs, out, h, s, hs, x, hx => by
    simp only [c3Merge] at h
    split at h
    · rename_i he; rw [eq_nil_of_all_isEmpty he hs] at hx; cases hx
    · split at h
      · rename_i c _
        obtain ⟨out', ho, rfl⟩ := Option.map_eq_some'.mp h
        have hpop : (if s.head? = some c then s.tail else s) ∈ c3Pop c seqs :=
          List.mem_map.mpr ⟨s, hs, rfl⟩
        by_cases hh : s.head? = some c
        · cases s with
          | nil => cases hx
          | cons d t =>
            cases hh
            rcases List.mem_cons.mp hx with rfl | hx
            · exact List.mem_cons_self _ _
            · have ht : t ∈ c3Pop c seqs := by simpa using hpop
              exact List.mem_cons_of_mem _ (c3Merge_superset ho _ ht x hx)
        · rw [if_neg hh] at hpop
          exact List.mem_cons_of_mem _ (c3Merge_superset ho _ hpop x hx)
      · cases h

theorem mapM_mroOf {classes : List PyClass} :
    ∀ {bases : List ClassId} {mros : List (List ClassId)},
      bases.mapM (mroOf classes) = some mros →
        (∀ s ∈ mros, ∃ b ∈ bases, mroOf classes b = some s) ∧
          ∀ b ∈ bases, ∃ s ∈ mros, mroOf classes b = some s
  | [], mros, h => by cases h; simp
  | b :: bs, mros, h => by
    simp only [List.mapM_cons, Option.bind_eq_bind, Option.bind_eq_some, Option.pure_def,
      Option.some.injEq] at h
    obtain ⟨s, hs, ss, hss, rfl⟩ := h
    obtain ⟨ih₁, ih₂⟩ := mapM_mroOf hss
    constructor
    · intro s' hs'
      rcases List.mem_cons.mp hs' with rfl | hs'
      · exact ⟨b, List.mem_cons_self _ _, hs⟩
      · obtain ⟨b', hb', h'⟩ := ih₁ s' hs'
        exact ⟨b', List.mem_cons_of_mem _ hb', h'⟩
    · intro b' hb'
      rcases List.mem_cons.mp hb' with rfl | hb'
      · exact ⟨s, List.mem_cons_self _ _, hs⟩
      · obtain ⟨s', hs', h'⟩ := ih₂ b' hb'
        exact ⟨s', List.mem_cons_of_mem _ hs', h'⟩

/-- The MRO `type()` computes: the class itself, then the merge of its bases' MROs and its
bases. -/
theorem linearize_spec {classes : List PyClass} {self : ClassId} {bases out : List ClassId}
    (h : linearize classes self bases = some out) :
    ∃ mros merged, bases.mapM (mroOf classes) = some mros ∧
      c3Merge (c3Fuel (mros ++ [bases])) (mros ++ [bases]) = some merged ∧
      out = self :: merged := by
  unfold linearize at h
  split at h
  · cases h
  · split at h
    · rename_i mros hm
      obtain ⟨merged, hmerge, rfl⟩ := Option.map_eq_some'.mp h
      exact ⟨mros, merged, hm, hmerge, rfl⟩
    · cases h

theorem mroOf_take {classes : List PyClass} {i b : ClassId} {s : List ClassId}
    (h : mroOf (classes.take i) b = some s) : b < i ∧ mroOf classes b = some s := by
  unfold mroOf at h ⊢
  by_cases hb : b < i
  · rw [List.getElem?_take_of_lt hb] at h; exact ⟨hb, h⟩
  · have hl : (classes.take i).length ≤ b := by
      rw [List.length_take]; exact le_trans (min_le_left _ _) (Nat.le_of_not_lt hb)
    rw [List.getElem?_eq_none hl] at h; cases h

namespace Hierarchy

variable (h : Hierarchy)

def mro (c : ClassId) : List ClassId := (h.classes[c]?.map (·.mro)).getD []

def bases (c : ClassId) : List ClassId := (h.classes[c]?.map (·.bases)).getD []

/-- `getattr(cls, name)` for an attribute kept in `ns`, one entry per class namespace that
holds it: the value of the first class of the MRO that has one. -/
def lookupAttr {α : Type} (ns : Dict ClassId α) (c : ClassId) : Option α :=
  (h.mro c).findSome? ns.get?

theorem mro_eq {c : ClassId} {s : List ClassId} (hs : mroOf h.classes c = some s) :
    h.mro c = s := by
  simp only [mro]; unfold mroOf at hs; rw [hs]; rfl

/-- The MRO of every class is the class followed by a merge of its bases' MROs and bases. -/
theorem mro_spec {c : ClassId} (hc : c < h.classes.length) :
    ∃ mros merged, (h.bases c).mapM (mroOf (h.classes.take c)) = some mros ∧
      c3Merge (c3Fuel (mros ++ [h.bases c])) (mros ++ [h.bases c]) = some merged ∧
      h.mro c = c :: merged := by
  have hw := h.wf c hc
  have hget : h.classes[c]? = some (h.classes.get ⟨c, hc⟩) := List.getElem?_eq_getElem hc
  simp only [mro, bases, hget, Option.map_some', Option.getD_some]
  exact linearize_spec hw

theorem mem_mro_self {c : ClassId} (hc : c < h.classes.length) : c ∈ h.mro c := by
  obtain ⟨_, _, _, _, he⟩ := h.mro_spec hc
  rw [he]; exact List.mem_cons_self _ _

/-- An attribute just set on `c`, where no class of its MRO had one, is what `c` finds. -/
theorem lookupAttr_set_self {α : Type} {ns : Dict ClassId α} {c : ClassId} (v : α)
    (hc : c < h.classes.length) (hn : h.lookupAttr ns c = none) :
    h.lookupAttr (ns.set c v) c = some v := by
  have hm := h.mem_mro_self hc
  unfold lookupAttr at hn ⊢
  rw [List.findSome?_eq_none_iff] at hn
  generalize h.mro c = l at hm hn ⊢
  induction l with
  | nil => cases hm
  | cons d ds ih =>
    rw [List.findSome?_cons, Dict.get?_set]
    by_cases hd : d = c
    · rw [if_pos hd]
    · rw [if_neg hd, hn d (List.mem_cons_self _ _)]
      exact ih ((List.mem_cons.mp hm).resolve_left (Ne.symm hd))
        fun x hx => hn x (List.mem_cons_of_mem _ hx)

theorem lt_of_mem_mro {c d : ClassId} (hd : d ∈ h.mro c) : c < h.classes.length := by
  by_contra hc
  simp [mro, List.getElem?_eq_none (Nat.le_of_not_lt hc)] at hd

/-- A class comes after every class of its MRO: the hierarchy has no cycle. -/
theorem le_of_mem_mro : ∀ {c d : ClassId}, d ∈ h.mro c → d ≤ c
  | c, d, hd => by
    obtain ⟨mros, merged, hm, hmerge, he⟩ := h.mro_spec (h.lt_of_mem_mro hd)
    obtain ⟨hm₁, hm₂⟩ := mapM_mroOf hm
    rw [he] at hd
    rcases List.mem_cons.mp hd with rfl | hd
    · exact le_refl _
    obtain ⟨s, hs, hds⟩ := c3Merge_subset hmerge d hd
    rcases List.mem_append.mp hs with hs | hs
    · obtain ⟨b, -, hb⟩ := hm₁ s hs
      obtain ⟨hbc, hb⟩ := mroOf_take hb
      exact le_trans (le_of_mem_mro (h.mro_eq hb ▸ hds)) (le_of_lt hbc)
    · rw [List.mem_singleton.mp hs] at hds
      obtain ⟨s', -, hd'⟩ := hm₂ d hds
      exact le_of_lt (mroOf_take hd').1
  termination_by c => c
  decreasing_by exact hbc

/-- `issubclass` is transitive: the MRO of a class in `c`'s MRO lies in `c`'s MRO. -/
theorem mro_subset : ∀ {c d : ClassId}, d ∈ h.mro c → ∀ x ∈ h.mro d, x ∈ h.mro c
  | c, d, hd, x, hx => by
    obtain ⟨mros, merged, hm, hmerge, he⟩ := h.mro_spec (h.lt_of_mem_mro hd)
    obtain ⟨hm₁, hm₂⟩ := mapM_mroOf hm
    rw [he] at hd ⊢
    rcases List.mem_cons.mp hd with rfl | hd
    · rwa [he] at hx
    obtain ⟨s, hs, hds⟩ := c3Merge_subset hmerge d hd
    rcases List.mem_append.mp hs with hs | hs
    · obtain ⟨b, -, hb⟩ := hm₁ s hs
      obtain ⟨hbc, hb⟩ := mroOf_take hb
      have ih := mro_subset (h.mro_eq hb ▸ hds) x hx
      rw [h.mro_eq hb] at ih
      exact List.mem_cons_of_mem _ (c3Merge_superset hmerge s (List.mem_append_left _ hs) x ih)
    · rw [List.mem_singleton.mp hs] at hds
      obtain ⟨s', hs', hd'⟩ := hm₂ d hds
      obtain ⟨-, hd'⟩ := mroOf_take hd'
      rw [h.mro_eq hd'] at hx
      exact List.mem_cons_of_mem _ (c3Merge_superset hmerge s' (List.mem_append_left _ hs') x hx)
  termination_by c => c
  decreasing_by exact hbc

end Hierarchy

end Pyrin
