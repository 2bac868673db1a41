import Mathlib.Data.List.Perm.Basic
import Pyrin.Core.Value

/-!
# Replacing values in files

`replace_file_values` folds `str.replace` over `data.items()` and writes the result back;
`replace_files_values` does so for every file `os.walk` visits. The result depends on the order
of `data`: a value can contain another key, and a replacement can delete or build an
occurrence of another key. It does not when no two entries can touch each other's
occurrences (`Independent`), which is what `replaceValues_perm` proves.

Files hold bytes, and `open` in text mode decodes them with the locale's codec and reads any
line end as `\n`: a file that does not decode raises, and rewriting a file turns its line ends
into `os.linesep` even where no key occurs (`rewrite`).

`replace_files_values` is one loop over the matching files (`replaceFilesValues_run`). The
replacement is not idempotent, so a file the walk lists twice is rewritten twice
(`forM_replaceFileValues`); files are known by path, and two paths to one file through a
symbolic link, which `followlinks=True` can give, are not modelled.
-/

namespace Pyrin.Utils.File

-- ---------------------------------------------------------------------------
-- `str.replace`
-- ---------------------------------------------------------------------------

/-- The scan of `str.replace` for a non-empty `old`; `skip` characters of the occurrence just
replaced are still to be passed over. -/
def replaceScan (old new : List Char) : Nat → List Char → List Char
  | _, [] => []
  | skip + 1, _ :: cs => replaceScan old new skip cs
  | 0, c :: cs =>
    if old.isPrefixOf (c :: cs) then new ++ replaceScan old new (old.length - 1) cs
    else c :: replaceScan old new 0 cs

/-- `s.replace(old, new)`: the occurrences of `old`, left to right and not overlapping, become
`new`; an empty `old` puts `new` before every character and at the end. -/
def replace (s old new : String) : String :=
  if old = "" then ⟨(s.data.flatMap fun c => new.data ++ [c]) ++ new.data⟩
  else ⟨replaceScan old.data new.data 0 s.data⟩

section Scan

variable {k v : List Char}

@[simp] theorem replaceScan_nil (n : Nat) : replaceScan k v n [] = [] := by
  cases n <;> rfl

theorem replaceScan_skip (xs r : List Char) :
    replaceScan k v xs.length (xs ++ r) = replaceScan k v 0 r := by
  induction xs with
  | nil => rfl
  | cons x xs ih => exact ih

theorem replaceScan_key_append (hk : k ≠ []) (r : List Char) :
    replaceScan k v 0 (k ++ r) = v ++ replaceScan k v 0 r := by
  obtain ⟨c, ks, rfl⟩ := List.exists_cons_of_ne_nil hk
  simp [replaceScan, List.isPrefixOf_iff_prefix, replaceScan_skip]

theorem replaceScan_cons_of_no_match {c : Char} {s : List Char} (h : ¬ k <+: c :: s) :
    replaceScan k v 0 (c :: s) = c :: replaceScan k v 0 s := by
  simp [replaceScan, List.isPrefixOf_iff_prefix, h]

theorem replaceScan_cons_of_match {c : Char} {s : List Char} (hk : k ≠ []) (h : k <+: c :: s) :
    ∃ u, c :: s = k ++ u ∧ replaceScan k v 0 (c :: s) = v ++ replaceScan k v 0 u := by
  obtain ⟨u, hu⟩ := h
  exact ⟨u, hu.symm, by rw [← hu, replaceScan_key_append hk]⟩

theorem not_prefix_of_not_mem (hk : k ≠ []) {c : Char} (hc : c ∉ k) (s : List Char) :
    ¬ k <+: c :: s := by
  obtain ⟨d, ks, rfl⟩ := List.exists_cons_of_ne_nil hk
  rintro ⟨u, hu⟩
  simp only [List.cons_append, List.cons.injEq] at hu
  exact hc (hu.1 ▸ List.mem_cons_self d ks)

theorem replaceScan_append_of_disjoint (hk : k ≠ []) {w : List Char} (hw : ∀ c ∈ w, c ∉ k)
    (s : List Char) : replaceScan k v 0 (w ++ s) = w ++ replaceScan k v 0 s := by
  induction w with
  | nil => rfl
  | cons c w ih =>
    rw [List.cons_append, replaceScan_cons_of_no_match (not_prefix_of_not_mem hk
      (hw c (List.mem_cons_self c w)) _), ih fun d hd => hw d (List.mem_cons_of_mem c hd)]
    rfl

/-- An occurrence of `k` could start inside `w`: some non-empty suffix of `w` begins with `k`
or is the start of `k`. -/
def Touches (k w : List Char) : Prop :=
  ∃ w' ∈ w.tails, w' ≠ [] ∧ (k <+: w' ∨ w' <+: k)

instance (k w : List Char) : Decidable (Touches k w) :=
  inferInstanceAs (Decidable (∃ w' ∈ w.tails, _))

theorem replaceScan_append_of_not_touches {w : List Char} (hw : ¬ Touches k w) (s : List Char) :
    replaceScan k v 0 (w ++ s) = w ++ replaceScan k v 0 s := by
  induction w with
  | nil => rfl
  | cons c w ih =>
    have hc : ¬ k <+: c :: (w ++ s) := fun h =>
      hw ⟨c :: w, List.mem_cons_self _ _, List.cons_ne_nil c w,
        List.prefix_or_prefix_of_prefix h (List.prefix_append (c :: w) s)⟩
    rw [List.cons_append, replaceScan_cons_of_no_match hc,
      ih fun ⟨w', hw', hne, h⟩ => hw ⟨w', List.mem_cons_of_mem _ hw', hne, h⟩]
    rfl

/-- A non-empty replacement sharing no character with `w` cannot help build `w`: a prefix `w`
of the replaced text is a prefix of the original. -/
theorem prefix_of_prefix_replaceScan (hv : v ≠ []) {w : List Char} (hw : ∀ c ∈ w, c ∉ v) :
    ∀ {t : List Char}, w <+: replaceScan k v 0 t → w <+: t
  | [], h => by simpa using h
  | d :: t, h => by
    by_cases hp : k.isPrefixOf (d :: t)
    · simp only [replaceScan, hp, if_true] at h
      cases w with
      | nil => exact List.nil_prefix
      | cons e w =>
        obtain ⟨f, vs, rfl⟩ := List.exists_cons_of_ne_nil hv
        have he : e = f := (List.cons_prefix_cons.mp (by simpa using h)).1
        exact absurd (he ▸ List.mem_cons_self f vs) (hw e (List.mem_cons_self e w))
    · simp only [replaceScan, hp, Bool.false_eq_true, if_false] at h
      cases w with
      | nil => exact List.nil_prefix
      | cons e w =>
        obtain ⟨rfl, hw'⟩ := List.cons_prefix_cons.mp h
        exact List.cons_prefix_cons.mpr ⟨rfl,
          prefix_of_prefix_replaceScan hv (fun c hc => hw c (List.mem_cons_of_mem e hc)) hw'⟩

theorem prefix_cons_of_prefix_cons_replaceScan (hv : v ≠ []) {w : List Char}
    (hw : ∀ c ∈ w, c ∉ v) {c : Char} {t : List Char} (h : w <+: c :: replaceScan k v 0 t) :
    w <+: c :: t := by
  cases w with
  | nil => exact List.nil_prefix
  | cons e w =>
    obtain ⟨rfl, hw'⟩ := List.cons_prefix_cons.mp h
    exact List.cons_prefix_cons.mpr
      ⟨rfl, prefix_of_prefix_replaceScan hv (fun d hd => hw d (List.mem_cons_of_mem e hd)) hw'⟩

end Scan

section Commute

variable {k₁ v₁ k₂ v₂ : List Char} (hk₁ : k₁ ≠ []) (hk₂ : k₂ ≠ []) (hv₁ : v₁ ≠ [])
  (hv₂ : v₂ ≠ []) (hkk₁ : ¬ Touches k₂ k₁) (hkk₂ : ¬ Touches k₁ k₂) (hkv₁ : ∀ c ∈ k₂, c ∉ v₁)
  (hkv₂ : ∀ c ∈ k₁, c ∉ v₂)

include hk₁ hk₂ hv₁ hv₂ hkk₁ hkk₂ hkv₁ hkv₂ in
/-- Two replacements commute when neither key can start inside the other and neither value has
a character of the other's key: neither can create, destroy or cut an occurrence of the
other's key. -/
theorem replaceScan_comm (s : List Char) :
    replaceScan k₂ v₂ 0 (replaceScan k₁ v₁ 0 s) = replaceScan k₁ v₁ 0 (replaceScan k₂ v₂ 0 s) := by
  induction' hn : s.length using Nat.strong_induction_on with n ih generalizing s
  match s with
  | [] => simp
  | c :: t =>
    by_cases h₁ : k₁ <+: c :: t
    · obtain ⟨u, hu, hr⟩ := replaceScan_cons_of_match (v := v₁) hk₁ h₁
      have hlt : u.length < n := by
        have := List.length_pos.mpr hk₁
        rw [← hn, hu, List.length_append]; omega
      rw [hr, replaceScan_append_of_disjoint hk₂ (fun c hc h => hkv₁ c h hc), hu,
        replaceScan_append_of_not_touches hkk₁, replaceScan_key_append hk₁, ih _ hlt u rfl]
    by_cases h₂ : k₂ <+: c :: t
    · obtain ⟨u, hu, hr⟩ := replaceScan_cons_of_match (v := v₂) hk₂ h₂
      have hlt : u.length < n := by
        have := List.length_pos.mpr hk₂
        rw [← hn, hu, List.length_append]; omega
      rw [hr, replaceScan_append_of_disjoint hk₁ (fun c hc h => hkv₂ c h hc), hu,
        replaceScan_append_of_not_touches hkk₂, replaceScan_key_append hk₂, ih _ hlt u rfl]
    have h₁' : ¬ k₁ <+: c :: replaceScan k₂ v₂ 0 t :=
      fun h => h₁ (prefix_cons_of_prefix_cons_replaceScan hv₂ hkv₂ h)
    have h₂' : ¬ k₂ <+: c :: replaceScan k₁ v₁ 0 t :=
      fun h => h₂ (prefix_cons_of_prefix_cons_replaceScan hv₁ hkv₁ h)
    have hlt : t.length < n := by rw [← hn]; exact Nat.lt_succ_self _
    rw [replaceScan_cons_of_no_match h₁, replaceScan_cons_of_no_match h₂,
      replaceScan_cons_of_no_match h₁', replaceScan_cons_of_no_match h₂', ih _ hlt t rfl]

end Commute

theorem data_ne_nil {s : String} (h : s ≠ "") : s.data ≠ [] := by
  intro hs; apply h; cases s; simp_all

theorem replace_of_ne {s old : String} (new : String) (h : old ≠ "") :
    replace s old new = ⟨replaceScan old.data new.data 0 s.data⟩ := by
  simp [replace, h]

-- ---------------------------------------------------------------------------
-- The loop of `replace_file_values`
-- ---------------------------------------------------------------------------

def replaceValues (fileData : String) (items : List (String × String)) : String :=
  items.foldl (fun acc kv => replace acc kv.1 kv.2) fileData

/-- Replacing entry `a` keeps every occurrence of entry `b`'s key and makes no new one: `a`'s
key and value are non-empty, no occurrence of `b`'s key can start inside `a`'s key, and `a`'s
value has no character of `b`'s key. -/
def Independent (a b : String × String) : Prop :=
  a.1 ≠ "" ∧ a.2 ≠ "" ∧ ¬ Touches b.1.data a.1.data ∧ ∀ c ∈ b.1.data, c ∉ a.2.data

instance (a b : String × String) : Decidable (Independent a b) :=
  inferInstanceAs (Decidable (_ ∧ _ ∧ _ ∧ _))

/-- Placeholders of one template, which share their braces, are independent. -/
example : Independent ("{{name}}", "Bob") ("{{title}}", "Dr") ∧
    Independent ("{{title}}", "Dr") ("{{name}}", "Bob") := by
  decide

theorem replace_comm {a b : String × String} (hab : Independent a b) (hba : Independent b a)
    (s : String) : replace (replace s a.1 a.2) b.1 b.2 = replace (replace s b.1 b.2) a.1 a.2 := by
  obtain ⟨ha₁, ha₂, hta, hb⟩ := hab
  obtain ⟨hb₁, hb₂, htb, ha⟩ := hba
  simp only [replace_of_ne _ ha₁, replace_of_ne _ hb₁]
  exact congrArg String.mk <| replaceScan_comm (data_ne_nil ha₁) (data_ne_nil hb₁) (data_ne_nil ha₂)
    (data_ne_nil hb₂) hta htb hb ha _

/-- The order of `data` matters: a value that is another key is replaced again when that key
comes later. -/
theorem replaceValues_order_matters :
    [("a", "b"), ("b", "c")].Perm [("b", "c"), ("a", "b")] ∧
      replaceValues "a" [("a", "b"), ("b", "c")] = "c" ∧
      replaceValues "a" [("b", "c"), ("a", "b")] = "b" := by
  decide

theorem replaceValues_perm {l₁ l₂ : List (String × String)} (hp : l₁.Perm l₂)
    (hi : ∀ a ∈ l₁, ∀ b ∈ l₁, a ≠ b → Independent a b) (fileData : String) :
    replaceValues fileData l₁ = replaceValues fileData l₂ := by
  refine hp.foldl_eq' (fun a ha b hb z => ?_) fileData
  by_cases h : a = b
  · subst h; rfl
  · exact replace_comm (hi a ha b hb h) (hi b hb a ha (Ne.symm h)) z
-- ---------------------------------------------------------------------------
-- Files
-- ---------------------------------------------------------------------------

abbrev FileSystem := Dict String (List UInt8)

inductive FileError where
  /-- Raised by `path_utils.assert_exists`. -/
  | path (message : String)
  | isNotDirectory (message : String)
  /-- `open` of a path that is not a file. -/
  | io (path : String)
  /-- `UnicodeDecodeError` reading `path`; the codec words the message. -/
  | decode (path : String)
  /-- `UnicodeEncodeError` writing `path`. -/
  | encode (path : String)
  deriving DecidableEq, Repr

/-- What the code calls of `os`, of `pyrin.utils.path` and of the text layer of `open`, none
under src/. `walk` lists, for each directory `os.walk` visits, its path and the names of its
files; `decode` and `encode` are the locale's codec, `none` where it fails; `linesep` is
`os.linesep`. -/
structure Os where
  assertExists : FileSystem → String → Option FileError
  isdir : FileSystem → String → Bool
  walk : FileSystem → String → List (String × List String)
  abspathJoin : String → String → String
  decode : List UInt8 → Option String
  encode : String → Option (List UInt8)
  linesep : String

/-- Universal newlines on reading: `\r\n` and a lone `\r` become `\n`. -/
def translateNewlines : List Char → List Char
  | '\r' :: '\n' :: cs => '\n' :: translateNewlines cs
  | '\r' :: cs => '\n' :: translateNewlines cs
  | c :: cs => c :: translateNewlines cs
  | [] => []

def writeNewlines (linesep text : String) : String :=
  ⟨text.data.flatMap fun c => if c = '\n' then linesep.data else [c]⟩

section Files

variable (os : Os) (lower : String → String)

def assertExists (source : String) : EStateM FileError FileSystem Unit := do
  match os.assertExists (← get) source with
  | some e => throw e
  | none => pure ()

def readFile (path : String) : EStateM FileError FileSystem String := do
  match (← get).get? path with
  | none => throw (.io path)
  | some bytes => match os.decode bytes with
    | none => throw (.decode path)
    | some text => pure ⟨translateNewlines text.data⟩

/-- `open(path, 'w').write(content)`: opening empties the file before the text is encoded. -/
def writeFile (path content : String) : EStateM FileError FileSystem Unit := do
  modify fun fs => fs.set path []
  match os.encode (writeNewlines os.linesep content) with
  | none => throw (.encode path)
  | some bytes => modify fun fs => fs.set path bytes

def replaceFileValues (source : String) (data : Option (Dict String String)) :
    EStateM FileError FileSystem Unit := do
  assertExists os source
  if let some d := data then
    if d.entries.length > 0 then
      let fileData ← readFile os source
      writeFile os source (replaceValues fileData d.entries)

/-- `is_match(source, *patterns)`; `lower` is `str.lower`. -/
def isMatch (source : String) (patterns : List String) : Bool :=
  if patterns.length ≤ 0 then true
  else patterns.any fun pattern => (lower source).endsWith (lower pattern)

def replaceFilesValues (source : String) (data : Option (Dict String String))
    (patterns : List String) : EStateM FileError FileSystem Unit := do
  assertExists os source
  if !os.isdir (← get) source then
    throw (.isNotDirectory ("Provided path [" ++ source ++ "] is not a directory."))
  for (path, files) in os.walk (← get) source do
    for name in files do
      if isMatch lower name patterns then
        replaceFileValues os (os.abspathJoin path name) data

end Files

/-- Two dicts with the same independent pairs make `replace_file_values` write the same
content, whatever their order, and `replace_files_values` the same for every file it visits. -/
theorem replace_file_values_perm (os : Os) (lower : String → String)
    {d₁ d₂ : Dict String String} (hp : d₁.entries.Perm d₂.entries)
    (hi : ∀ a ∈ d₁.entries, ∀ b ∈ d₁.entries, a ≠ b → Independent a b) :
    (∀ source, replaceFileValues os source (some d₁) = replaceFileValues os source (some d₂)) ∧
      ∀ source patterns, replaceFilesValues os lower source (some d₁) patterns =
        replaceFilesValues os lower source (some d₂) patterns := by
  have hf : ∀ source, replaceFileValues os source (some d₁) =
      replaceFileValues os source (some d₂) := by
    intro source
    simp only [replaceFileValues, hp.length_eq, replaceValues_perm hp hi]
  exact ⟨hf, fun source patterns => by simp only [replaceFilesValues, hf]⟩

/-- Latin-1, which decodes every byte and encodes the first 256 code points. -/
def latin1Os (isdir : FileSystem → String → Bool) (walk : FileSystem → String → List (String × List String)) : Os :=
  ⟨fun _ _ => none, isdir, walk, fun p n => p ++ "/" ++ n,
    fun bytes => some ⟨bytes.map fun b => Char.ofNat b.toNat⟩,
    fun text => if text.data.all (·.toNat < 256) then some (text.data.map (·.toNat.toUInt8))
      else none,
    "\n"⟩

def flatOs : Os := latin1Os (fun _ _ => false) fun _ _ => []

theorem replace_file_values_perm_two_keys :
    let d₁ : Dict String String := ⟨[("X", "1"), ("Y", "2")], by decide⟩
    let d₂ : Dict String String := ⟨[("Y", "2"), ("X", "1")], by decide⟩
    d₁.entries.Perm d₂.entries ∧
      (∀ a ∈ d₁.entries, ∀ b ∈ d₁.entries, a ≠ b → Independent a b) ∧
      (∀ source, replaceFileValues flatOs source (some d₁) =
        replaceFileValues flatOs source (some d₂)) ∧
      ∀ source patterns, replaceFilesValues flatOs id source (some d₁) patterns =
        replaceFilesValues flatOs id source (some d₂) patterns :=
  ⟨by decide, by decide, replace_file_values_perm flatOs id (by decide) (by decide)⟩

-- ---------------------------------------------------------------------------
-- Which files `replace_files_values` rewrites, and how
-- ---------------------------------------------------------------------------

section Walk

variable (os : Os) (lower : String → String)

/-- The paths `replace_files_values` hands to `replace_file_values`, in order: each file that
`os.walk` lists under `source` and whose name matches a pattern. -/
def matchingFiles (fs : FileSystem) (source : String) (patterns : List String) : List String :=
  (os.walk fs source).flatMap fun entry =>
    (entry.2.filter fun name => isMatch lower name patterns).map (os.abspathJoin entry.1)

def dataEntries (data : Option (Dict String String)) : List (String × String) :=
  (data.map Dict.entries).getD []

/-- The bytes `replace_file_values` leaves in a file, if it can decode them and encode what it
writes back; with nothing to replace it does not open the file. -/
def rewrite (entries : List (String × String)) (bytes : List UInt8) : Option (List UInt8) :=
  if entries = [] then some bytes
  else (os.decode bytes).bind fun text =>
    os.encode (writeNewlines os.linesep (replaceValues ⟨translateNewlines text.data⟩ entries))

/-- A key that is not there still turns Windows line ends into the platform's. -/
example : rewrite flatOs [("Y", "2")] [88, 13, 10] = some [88, 10] := by decide

def rewriteN (entries : List (String × String)) : Nat → List UInt8 → Option (List UInt8)
  | 0, bytes => some bytes
  | n + 1, bytes => (rewrite os entries bytes).bind (rewriteN entries n)

theorem rewriteN_add (entries : List (String × String)) (m n : Nat) :
    rewriteN os entries (m + n) =
      fun bytes => (rewriteN os entries m bytes).bind (rewriteN os entries n) := by
  induction m with
  | zero => funext bytes; rw [Nat.zero_add]; rfl
  | succ m ih => funext bytes; simp only [Nat.add_right_comm m 1 n, rewriteN, ih, Option.bind_assoc]

theorem exists_rewrite_of_isSome {entries : List (String × String)} {n : Nat}
    {file : Option (List UInt8)} (h : (file.bind (rewriteN os entries (n + 1))).isSome) :
    ∃ bytes bytes', file = some bytes ∧ rewrite os entries bytes = some bytes' := by
  cases file with
  | none => simp at h
  | some bytes =>
    cases hr : rewrite os entries bytes with
    | none => simp [rewriteN, hr] at h
    | some bytes' => exact ⟨bytes, bytes', rfl, hr⟩

theorem rewriteN_nil (n : Nat) (bytes : List UInt8) : rewriteN os [] n bytes = some bytes := by
  induction n with
  | zero => rfl
  | succ n ih => exact ih

theorem assertExists_run (source : String) (fs : FileSystem) :
    (assertExists os source).run fs = match os.assertExists fs source with
      | some e => .error e fs
      | none => .ok () fs := by
  simp only [assertExists, run_get_bind]
  cases os.assertExists fs source <;> rfl

theorem readFile_run {path : String} {fs : FileSystem} {bytes : List UInt8} {text : String}
    (hb : fs.get? path = some bytes) (ht : os.decode bytes = some text) :
    (readFile os path).run fs = .ok ⟨translateNewlines text.data⟩ fs := by
  rw [readFile, run_get_bind, hb]
  dsimp only
  rw [ht]; rfl

theorem writeFile_run {path content : String} {fs : FileSystem} {bytes : List UInt8}
    (he : os.encode (writeNewlines os.linesep content) = some bytes) :
    (writeFile os path content).run fs = .ok () ((fs.set path []).set path bytes) := by
  unfold writeFile
  rw [he]; rfl

/-- The two nested loops of `replace_files_values` are one loop over `matchingFiles`, after the
checks on `source`, which raise without touching a file. -/
theorem replaceFilesValues_run (source : String) (data : Option (Dict String String))
    (patterns : List String) (fs : FileSystem) :
    (replaceFilesValues os lower source data patterns).run fs =
      match os.assertExists fs source with
      | some e => .error e fs
      | none =>
        if os.isdir fs source then
          ((matchingFiles os lower fs source patterns).forM fun p => replaceFileValues os p data).run fs
        else .error (.isNotDirectory ("Provided path [" ++ source ++ "] is not a directory.")) fs := by
  unfold replaceFilesValues
  cases hs : os.assertExists fs source with
  | some e => exact run_bind_error (by rw [assertExists_run, hs])
  | none =>
    rw [run_bind_ok (by rw [assertExists_run, hs]), run_get_bind]
    by_cases hd : os.isdir fs source
    · simp only [hd, Bool.not_true, Bool.false_eq_true, if_false, if_true]
      rw [run_bind_ok (run_pure _), run_get_bind, run_bind_pure_unit, matchingFiles,
        run_forM_flatMap]
      refine run_forIn_yield _ _ _ (fun entry s => ?_) fs
      rw [run_bind_yield, run_forIn_yield entry.2 _ (fun name =>
        if isMatch lower name patterns then replaceFileValues os (os.abspathJoin entry.1 name) data
        else pure ⟨⟩) (fun name t => ?_) s, run_forM_filter_map entry.2
        (fun name => isMatch lower name patterns) (os.abspathJoin entry.1)
        (fun p => replaceFileValues os p data) s]
      by_cases hc : isMatch lower name patterns = true
      · simp only [hc, if_true]; exact run_bind_const _ _ t
      · simp only [hc, if_false, Bool.false_eq_true]; rfl
    · simp only [Bool.not_eq_true] at hd
      simp only [hd, Bool.not_false, if_true, if_false, Bool.false_eq_true, run_throw_bind]

/-- `fs'` is `fs` with each path of `paths` rewritten once for every time it occurs in `paths`;
no file is added or removed. -/
structure Replaced (entries : List (String × String)) (paths : List String)
    (fs fs' : FileSystem) : Prop where
  keys : fs'.keys = fs.keys
  contents : ∀ q, fs'.get? q = (fs.get? q).bind (rewriteN os entries (paths.count q))

theorem Replaced.nil (entries : List (String × String)) (fs : FileSystem) :
    Replaced os entries [] fs fs :=
  ⟨rfl, fun q => by cases fs.get? q <;> rfl⟩

theorem Replaced.of_entries_nil (paths : List String) (fs : FileSystem) :
    Replaced os [] paths fs fs :=
  ⟨rfl, fun q => by cases fs.get? q <;> simp [rewriteN_nil]⟩

theorem Replaced.append {entries : List (String × String)} {ps qs : List String}
    {fs fs₁ fs₂ : FileSystem} (h₁ : Replaced os entries ps fs fs₁)
    (h₂ : Replaced os entries qs fs₁ fs₂) : Replaced os entries (ps ++ qs) fs fs₂ :=
  ⟨h₂.keys.trans h₁.keys, fun q => by
    rw [h₂.contents, h₁.contents, Option.bind_assoc, List.count_append, rewriteN_add]⟩

theorem replaceFileValues_replaced {p : String} {fs : FileSystem} {bytes bytes' : List UInt8}
    (data : Option (Dict String String)) (hp : os.assertExists fs p = none)
    (hb : fs.get? p = some bytes) (hr : rewrite os (dataEntries data) bytes = some bytes') :
    ∃ fs', (replaceFileValues os p data).run fs = .ok () fs' ∧
      Replaced os (dataEntries data) [p] fs fs' := by
  unfold replaceFileValues
  rw [run_bind_ok (by rw [assertExists_run, hp])]
  cases data with
  | none => exact ⟨fs, rfl, .of_entries_nil os _ fs⟩
  | some d =>
    by_cases hd : d.entries.length > 0
    · have hne : d.entries ≠ [] := List.ne_nil_of_length_pos hd
      simp only [rewrite, dataEntries, Option.map_some', Option.getD_some, hne, if_false] at hr
      obtain ⟨text, htext, henc⟩ := Option.bind_eq_some.mp hr
      have hp' : p ∈ fs.keys := (Dict.mem_keys fs p).mpr (by simp [hb])
      refine ⟨(fs.set p []).set p bytes', ?_, ⟨?_, fun q => ?_⟩⟩
      · simp only [hd, if_true]
        rw [run_bind_ok (readFile_run os hb htext)]
        exact writeFile_run os henc
      · rw [Dict.keys_set, if_pos (by rw [Dict.keys_set, if_pos hp']; exact hp'), Dict.keys_set,
          if_pos hp']
      · rw [Dict.get?_set, Dict.get?_set, List.count_singleton]
        by_cases hq : q = p
        · subst hq; simp [hb, rewriteN, dataEntries, rewrite, hne, htext, henc]
        · simp [hq, Ne.symm hq]; cases fs.get? q <;> rfl
    · have hnil : d.entries = [] := List.eq_nil_of_length_eq_zero (by omega)
      refine ⟨fs, by simp only [hd, if_false]; rfl, ?_⟩
      rw [dataEntries, Option.map_some', Option.getD_some, hnil]
      exact .of_entries_nil os _ fs

theorem forM_replaceFileValues (data : Option (Dict String String)) :
    ∀ (paths : List String) (fs : FileSystem),
      (∀ fs' p, fs'.keys = fs.keys → os.assertExists fs' p = os.assertExists fs p) →
      (∀ p ∈ paths, os.assertExists fs p = none ∧
        ((fs.get? p).bind (rewriteN os (dataEntries data) (paths.count p))).isSome) →
      ∃ fs', (paths.forM fun p => replaceFileValues os p data).run fs = .ok () fs' ∧
        Replaced os (dataEntries data) paths fs fs'
  | [], fs, _, _ => ⟨fs, rfl, .nil os _ fs⟩
  | p :: ps, fs, hkeys, hps => by
    obtain ⟨hp, hsome⟩ := hps p (List.mem_cons_self p ps)
    rw [List.count_cons_self] at hsome
    obtain ⟨bytes, bytes', hb, hr⟩ := exists_rewrite_of_isSome os hsome
    obtain ⟨fs₁, hrun₁, hr₁⟩ := replaceFileValues_replaced os data hp hb hr
    have hkeys₁ : ∀ q, os.assertExists fs₁ q = os.assertExists fs q :=
      fun q => hkeys fs₁ q hr₁.keys
    obtain ⟨fs₂, hrun₂, hr₂⟩ := forM_replaceFileValues data ps fs₁
      (fun fs' q he => (hkeys fs' q (he.trans hr₁.keys)).trans (hkeys₁ q).symm)
      (fun q hq => by
        obtain ⟨hq₁, hq₂⟩ := hps q (List.mem_cons_of_mem p hq)
        rw [← List.singleton_append, List.count_append, rewriteN_add] at hq₂
        rw [hkeys₁, hr₁.contents, Option.bind_assoc]
        exact ⟨hq₁, hq₂⟩)
    exact ⟨fs₂, by rw [List.forM_cons', run_bind_ok hrun₁]; exact hrun₂, hr₁.append os hr₂⟩

/-- A directory `/app` holding `a.py` and `b.txt`, each `X` followed by a Windows line end. -/
def appOs : Os := latin1Os (fun _ p => p == "/app") fun _ _ => [("/app", ["a.py", "b.txt"])]

def appFiles : FileSystem := (Dict.empty.set "/app/a.py" [88, 13, 10]).set "/app/b.txt" [88, 13, 10]

end Walk

end Pyrin.Utils.File
