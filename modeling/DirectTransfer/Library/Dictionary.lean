import Mathlib.Data.List.Nodup
import Mathlib.Data.List.Sort

/-! Insertion-ordered dictionaries. A key keeps its position when its value is
replaced, and a new key goes to the end; the keys are distinct by construction. -/

set_option autoImplicit false

namespace DirectTransfer.Library

variable {κ α : Type} [DecidableEq κ]

/-- First value stored under a key of an association list. -/
def findEntry (key : κ) : List (κ × α) → Option α
  | [] => none
  | (candidate, value) :: rest => if candidate = key then some value else findEntry key rest

/-- Replace the value under a key in place, or append a new entry. -/
def putEntry (key : κ) (value : α) : List (κ × α) → List (κ × α)
  | [] => [(key, value)]
  | (candidate, old) :: rest =>
      if candidate = key then (candidate, value) :: rest
      else (candidate, old) :: putEntry key value rest

theorem findEntry_mem {key : κ} {value : α} {entries : List (κ × α)}
    (found : findEntry key entries = some value) : (key, value) ∈ entries := by
  induction entries with
  | nil => cases found
  | cons head rest ih =>
      obtain ⟨candidate, old⟩ := head
      by_cases same : candidate = key
      · simp only [findEntry, same, ↓reduceIte, Option.some.injEq] at found
        simp [same, found]
      · simp only [findEntry, same, ↓reduceIte] at found
        exact List.mem_cons_of_mem _ (ih found)

theorem findEntry_eq_none_iff {key : κ} {entries : List (κ × α)} :
    findEntry key entries = none ↔ key ∉ entries.map Prod.fst := by
  induction entries with
  | nil => simp [findEntry]
  | cons head rest ih =>
      obtain ⟨candidate, old⟩ := head
      by_cases same : candidate = key
      · simp [findEntry, same]
      · simp [findEntry, same, ih, Ne.symm same]

theorem findEntry_of_mem {key : κ} {value : α} {entries : List (κ × α)}
    (unique : (entries.map Prod.fst).Nodup) (member : (key, value) ∈ entries) :
    findEntry key entries = some value := by
  induction entries with
  | nil => cases member
  | cons head rest ih =>
      obtain ⟨candidate, old⟩ := head
      simp only [List.map_cons, List.nodup_cons] at unique
      rcases List.mem_cons.mp member with same | later
      · cases same; simp [findEntry]
      · have different : candidate ≠ key := by
          rintro rfl
          exact unique.1 (List.mem_map.mpr ⟨_, later, rfl⟩)
        simpa [findEntry, different] using ih unique.2 later

theorem findEntry_perm {left right : List (κ × α)}
    (unique : (left.map Prod.fst).Nodup) (permuted : left.Perm right) (key : κ) :
    findEntry key left = findEntry key right := by
  have rightUnique : (right.map Prod.fst).Nodup := (permuted.map Prod.fst).nodup_iff.mp unique
  cases found : findEntry key left with
  | none =>
      rw [findEntry_eq_none_iff] at found
      exact (findEntry_eq_none_iff.mpr fun member =>
        found ((permuted.map Prod.fst).mem_iff.mpr member)).symm
  | some value => exact (findEntry_of_mem rightUnique
      (permuted.mem_iff.mp (findEntry_mem found))).symm

theorem findEntry_putEntry (key other : κ) (value : α) (entries : List (κ × α)) :
    findEntry other (putEntry key value entries) =
      if other = key then some value else findEntry other entries := by
  induction entries with
  | nil => simp [putEntry, findEntry, eq_comm]
  | cons head rest ih =>
      obtain ⟨candidate, old⟩ := head
      by_cases same : candidate = key
      · subst same
        by_cases wanted : other = candidate
        · simp [putEntry, findEntry, wanted]
        · simp [putEntry, findEntry, wanted, Ne.symm wanted]
      · by_cases wanted : candidate = other
        · subst wanted
          simp [putEntry, findEntry, same]
        · simp [putEntry, findEntry, same, wanted, ih]

theorem mem_keys_putEntry {key other : κ} {value : α} {entries : List (κ × α)} :
    other ∈ (putEntry key value entries).map Prod.fst ↔
      other = key ∨ other ∈ entries.map Prod.fst := by
  have split := findEntry_putEntry key other value entries
  by_cases same : other = key
  · simp only [same, ↓reduceIte, true_or, iff_true] at split ⊢
    by_contra absent
    rw [findEntry_eq_none_iff.mpr absent] at split
    cases split
  · simp only [same, ↓reduceIte, false_or] at split ⊢
    rw [← not_iff_not, ← findEntry_eq_none_iff, split, findEntry_eq_none_iff]

theorem nodup_keys_putEntry {key : κ} {value : α} {entries : List (κ × α)}
    (unique : (entries.map Prod.fst).Nodup) :
    ((putEntry key value entries).map Prod.fst).Nodup := by
  induction entries with
  | nil => simp [putEntry]
  | cons head rest ih =>
      obtain ⟨candidate, old⟩ := head
      simp only [List.map_cons, List.nodup_cons] at unique
      by_cases same : candidate = key
      · subst same
        simpa [putEntry] using unique
      · simp only [putEntry, same, ↓reduceIte, List.map_cons, List.nodup_cons]
        refine ⟨fun member => ?_, ih unique.2⟩
        rcases mem_keys_putEntry.mp member with equal | earlier
        · exact same equal
        · exact unique.1 earlier

/-- An insertion-ordered dictionary with distinct keys. -/
structure Dict (κ α : Type) where
  entries : List (κ × α)
  distinct : (entries.map Prod.fst).Nodup

namespace Dict

omit [DecidableEq κ] in
@[ext] theorem ext {left right : Dict κ α} (same : left.entries = right.entries) :
    left = right := by
  cases left; cases right; cases same; rfl

instance [DecidableEq α] : DecidableEq (Dict κ α) := fun left right =>
  decidable_of_iff (left.entries = right.entries) ⟨ext, fun same => same ▸ rfl⟩

def empty : Dict κ α := ⟨[], by simp⟩

instance : Inhabited (Dict κ α) := ⟨empty⟩

def get (dict : Dict κ α) (key : κ) : Option α := findEntry key dict.entries

def set (dict : Dict κ α) (key : κ) (value : α) : Dict κ α :=
  ⟨putEntry key value dict.entries, nodup_keys_putEntry dict.distinct⟩

/-- Keep the entries that satisfy a test of key and value. -/
def filter (dict : Dict κ α) (keep : κ → α → Bool) : Dict κ α :=
  ⟨dict.entries.filter fun entry => keep entry.1 entry.2,
    dict.distinct.sublist (List.filter_sublist.map Prod.fst)⟩

def erase (dict : Dict κ α) (key : κ) : Dict κ α :=
  dict.filter fun candidate _ => decide (candidate ≠ key)

/-- Change every value in place. -/
def map (dict : Dict κ α) (change : α → α) : Dict κ α :=
  ⟨dict.entries.map fun entry => (entry.1, change entry.2), by
    simpa [Function.comp_def] using dict.distinct⟩

def keys (dict : Dict κ α) : List κ := dict.entries.map Prod.fst

def values (dict : Dict κ α) : List α := dict.entries.map Prod.snd

@[simp] theorem get_empty (key : κ) : (empty : Dict κ α).get key = none := rfl

@[simp] theorem get_set_self (dict : Dict κ α) (key : κ) (value : α) :
    (dict.set key value).get key = some value := by
  simp [get, set, findEntry_putEntry]

theorem get_set (dict : Dict κ α) (key other : κ) (value : α) :
    (dict.set key value).get other = if other = key then some value else dict.get other :=
  findEntry_putEntry key other value dict.entries

theorem get_set_ne {dict : Dict κ α} {key other : κ} {value : α} (different : other ≠ key) :
    (dict.set key value).get other = dict.get other := by
  rw [get_set, if_neg different]

theorem get_eq_some_iff {dict : Dict κ α} {key : κ} {value : α} :
    dict.get key = some value ↔ (key, value) ∈ dict.entries :=
  ⟨findEntry_mem, findEntry_of_mem dict.distinct⟩

theorem get_eq_none_iff {dict : Dict κ α} {key : κ} : dict.get key = none ↔ key ∉ dict.keys :=
  findEntry_eq_none_iff

theorem get_filter (dict : Dict κ α) (keep : κ → α → Bool) (key : κ) :
    (dict.filter keep).get key = (dict.get key).filter (keep key) := by
  cases found : dict.get key with
  | none =>
      rw [Option.filter_none, get_eq_none_iff]
      rw [get_eq_none_iff] at found
      exact fun member => found ((List.filter_sublist.map Prod.fst).subset member)
  | some value =>
      have member := get_eq_some_iff.mp found
      by_cases kept : keep key value = true
      · rw [Option.filter_some, if_pos kept, get_eq_some_iff]
        exact List.mem_filter.mpr ⟨member, kept⟩
      · rw [Option.filter_some, if_neg kept, ← Option.not_isSome_iff_eq_none]
        intro present
        obtain ⟨other, stored⟩ := Option.isSome_iff_exists.mp present
        obtain ⟨otherMember, otherKept⟩ := List.mem_filter.mp (get_eq_some_iff.mp stored)
        have same : other = value :=
          Option.some.inj ((get_eq_some_iff.mpr otherMember).symm.trans found)
        exact kept (same ▸ otherKept)

theorem get_map (dict : Dict κ α) (change : α → α) (key : κ) :
    (dict.map change).get key = (dict.get key).map change := by
  cases found : dict.get key with
  | none =>
      rw [get_eq_none_iff] at found
      rw [Option.map_none, get_eq_none_iff]
      simpa [map, keys, Function.comp_def] using found
  | some value =>
      rw [Option.map_some, get_eq_some_iff]
      exact List.mem_map.mpr ⟨(key, value), get_eq_some_iff.mp found, rfl⟩

@[simp] theorem get_erase_self (dict : Dict κ α) (key : κ) : (dict.erase key).get key = none := by
  rw [erase, get_filter]
  cases dict.get key <;> simp [Option.filter]

theorem get_erase_ne {dict : Dict κ α} {key other : κ} (different : other ≠ key) :
    (dict.erase key).get other = dict.get other := by
  rw [erase, get_filter]
  cases dict.get other <;> simp [Option.filter, different]

theorem get_erase (dict : Dict κ α) (key other : κ) :
    (dict.erase key).get other = if other = key then none else dict.get other := by
  by_cases same : other = key
  · simp [same]
  · rw [get_erase_ne same, if_neg same]

/-- One more item at the end of a key's list. -/
def push (dict : Dict κ (List α)) (key : κ) (item : α) : Dict κ (List α) :=
  dict.set key ((dict.get key).getD [] ++ [item])

/-- The items under each key, in their order. -/
def group (key : α → κ) (items : List α) : Dict κ (List α) :=
  items.foldl (fun dict item => dict.push (key item) item) empty

theorem getD_get_push (dict : Dict κ (List α)) (key other : κ) (item : α) :
    ((dict.push key item).get other).getD [] =
      (dict.get other).getD [] ++ if key = other then [item] else [] := by
  rw [push, get_set]
  by_cases same : other = key
  · simp [same]
  · simp [same, Ne.symm same]

theorem getD_get_group (key : α → κ) (items : List α) (wanted : κ) :
    ((group key items).get wanted).getD [] =
      items.filter fun item => decide (key item = wanted) := by
  have grows : ∀ (items : List α) (dict : Dict κ (List α)),
      ((items.foldl (fun dict item => dict.push (key item) item) dict).get wanted).getD [] =
        (dict.get wanted).getD [] ++ items.filter fun item => decide (key item = wanted) := by
    intro items
    induction items with
    | nil => simp
    | cons item rest ih =>
        intro dict
        rw [List.foldl_cons, ih, getD_get_push, List.append_assoc]
        by_cases same : key item = wanted <;> simp [same]
  simpa [group] using grows items empty

/-- A group is never empty. -/
theorem get_group_ne_nil {key : α → κ} {items group : List α} {wanted : κ}
    (found : (Dict.group key items).get wanted = some group) : group ≠ [] := by
  have grows : ∀ (items : List α) (dict : Dict κ (List α)),
      (∀ other held, dict.get other = some held → held ≠ []) →
      ∀ other held, (items.foldl (fun dict item => dict.push (key item) item) dict).get other =
        some held → held ≠ [] := by
    intro items
    induction items with
    | nil => exact fun dict kept => kept
    | cons item rest ih =>
        intro dict kept
        refine ih _ fun other held stored => ?_
        simp only [push, get_set] at stored
        split at stored
        · cases stored; simp
        · exact kept other held stored
  exact grows items empty (fun _ _ none => nomatch none) wanted group found

theorem get_group_eq {key : α → κ} {items held : List α} {wanted : κ}
    (found : (Dict.group key items).get wanted = some held) :
    held = items.filter fun item => decide (key item = wanted) := by
  rw [← getD_get_group key items wanted, found, Option.getD_some]

theorem get_group_of_mem {key : α → κ} {items : List α} {item : α} (member : item ∈ items) :
    (Dict.group key items).get (key item) =
      some (items.filter fun other => decide (key other = key item)) := by
  have held := getD_get_group key items (key item)
  cases found : (Dict.group key items).get (key item) with
  | some group => rw [found, Option.getD_some] at held; rw [held]
  | none =>
      rw [found, Option.getD_none] at held
      have present : item ∈ items.filter fun other => decide (key other = key item) := by
        simp [member]
      rw [← held] at present
      cases present

theorem putEntry_of_absent {key : κ} {value : α} {entries : List (κ × α)}
    (absent : key ∉ entries.map Prod.fst) : putEntry key value entries = entries ++ [(key, value)] := by
  induction entries with
  | nil => rfl
  | cons head rest ih =>
      obtain ⟨candidate, old⟩ := head
      simp only [List.map_cons, List.mem_cons, not_or] at absent
      simp [putEntry, Ne.symm absent.1, ih absent.2]

theorem length_set_of_absent {dict : Dict κ α} {key : κ} {value : α} (absent : dict.get key = none) :
    (dict.set key value).entries.length = dict.entries.length + 1 := by
  have written : (dict.set key value).entries = dict.entries ++ [(key, value)] :=
    putEntry_of_absent (get_eq_none_iff.mp absent)
  rw [written, List.length_append, List.length_singleton]

theorem length_set_of_present {dict : Dict κ α} {key : κ} {old value : α}
    (present : dict.get key = some old) :
    (dict.set key value).entries.length = dict.entries.length := by
  have kept : ∀ entries : List (κ × α), findEntry key entries = some old →
      (putEntry key value entries).length = entries.length := by
    intro entries found
    induction entries with
    | nil => cases found
    | cons head rest ih =>
        obtain ⟨candidate, current⟩ := head
        by_cases same : candidate = key
        · simp [putEntry, same]
        · simp only [findEntry, same, if_false] at found
          simp [putEntry, same, ih found]
  exact kept dict.entries present

/-- Values put under distinct new keys stand in their order. -/
theorem entries_foldl_set {β : Type} {key : β → κ} {value : β → α} {items : List β}
    {dict : Dict κ α} (distinct : (items.map key).Nodup)
    (fresh : ∀ item ∈ items, key item ∉ dict.keys) :
    (items.foldl (fun dict item => dict.set (key item) (value item)) dict).entries =
      dict.entries ++ items.map fun item => (key item, value item) := by
  induction items generalizing dict with
  | nil => simp
  | cons item rest ih =>
      rw [List.map_cons, List.nodup_cons] at distinct
      have added : (dict.set (key item) (value item)).entries =
          dict.entries ++ [(key item, value item)] :=
        putEntry_of_absent (fresh item List.mem_cons_self)
      rw [List.foldl_cons, ih distinct.2 ?_, added, List.map_cons, List.append_assoc]
      · rfl
      · intro other member
        have apart : key other ≠ key item := by
          intro same
          exact distinct.1 (same ▸ List.mem_map_of_mem member)
        simp only [keys, added, List.map_append, List.mem_append, List.map_cons, List.map_nil,
          List.mem_singleton, not_or]
        exact ⟨fresh other (List.mem_cons_of_mem _ member), apart⟩

/-! ## Counting values -/

theorem countP_values_set_of_absent {dict : Dict κ α} {key : κ} (absent : dict.get key = none)
    (value : α) (holds : α → Bool) :
    (dict.set key value).values.countP holds =
      dict.values.countP holds + if holds value then 1 else 0 := by
  have written : (dict.set key value).entries = dict.entries ++ [(key, value)] :=
    putEntry_of_absent (get_eq_none_iff.mp absent)
  rw [values, values, written, List.map_append, List.countP_append]
  simp [List.countP_cons]

/-- A value that replaces another is counted in its stead. -/
theorem countP_values_set {dict : Dict κ α} {key : κ} {old : α} (found : dict.get key = some old)
    (value : α) (holds : α → Bool) :
    (dict.set key value).values.countP holds + (if holds old then 1 else 0) =
      dict.values.countP holds + if holds value then 1 else 0 := by
  have counted : ∀ entries : List (κ × α), findEntry key entries = some old →
      ((putEntry key value entries).map Prod.snd).countP holds + (if holds old then 1 else 0) =
        (entries.map Prod.snd).countP holds + if holds value then 1 else 0 := by
    intro entries found
    induction entries with
    | nil => cases found
    | cons head rest ih =>
        obtain ⟨candidate, current⟩ := head
        by_cases same : candidate = key
        · simp only [findEntry, same, if_true, Option.some.injEq] at found
          subst found
          simp only [putEntry, same, if_true, List.map_cons, List.countP_cons]
          omega
        · simp only [findEntry, same, if_false] at found
          simp only [putEntry, same, if_false, List.map_cons, List.countP_cons]
          have later := ih found
          omega
  exact counted dict.entries found

/-- A value that replaces another and counts only where that one did. -/
theorem countP_values_set_le {dict : Dict κ α} {key : κ} {old value : α} {holds : α → Bool}
    (found : dict.get key = some old) (fewer : holds value = true → holds old = true) :
    (dict.set key value).values.countP holds ≤ dict.values.countP holds := by
  have counted : ∀ entries : List (κ × α), findEntry key entries = some old →
      ((putEntry key value entries).map Prod.snd).countP holds ≤
        (entries.map Prod.snd).countP holds := by
    intro entries
    induction entries with
    | nil => intro found; cases found
    | cons head rest ih =>
        obtain ⟨candidate, current⟩ := head
        intro found
        by_cases same : candidate = key
        · simp only [findEntry, same, if_true, Option.some.injEq] at found
          subst found
          simp only [putEntry, same, if_true, List.map_cons, List.countP_cons]
          apply Nat.add_le_add_left
          split
          · next counts => simp [fewer counts]
          · exact Nat.zero_le _
        · simp only [findEntry, same, if_false] at found
          simp only [putEntry, same, if_false, List.map_cons, List.countP_cons]
          exact Nat.add_le_add_right (ih found) _
  exact counted dict.entries found

omit [DecidableEq κ] in
theorem countP_values_filter_le (dict : Dict κ α) (keep : κ → α → Bool) (holds : α → Bool) :
    (dict.filter keep).values.countP holds ≤ dict.values.countP holds :=
  (List.filter_sublist.map Prod.snd).countP_le

/-! ## Sorting by key -/

section Sorting

variable {le : κ → κ → Bool}

/-- The entries in the order of their keys. -/
def sorted (le : κ → κ → Bool) (dict : Dict κ α) : Dict κ α :=
  ⟨dict.entries.insertionSort fun left right => le left.1 right.1 = true,
    ((List.perm_insertionSort _ dict.entries).map Prod.fst).nodup_iff.mpr dict.distinct⟩

omit [DecidableEq κ] in
theorem mem_sorted {dict : Dict κ α} {entry : κ × α} :
    entry ∈ (dict.sorted le).entries ↔ entry ∈ dict.entries :=
  (List.perm_insertionSort _ dict.entries).mem_iff

@[simp] theorem get_sorted (dict : Dict κ α) (key : κ) : (dict.sorted le).get key = dict.get key :=
  (findEntry_perm dict.distinct (List.perm_insertionSort _ dict.entries).symm key).symm

/-- The first match among sorted entries is the match with the least key. -/
theorem find_sorted (total : ∀ left right, le left right = true ∨ le right left = true)
    (transitive : ∀ left middle right, le left middle = true → le middle right = true →
      le left right = true)
    (antisymmetric : ∀ left right, le left right = true → le right left = true → left = right)
    {dict : Dict κ α} {holds : κ × α → Bool} {first : κ × α} :
    (dict.sorted le).entries.find? holds = some first ↔
      first ∈ dict.entries ∧ holds first = true ∧
        ∀ other ∈ dict.entries, holds other = true → le first.1 other.1 = true := by
  let below : κ × α → κ × α → Prop := fun left right => le left.1 right.1 = true
  have isTotal : Std.Total below := ⟨fun left right => total left.1 right.1⟩
  have isTrans : IsTrans (κ × α) below := ⟨fun left middle right => transitive _ _ _⟩
  have ordered : (dict.sorted le).entries.Pairwise below :=
    List.pairwise_insertionSort below dict.entries
  have least {match_ : κ × α} (found : (dict.sorted le).entries.find? holds = some match_) :
      match_ ∈ dict.entries ∧ holds match_ = true ∧
        ∀ other ∈ dict.entries, holds other = true → le match_.1 other.1 = true := by
    refine ⟨mem_sorted.mp (List.mem_of_find?_eq_some found), List.find?_some found, ?_⟩
    obtain ⟨_, earlier, later, split, without⟩ := List.find?_eq_some_iff_append.mp found
    intro other member fits
    rw [← @mem_sorted _ _ le, split] at member
    rw [split] at ordered
    cases List.mem_append.mp member with
    | inl before =>
        have misses := without other before
        simp [fits] at misses
    | inr rest =>
        cases rest with
        | head => exact (total match_.1 match_.1).elim id id
        | tail _ after =>
            exact List.rel_of_pairwise_cons (List.pairwise_append.mp ordered).2.1 after
  constructor
  · intro found
    exact least found
  · intro minimal
    obtain ⟨member, fits, below⟩ := minimal
    cases found : (dict.sorted le).entries.find? holds with
    | none =>
        have misses := List.find?_eq_none.mp found first (mem_sorted.mpr member)
        exact absurd fits misses
    | some other =>
        obtain ⟨included, matched, lowest⟩ := least found
        have keys := antisymmetric _ _ (lowest first member fits) (below other included matched)
        have values := (get_eq_some_iff.mpr included).symm.trans
          (keys ▸ get_eq_some_iff.mpr member)
        rw [Prod.ext keys (Option.some.inj values)]

end Sorting

/-- Items with distinct keys are groups of their own. -/
theorem values_group_of_nodup {key : α → κ} {items : List α} (distinct : (items.map key).Nodup) :
    (group key items).values = items.map fun item => [item] := by
  have grows : ∀ (items : List α) (dict : Dict κ (List α)), (items.map key).Nodup →
      (∀ item ∈ items, key item ∉ dict.keys) →
      (items.foldl (fun dict item => dict.push (key item) item) dict).values =
        dict.values ++ items.map fun item => [item] := by
    intro items
    induction items with
    | nil => simp
    | cons item rest ih =>
        intro dict unique fresh
        simp only [List.map_cons, List.nodup_cons] at unique
        have absent := fresh item (by simp)
        have pushed : (dict.push (key item) item).entries = dict.entries ++ [(key item, [item])] := by
          rw [push, get_eq_none_iff.mpr absent]
          exact putEntry_of_absent absent
        rw [List.foldl_cons, ih _ unique.2]
        · simp [values, pushed]
        · intro other member
          have apart : key other ≠ key item := fun same =>
            unique.1 (same ▸ List.mem_map_of_mem member)
          have before := fresh other (by simp [member])
          simp only [keys, pushed, List.map_append, List.mem_append, List.map_cons, List.map_nil,
            List.mem_singleton, not_or]
          exact ⟨before, apart⟩
  simpa [group, values, empty] using grows items empty distinct (by simp [keys, empty])

end Dict

end DirectTransfer.Library
