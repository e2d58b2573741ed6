/-!
# Tables

A finite map kept as the list of its entries, in the order in which the keys came in. No key
occurs twice, and writing to a key that is there leaves the order alone, so a table that is
written back unchanged is the same table.

Main statements:

* `Table.get?_set`, `Table.get?_erase`, `Table.get?_filter`: what a key holds afterwards.
* `Table.set_get?`, `Table.erase_of_get?_eq_none`: writing back what is there, and erasing what is
  not, change nothing.
-/

namespace AppletGateway

variable {κ ν : Type} [DecidableEq κ]

/-- A finite map from `κ` to `ν`. -/
structure Table (κ ν : Type) [DecidableEq κ] where
  entries : List (κ × ν)
  /-- No key occurs twice. -/
  nodup_keys : (entries.map Prod.fst).Nodup

namespace Table

/-- The table without entries. -/
def empty : Table κ ν := ⟨[], List.nodup_nil⟩

instance : Inhabited (Table κ ν) := ⟨empty⟩

/-- The value at the first entry for `k`. -/
def lookup (k : κ) : List (κ × ν) → Option ν
  | [] => none
  | e :: es => if e.1 = k then some e.2 else lookup k es

/-- The value that `t` holds for `k`. -/
def get? (t : Table κ ν) (k : κ) : Option ν := lookup k t.entries

/-- Whether `t` holds a value for `k`. -/
def contains (t : Table κ ν) (k : κ) : Bool := (t.get? k).isSome

/-- The values, in the order of their keys. -/
def values (t : Table κ ν) : List ν := t.entries.map Prod.snd

/-- The number of entries. -/
def size (t : Table κ ν) : Nat := t.entries.length

/-- The entries with the value of `k` replaced, or added at the end. -/
def write (k : κ) (v : ν) : List (κ × ν) → List (κ × ν)
  | [] => [(k, v)]
  | e :: es => if e.1 = k then (k, v) :: es else e :: write k v es

theorem mem_map_fst_write {k a : κ} {v : ν} : ∀ {es : List (κ × ν)},
    a ∈ (write k v es).map Prod.fst ↔ a = k ∨ a ∈ es.map Prod.fst
  | [] => by simp [write]
  | e :: es => by
    unfold write
    split
    · rename_i h
      simp [h]
    · have ih := @mem_map_fst_write k a v es
      simp only [List.map_cons, List.mem_cons, ih]
      grind

theorem nodup_write (k : κ) (v : ν) : ∀ {es : List (κ × ν)},
    (es.map Prod.fst).Nodup → ((write k v es).map Prod.fst).Nodup
  | [], _ => by simp [write]
  | e :: es, h => by
    rw [List.map_cons, List.nodup_cons] at h
    unfold write
    split
    · rename_i he
      rw [List.map_cons, List.nodup_cons]
      exact ⟨he ▸ h.1, h.2⟩
    · rename_i he
      rw [List.map_cons, List.nodup_cons]
      exact ⟨fun hm => (mem_map_fst_write.mp hm).elim he h.1, nodup_write k v h.2⟩

/-- `t` with `k` holding `v`. -/
def set (t : Table κ ν) (k : κ) (v : ν) : Table κ ν :=
  ⟨write k v t.entries, nodup_write k v t.nodup_keys⟩

/-- The entries of `t` that satisfy `keep`. -/
def filter (t : Table κ ν) (keep : κ → ν → Bool) : Table κ ν :=
  ⟨t.entries.filter fun e => keep e.1 e.2,
    t.nodup_keys.sublist (List.filter_sublist.map Prod.fst)⟩

/-- `t` without an entry for `k`. -/
def erase (t : Table κ ν) (k : κ) : Table κ ν := t.filter fun a _ => a ≠ k

/-! ## What a key holds -/

@[ext]
theorem ext {s t : Table κ ν} (h : s.entries = t.entries) : s = t := by
  cases s; cases t; cases h; rfl

@[simp]
theorem get?_empty (k : κ) : (empty : Table κ ν).get? k = none := rfl

theorem lookup_write (k a : κ) (v : ν) : ∀ es : List (κ × ν),
    lookup a (write k v es) = if k = a then some v else lookup a es
  | [] => rfl
  | e :: es => by
    have ih := lookup_write k a v es
    unfold write
    split
    · rename_i h
      subst h
      by_cases ha : e.1 = a <;> simp [lookup, ha]
    · rename_i h
      by_cases ha : e.1 = a
      · subst ha
        have : k ≠ e.1 := fun hk => h hk.symm
        simp [lookup, this]
      · simp [lookup, ha, ih]

/-- After a write, the key holds what was written and every other key what it held. -/
theorem get?_set (t : Table κ ν) (k a : κ) (v : ν) :
    (t.set k v).get? a = if k = a then some v else t.get? a :=
  lookup_write k a v t.entries

@[simp]
theorem get?_set_self (t : Table κ ν) (k : κ) (v : ν) : (t.set k v).get? k = some v := by
  simp [get?_set]

theorem get?_set_of_ne (t : Table κ ν) {k a : κ} (h : k ≠ a) (v : ν) :
    (t.set k v).get? a = t.get? a := by
  simp [get?_set, h]

theorem lookup_eq_none_iff {a : κ} : ∀ {es : List (κ × ν)},
    lookup a es = none ↔ a ∉ es.map Prod.fst
  | [] => by simp [lookup]
  | e :: es => by
    have ih := @lookup_eq_none_iff a es
    by_cases h : e.1 = a
    · simp [lookup, h]
    · have h' : a ≠ e.1 := fun ha => h ha.symm
      simp [lookup, h, h', ih]

theorem lookup_filter (keep : κ → ν → Bool) (a : κ) : ∀ {es : List (κ × ν)},
    (es.map Prod.fst).Nodup →
      lookup a (es.filter fun e => keep e.1 e.2) = (lookup a es).filter (keep a)
  | [], _ => rfl
  | e :: es, h => by
    rw [List.map_cons, List.nodup_cons] at h
    have ih := lookup_filter keep a h.2
    by_cases ha : e.1 = a
    · subst ha
      cases hk : keep e.1 e.2 with
      | true => simp [lookup, Option.filter, hk]
      | false =>
        have : lookup e.1 es = none := lookup_eq_none_iff.mpr h.1
        simp [lookup, Option.filter, hk, ih, this]
    · cases hk : keep e.1 e.2 <;> simp [lookup, hk, ha, ih]

/-- A key keeps its value through a filter exactly when the filter keeps the entry. -/
theorem get?_filter (t : Table κ ν) (keep : κ → ν → Bool) (a : κ) :
    (t.filter keep).get? a = (t.get? a).filter (keep a) :=
  lookup_filter keep a t.nodup_keys

/-- An erased key holds nothing, and every other key what it held. -/
theorem get?_erase (t : Table κ ν) (k a : κ) :
    (t.erase k).get? a = if k = a then none else t.get? a := by
  rw [erase, get?_filter]
  by_cases h : k = a
  · subst h
    cases t.get? k <;> simp
  · have : a ≠ k := fun ha => h ha.symm
    cases t.get? a <;> simp [h, this]

@[simp]
theorem get?_erase_self (t : Table κ ν) (k : κ) : (t.erase k).get? k = none := by
  simp [get?_erase]

theorem get?_erase_of_ne (t : Table κ ν) {k a : κ} (h : k ≠ a) :
    (t.erase k).get? a = t.get? a := by
  simp [get?_erase, h]

theorem lookup_eq_some_iff {a : κ} {v : ν} : ∀ {es : List (κ × ν)},
    (es.map Prod.fst).Nodup → (lookup a es = some v ↔ (a, v) ∈ es)
  | [], _ => by simp [lookup]
  | e :: es, h => by
    rw [List.map_cons, List.nodup_cons] at h
    have ih := @lookup_eq_some_iff a v es h.2
    by_cases ha : e.1 = a
    · subst ha
      have hno : (e.1, v) ∉ es := fun hm => h.1 (List.mem_map.mpr ⟨_, hm, rfl⟩)
      simp only [lookup, if_true, Option.some.injEq, List.mem_cons, hno, or_false]
      exact ⟨fun hv => hv ▸ rfl, fun hv => (Prod.mk.inj hv).2.symm⟩
    · have hne : (a, v) ≠ e := fun he => ha (congrArg Prod.fst he).symm
      simp [lookup, ha, ih, hne]

/-- The values of a table are what its keys hold. -/
theorem mem_values_iff {t : Table κ ν} {v : ν} : v ∈ t.values ↔ ∃ k, t.get? k = some v := by
  simp [values, get?, lookup_eq_some_iff t.nodup_keys]

/-! ## Changes that change nothing -/

theorem write_lookup {k : κ} {v : ν} : ∀ {es : List (κ × ν)},
    lookup k es = some v → write k v es = es
  | [], h => by simp [lookup] at h
  | e :: es, h => by
    unfold lookup at h
    unfold write
    split at h
    · rename_i he
      obtain rfl := Option.some.inj h
      subst he
      simp
    · rename_i he
      simp [he, write_lookup h]

/-- Writing back what a key holds changes nothing. -/
theorem set_get? {t : Table κ ν} {k : κ} {v : ν} (h : t.get? k = some v) : t.set k v = t :=
  ext (write_lookup h)

/-- Erasing a key that holds nothing changes nothing. -/
theorem erase_of_get?_eq_none {t : Table κ ν} {k : κ} (h : t.get? k = none) : t.erase k = t := by
  apply ext
  have hk := lookup_eq_none_iff.mp h
  apply List.filter_eq_self.mpr
  intro e he
  simp only [ne_eq, decide_not, Bool.not_eq_true', decide_eq_false_iff_not]
  rintro rfl
  exact hk (List.mem_map_of_mem he)

end Table

end AppletGateway
