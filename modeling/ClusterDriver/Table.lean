/-!
# Finite tables

Association lists with one live entry per key. Inserting under a key that is present keeps its
place; a new key goes to the end. The view is `get?`, and two lemmas per operation say what it does
to the view.
-/
namespace ClusterDriver

structure Table (κ ν : Type) where
  entries : List (κ × ν)
  nodup_keys : (entries.map Prod.fst).Nodup

namespace Table
variable {κ ν : Type} [DecidableEq κ]

def empty : Table κ ν := ⟨[], .nil⟩

def get? (t : Table κ ν) (k : κ) : Option ν :=
  (t.entries.find? fun e => e.1 = k).map Prod.snd

def contains (t : Table κ ν) (k : κ) : Bool := (t.get? k).isSome

def keys (t : Table κ ν) : List κ := t.entries.map Prod.fst

def values (t : Table κ ν) : List ν := t.entries.map Prod.snd

def put (k : κ) (v : ν) : List (κ × ν) → List (κ × ν)
  | [] => [(k, v)]
  | e :: rest => if e.1 = k then (k, v) :: rest else e :: put k v rest

theorem keys_put (k : κ) (v : ν) (es : List (κ × ν)) :
    (put k v es).map Prod.fst =
      if k ∈ es.map Prod.fst then es.map Prod.fst else es.map Prod.fst ++ [k] := by
  induction es with
  | nil => simp [put]
  | cons e rest ih =>
    by_cases h : e.1 = k
    · simp [put, h]
    · have hk : ¬ k = e.1 := fun heq => h heq.symm
      rw [put, if_neg h, List.map_cons, ih]
      have hmem : k ∈ (e :: rest).map Prod.fst ↔ k ∈ rest.map Prod.fst := by
        rw [List.map_cons, List.mem_cons, or_iff_right hk]
      by_cases hrest : k ∈ rest.map Prod.fst
      · rw [if_pos hrest, if_pos (hmem.2 hrest), List.map_cons]
      · rw [if_neg hrest, if_neg (mt hmem.1 hrest), List.map_cons, List.cons_append]

theorem nodup_keys_put (k : κ) (v : ν) {es : List (κ × ν)} (h : (es.map Prod.fst).Nodup) :
    ((put k v es).map Prod.fst).Nodup := by
  rw [keys_put]
  split
  · exact h
  · rename_i hk
    exact List.nodup_append.2 ⟨h, by simp, by
      intro a ha b hb
      rw [List.mem_singleton.1 hb]
      exact fun heq => hk (heq ▸ ha)⟩

def insert (t : Table κ ν) (k : κ) (v : ν) : Table κ ν :=
  ⟨put k v t.entries, nodup_keys_put k v t.nodup_keys⟩

def erase (t : Table κ ν) (k : κ) : Table κ ν :=
  ⟨t.entries.filter fun e => ¬ e.1 = k, t.nodup_keys.sublist (List.filter_sublist.map Prod.fst)⟩

def ofList (entries : List (κ × ν)) : Table κ ν :=
  entries.foldl (fun t e => t.insert e.1 e.2) empty

@[simp] theorem get?_empty (k : κ) : (empty : Table κ ν).get? k = none := rfl

theorem find?_put_self (k : κ) (v : ν) (es : List (κ × ν)) :
    (put k v es).find? (fun e => e.1 = k) = some (k, v) := by
  induction es with
  | nil => simp [put]
  | cons e rest ih =>
    rw [put]
    split
    · simp
    · rename_i h
      simp [h, ih]

theorem find?_put_of_ne {k k' : κ} (h : k ≠ k') (v : ν) (es : List (κ × ν)) :
    (put k v es).find? (fun e => e.1 = k') = es.find? fun e => e.1 = k' := by
  induction es with
  | nil => simp [put, h]
  | cons e rest ih =>
    rw [put]
    split
    · rename_i he
      simp [h, he]
    · simp [List.find?_cons, ih]

@[simp] theorem get?_insert_self (t : Table κ ν) (k : κ) (v : ν) :
    (t.insert k v).get? k = some v := by
  simp [get?, insert, find?_put_self]

theorem get?_insert_of_ne (t : Table κ ν) {k k' : κ} (h : k ≠ k') (v : ν) :
    (t.insert k v).get? k' = t.get? k' := by
  simp [get?, insert, find?_put_of_ne h]

@[simp] theorem get?_erase_self (t : Table κ ν) (k : κ) : (t.erase k).get? k = none := by
  simp [get?, erase, List.find?_filter]

theorem get?_erase_of_ne (t : Table κ ν) {k k' : κ} (h : k ≠ k') :
    (t.erase k).get? k' = t.get? k' := by
  simp only [get?, erase, List.find?_filter]
  congr 2
  funext e
  by_cases he : e.1 = k'
  · simp [he, Ne.symm h]
  · simp [he]

theorem get?_insert (t : Table κ ν) (k k' : κ) (v : ν) :
    (t.insert k v).get? k' = if k = k' then some v else t.get? k' := by
  by_cases h : k = k'
  · subst h
    simp
  · rw [get?_insert_of_ne t h, if_neg h]

theorem get?_erase (t : Table κ ν) (k k' : κ) :
    (t.erase k).get? k' = if k = k' then none else t.get? k' := by
  by_cases h : k = k'
  · subst h
    simp
  · rw [get?_erase_of_ne t h, if_neg h]

theorem mem_values_of_get? {t : Table κ ν} {k : κ} {v : ν} (h : t.get? k = some v) :
    v ∈ t.values := by
  obtain ⟨e, he, rfl⟩ := Option.map_eq_some_iff.1 h
  exact List.mem_map_of_mem (List.mem_of_find?_eq_some he)

theorem mem_keys_of_get? {t : Table κ ν} {k : κ} {v : ν} (h : t.get? k = some v) :
    k ∈ t.keys := by
  obtain ⟨e, he, rfl⟩ := Option.map_eq_some_iff.1 h
  have hkey : e.1 = k := by simpa using List.find?_some he
  exact hkey ▸ List.mem_map_of_mem (List.mem_of_find?_eq_some he)

theorem mem_keys {t : Table κ ν} {k : κ} : k ∈ t.keys ↔ ∃ v, t.get? k = some v := by
  refine ⟨fun among => ?_, fun ⟨v, h⟩ => mem_keys_of_get? h⟩
  obtain ⟨e, he, hkey⟩ := List.mem_map.1 among
  have found : (t.entries.find? fun e => e.1 = k).isSome :=
    List.find?_isSome.2 ⟨e, he, by simpa using hkey⟩
  obtain ⟨e', he'⟩ := Option.isSome_iff_exists.1 found
  exact ⟨e'.2, by rw [get?, he', Option.map_some]⟩

theorem eq_empty {t : Table κ ν} (vacant : ∀ k, t.get? k = none) : t = empty := by
  cases t with
  | mk entries nodup =>
    cases entries with
    | nil => rfl
    | cons e rest => simpa [get?] using vacant e.1

/-- The same keys, with values made of the old ones. -/
def map {μ : Type} (f : ν → μ) (t : Table κ ν) : Table κ μ :=
  ⟨t.entries.map fun e => (e.1, f e.2), by simpa [Function.comp_def] using t.nodup_keys⟩

theorem get?_map {μ : Type} (f : ν → μ) (t : Table κ ν) (k : κ) :
    (t.map f).get? k = (t.get? k).map f := by
  simp [get?, map, List.find?_map, Function.comp_def]

theorem map_put {μ : Type} (f : ν → μ) (k : κ) (v : ν) (es : List (κ × ν)) :
    (put k v es).map (fun e => (e.1, f e.2)) = put k (f v) (es.map fun e => (e.1, f e.2)) := by
  induction es with
  | nil => rfl
  | cons e rest ih =>
    by_cases h : e.1 = k
    · simp [put, h]
    · simp [put, h, ih]

theorem map_insert {μ : Type} (f : ν → μ) (t : Table κ ν) (k : κ) (v : ν) :
    (t.insert k v).map f = (t.map f).insert k (f v) := by
  simp only [map, insert, Table.mk.injEq]
  exact map_put f k v t.entries

end Table
end ClusterDriver
