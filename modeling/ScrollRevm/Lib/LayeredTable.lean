import Mathlib.Data.List.AList

/-!
# Tables in layers

A table holds at most one value for each key. Tables are built in layers: each extends the one
below it by entries that replace those of the same key. A table built so follows a plan, given
for each key, where every layer brings what is planned and leaves alone what it does not change.
-/

/-- A table of values by keys. -/
class LayeredTable (T : Type) (κ α : outParam Type) where
  get : κ → T → Option α
  /-- Sets the values of several keys, one after the other. -/
  extend : List (κ × α) → T → T
  keys : T → List κ

/-- The value that a list of entries leaves at a key: that of the last entry for it. -/
def lastEntry {κ α : Type} [DecidableEq κ] (new : List (κ × α)) (key : κ) : Option α :=
  (new.reverse.find? fun entry => entry.1 = key).map Prod.snd

open LayeredTable in
/-- A table whose extension replaces the values of its entries, and which lists its keys. -/
class LawfulLayeredTable (T : Type) {κ α : Type} [DecidableEq κ] [LayeredTable T κ α] : Prop where
  get_extend (new : List (κ × α)) (t : T) (key : κ) :
    get key (extend new t) = (lastEntry new key).or (get key t)
  mem_keys {key : κ} {t : T} : key ∈ keys t ↔ (get key t).isSome = true
  keys_nodup (t : T) : (keys t).Nodup

namespace LayeredTable

variable {T κ α : Type} [DecidableEq κ]

theorem lastEntry_eq_some {new : List (κ × α)} {key : κ} {value : α}
    (h : lastEntry new key = some value) : (key, value) ∈ new := by
  obtain ⟨⟨key', value'⟩, hfind, rfl⟩ := Option.map_eq_some_iff.mp h
  have hfound := List.find?_some hfind
  have hkey : key' = key := of_decide_eq_true hfound
  rw [← hkey]
  exact List.mem_reverse.mp (List.mem_of_find?_eq_some hfind)

theorem lastEntry_eq_none {new : List (κ × α)} {key : κ} (h : lastEntry new key = none) :
    ∀ entry ∈ new, key ≠ entry.1 := by
  intro entry hmem heq
  have hfind := List.find?_eq_none.mp (Option.map_eq_none_iff.mp h) entry
    (List.mem_reverse.mpr hmem)
  exact hfind (decide_eq_true heq.symm)

/-- An extension follows a plan where its entries do, and the table below it elsewhere. -/
theorem get_extend_plan [LayeredTable T κ α] [LawfulLayeredTable T] {plan : κ → Option α}
    {new : List (κ × α)} {t : T} {key : κ}
    (hnew : ∀ entry ∈ new, plan entry.1 = some entry.2)
    (hbelow : (∀ entry ∈ new, key ≠ entry.1) → get key t = plan key) :
    get key (extend new t) = plan key := by
  rw [LawfulLayeredTable.get_extend]
  cases hlast : lastEntry new key with
  | some value => exact (hnew _ (lastEntry_eq_some hlast)).symm
  | none => exact hbelow (lastEntry_eq_none hlast)

/-! ## Association lists -/

/-- A list with at most one value for each key is such a table. -/
instance : LayeredTable (AList fun _ : κ => α) κ α where
  get := AList.lookup
  extend new t := new.foldl (fun t entry => t.insert entry.1 entry.2) t
  keys := AList.keys

/-- Setting a value changes that of its key alone. -/
theorem lookup_insert_eq_ite (key key' : κ) (value : α) (t : AList fun _ : κ => α) :
    (t.insert key value).lookup key' = if key' = key then some value else t.lookup key' := by
  split
  · rename_i h
    subst h
    exact AList.lookup_insert t
  · rename_i h
    exact AList.lookup_insert_ne h

theorem lastEntry_cons (entry : κ × α) (new : List (κ × α)) (key : κ) :
    lastEntry (entry :: new) key =
      (lastEntry new key).or (if key = entry.1 then some entry.2 else none) := by
  unfold lastEntry
  rw [List.reverse_cons, List.find?_append, Option.map_or, List.find?_singleton]
  by_cases h : entry.1 = key
  · rw [if_pos h.symm, if_pos (decide_eq_true h)]
    rfl
  · rw [if_neg (Ne.symm h), if_neg (by simpa using h)]
    rfl

instance : LawfulLayeredTable (AList fun _ : κ => α) where
  get_extend new t key := by
    change (new.foldl (fun t entry => t.insert entry.1 entry.2) t).lookup key =
      (lastEntry new key).or (t.lookup key)
    induction new generalizing t with
    | nil => rfl
    | cons entry new ih =>
      rw [List.foldl_cons, ih, lookup_insert_eq_ite, lastEntry_cons, Option.or_assoc]
      split <;> rfl
  mem_keys := AList.lookup_isSome.symm
  keys_nodup t := t.keys_nodup

/-- The list with its values replaced. -/
def mapValues {β : Type} (f : α → β) (t : AList fun _ : κ => α) : AList fun _ : κ => β :=
  ⟨t.entries.map (Sigma.map id fun _ => f), t.nodupKeys.map₂ (fun _ => f) t.entries⟩

@[simp] theorem lookup_mapValues {β : Type} (f : α → β) (key : κ) (t : AList fun _ : κ => α) :
    (mapValues f t).lookup key = (t.lookup key).map f :=
  List.dlookup_map₂ key

end LayeredTable
