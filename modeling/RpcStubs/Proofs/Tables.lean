/-
# Tables built by insertion

A table that is filled one pair after the other has two views, and each has a
rule of its own:

  * under a key stands the value of the LAST pair with that key;
  * the keys stand in the order of their FIRST pairs, each once.

So the values of the table are the last values in the order of the first keys.
If no key comes twice the two rules do not differ, and the table is the list of
pairs itself.
-/
import Mathlib.Data.List.Basic
import Mathlib.Data.List.Induction
import Mathlib.Data.List.Nodup
import RpcStubs.Table

namespace RpcStubs.Table

variable {α : Type}

/-! ## One insertion -/

theorem keys_put (key : String) (value : α) (es : List (String × α)) :
    (put key value es).map (·.1)
      = if key ∈ es.map (·.1) then es.map (·.1) else es.map (·.1) ++ [key] := by
  induction es with
  | nil => rfl
  | cons e es ih =>
      by_cases he : e.1 = key
      · simp [put, he]
      · have hne : ¬ key = e.1 := fun h => he h.symm
        by_cases hk : key ∈ es.map (·.1)
        · rw [if_pos hk] at ih
          simp [put, he, ih, hk]
        · rw [if_neg hk] at ih
          simp [put, he, ih, hk, hne]

theorem put_of_notMem {key : String} (value : α) {es : List (String × α)}
    (h : key ∉ es.map (·.1)) : put key value es = es ++ [(key, value)] := by
  induction es with
  | nil => rfl
  | cons e es ih =>
      simp only [List.map_cons, List.mem_cons, not_or] at h
      rw [put, if_neg fun he => h.1 he.symm, ih h.2]
      rfl

/-! ## Look-up by membership -/

theorem mem_entries_of_find? {t : Table α} {key : String} {value : α}
    (h : t.find? key = some value) : (key, value) ∈ t.entries := by
  obtain ⟨es⟩ := t
  simp only [find?] at h
  show (key, value) ∈ es
  induction es with
  | nil => cases h
  | cons e es ih =>
      rw [get?] at h
      split at h
      next he =>
        cases h
        exact he ▸ List.mem_cons_self
      next => exact List.mem_cons_of_mem _ (ih h)

theorem mem_keys_iff_find? {t : Table α} {key : String} :
    key ∈ t.keys ↔ ∃ value, t.find? key = some value := by
  constructor
  · obtain ⟨es⟩ := t
    simp only [find?, keys]
    induction es with
    | nil =>
        intro h
        cases h
    | cons e es ih =>
        intro h
        rw [get?]
        split
        next => exact ⟨e.2, rfl⟩
        next he =>
          rcases List.mem_cons.mp h with h | h
          · exact absurd h.symm he
          · exact ih h
  · rintro ⟨_, h⟩
    exact mem_keys_of_find? h

theorem find?_iff_mem_entries {t : Table α} (h : t.keys.Nodup) {key : String} {value : α} :
    t.find? key = some value ↔ (key, value) ∈ t.entries := by
  refine ⟨mem_entries_of_find?, fun hmem => ?_⟩
  obtain ⟨other, hother⟩ := mem_keys_iff_find?.mp (List.mem_map.mpr ⟨_, hmem, rfl⟩)
  have hsame := List.inj_on_of_nodup_map h (mem_entries_of_find? hother) hmem rfl
  rw [hother, (Prod.mk.inj hsame).2]

theorem values_eq_filterMap {t : Table α} (h : t.keys.Nodup) :
    t.values = t.keys.filterMap t.find? := by
  obtain ⟨es⟩ := t
  simp only [values, keys] at h ⊢
  induction es with
  | nil => rfl
  | cons e es ih =>
      simp only [List.map_cons, List.nodup_cons] at h
      have hrest : (es.map (·.1)).filterMap (find? ⟨e :: es⟩)
          = (es.map (·.1)).filterMap (find? ⟨es⟩) := by
        refine List.filterMap_congr fun key hkey => ?_
        have hne : e.1 ≠ key := fun he => h.1 (he ▸ hkey)
        show get? key (e :: es) = get? key es
        rw [get?, if_neg hne]
      have hhead : find? ⟨e :: es⟩ e.1 = some e.2 := if_pos rfl
      rw [List.map_cons, List.map_cons, List.filterMap_cons_some hhead, hrest, ih h.2]

/-! ## All insertions -/

theorem ofList_concat (pairs : List (String × α)) (p : String × α) :
    ofList (pairs ++ [p]) = (ofList pairs).insert p.1 p.2 := by
  simp [ofList, List.foldl_append]

/-- Under a key stands the value of the last pair with that key. -/
theorem find?_ofList (pairs : List (String × α)) (key : String) :
    (ofList pairs).find? key = (pairs.reverse.find? (·.1 == key)).map (·.2) := by
  induction pairs using List.reverseRecOn with
  | nil => rfl
  | append_singleton ps p ih =>
      rw [ofList_concat, find?_insert, ih, List.reverse_concat, List.find?_cons]
      by_cases h : key = p.1
      · simp [h]
      · have hb : (p.1 == key) = false := beq_eq_false_iff_ne.mpr fun hp => h hp.symm
        simp [h, hb]

theorem mem_of_find?_ofList {pairs : List (String × α)} {key : String} {value : α}
    (h : (ofList pairs).find? key = some value) : (key, value) ∈ pairs := by
  rw [find?_ofList] at h
  obtain ⟨p, hp, rfl⟩ := Option.map_eq_some_iff.mp h
  have hkey : p.1 = key := by simpa using List.find?_some hp
  exact hkey ▸ List.mem_reverse.mp (List.mem_of_find?_eq_some hp)

/-- The keys stand in the order of their first pairs. -/
theorem keys_ofList (pairs : List (String × α)) :
    (ofList pairs).keys = (pairs.map (·.1)).eraseDups := by
  induction pairs using List.reverseRecOn with
  | nil => rfl
  | append_singleton ps p ih =>
      have hput := keys_put p.1 p.2 (ofList ps).entries
      change (put p.1 p.2 (ofList ps).entries).map (·.1)
        = if p.1 ∈ (ofList ps).keys then (ofList ps).keys else (ofList ps).keys ++ [p.1] at hput
      rw [ih] at hput
      rw [ofList_concat, List.map_append, List.eraseDups_append]
      show (put p.1 p.2 (ofList ps).entries).map (·.1) = _
      rw [hput]
      by_cases h : p.1 ∈ ps.map (·.1)
      · rw [if_pos (List.mem_eraseDups.mpr h)]
        simp [h, List.removeAll]
      · rw [if_neg fun hm => h (List.mem_eraseDups.mp hm)]
        simp [h, List.removeAll, List.eraseDups_cons]

theorem nodup_keys_ofList (pairs : List (String × α)) : (ofList pairs).keys.Nodup := by
  induction pairs using List.reverseRecOn with
  | nil => exact List.nodup_nil
  | append_singleton ps p ih =>
      rw [ofList_concat]
      show ((put p.1 p.2 (ofList ps).entries).map (·.1)).Nodup
      rw [keys_put]
      split
      next => exact ih
      next hp =>
        rw [← List.concat_eq_append]
        exact ih.concat hp

theorem entries_ofList {pairs : List (String × α)} (h : (pairs.map (·.1)).Nodup) :
    (ofList pairs).entries = pairs := by
  induction pairs using List.reverseRecOn with
  | nil => rfl
  | append_singleton ps p ih =>
      rw [List.map_append, List.nodup_append] at h
      have hps := ih h.1
      have hp : p.1 ∉ (ofList ps).entries.map (·.1) := by
        rw [hps]
        intro hm
        exact h.2.2 _ hm _ List.mem_cons_self rfl
      rw [ofList_concat]
      show put p.1 p.2 (ofList ps).entries = _
      rw [put_of_notMem p.2 hp, hps]

theorem find?_ofList_of_mem {pairs : List (String × α)} (hkeys : (pairs.map (·.1)).Nodup)
    {key : String} {value : α} (h : (key, value) ∈ pairs) :
    (ofList pairs).find? key = some value := by
  rw [find?_iff_mem_entries (nodup_keys_ofList pairs), entries_ofList hkeys]
  exact h

/-! ## Pairs with a place

Each pair is read at a place, and the places are in order: the last pair with a
key is then the one at the last place, and the keys stand in the order of the
first places. -/

section Places

variable {β : Type} {R : β → β → Prop} {rows : List (β × String × α)}

theorem last_of_find?_ofList (hrows : rows.Pairwise fun a b => R a.1 b.1) {key : String} {value : α}
    (h : (ofList (rows.map (·.2))).find? key = some value) :
    ∃ place, (place, key, value) ∈ rows ∧
      ∀ row ∈ rows, row.2.1 = key → row.1 = place ∨ R row.1 place := by
  rw [find?_ofList, ← List.map_reverse, List.find?_map, Option.map_map] at h
  obtain ⟨⟨place, full, last⟩, hlast, rfl⟩ := Option.map_eq_some_iff.mp h
  obtain ⟨hkey, after, before, hsplit, hafter⟩ := List.find?_eq_some_iff_append.mp hlast
  obtain rfl : full = key := by simpa using hkey
  have hrowsEq : rows = before.reverse ++ (place, full, last) :: after.reverse := by
    rw [← List.reverse_reverse rows, hsplit]
    simp
  rw [hrowsEq, List.pairwise_append] at hrows
  refine ⟨place, by simp [hrowsEq], fun row hrow hname => ?_⟩
  rw [hrowsEq, List.mem_append, List.mem_cons, List.mem_reverse, List.mem_reverse] at hrow
  rcases hrow with hbefore | rfl | hrest
  · exact .inr (hrows.2.2 row (List.mem_reverse.mpr hbefore) _ List.mem_cons_self)
  · exact .inl rfl
  · have hother := hafter row hrest
    simp [hname] at hother

theorem mem_keys_ofList_rows {key : String} :
    key ∈ (ofList (rows.map (·.2))).keys ↔ ∃ row ∈ rows, row.2.1 = key := by
  rw [keys_ofList, List.mem_eraseDups, List.map_map, List.mem_map]
  rfl

theorem pairwise_keys_ofList (hrows : rows.Pairwise fun a b => R a.1 b.1) :
    (ofList (rows.map (·.2))).keys.Pairwise fun a b =>
      ∃ row ∈ rows, row.2.1 = a ∧ ∀ other ∈ rows, other.2.1 = b → R row.1 other.1 := by
  -- The induction is at the end: a pair that is read last comes behind all others.
  induction rows using List.reverseRecOn with
  | nil => exact .nil
  | append_singleton rows last ih =>
      obtain ⟨hrows, -, hlast⟩ := List.pairwise_append.mp hrows
      have hbehind : ∀ row ∈ rows, R row.1 last.1 := fun row hrow =>
        hlast row hrow last List.mem_cons_self
      have hold : (ofList (rows.map (·.2))).keys.Pairwise fun a b =>
          ∃ row ∈ rows ++ [last], row.2.1 = a ∧
            ∀ other ∈ rows ++ [last], other.2.1 = b → R row.1 other.1 := by
        refine (ih hrows).imp fun {a b} ⟨row, hrow, ha, hb⟩ => ?_
        refine ⟨row, List.mem_append_left _ hrow, ha, fun other hother hname => ?_⟩
        rcases List.mem_append.mp hother with hother | hother
        · exact hb other hother hname
        · obtain rfl := List.mem_singleton.mp hother
          exact hbehind row hrow
      rw [List.map_append, List.map_singleton, ofList_concat]
      show ((put last.2.1 last.2.2 (ofList (rows.map (·.2))).entries).map (·.1)).Pairwise _
      rw [keys_put]
      split
      next => exact hold
      next hnew =>
        refine List.pairwise_append.mpr ⟨hold, List.pairwise_singleton _ _, fun a ha b hb => ?_⟩
        obtain rfl := List.mem_singleton.mp hb
        obtain ⟨row, hrow, rfl⟩ := mem_keys_ofList_rows.mp ha
        refine ⟨row, List.mem_append_left _ hrow, rfl, fun other hother hname => ?_⟩
        rcases List.mem_append.mp hother with hother | hother
        · exact absurd (mem_keys_ofList_rows.mpr ⟨other, hother, hname⟩) hnew
        · obtain rfl := List.mem_singleton.mp hother
          exact hbehind row hrow

end Places

end RpcStubs.Table
