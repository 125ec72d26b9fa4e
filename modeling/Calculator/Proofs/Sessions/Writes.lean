import Mathlib.Data.List.Induction
import Calculator.Store

/-!
# Calculator — Proofs — Sessions — Writes

What a sequence of assignments leaves.  `Store.ofWrites` makes them one after another in a store
that is empty at first.  A name then has the value it was given last (`Store.getElem?_ofWrites`),
and there are as many names as different ones were assigned to (`Store.size_ofWrites`).  The entries
of a store, assigned in any order, make the store (`Store.ofWrites_of_perm_toList`).
-/

namespace Calculator.Store

theorem getElem?_insert (store : Store) (x y : String) (v : Value) :
    (store.insert x v)[y]? = if x = y then some v else store[y]? := by
  simp only [Std.ExtTreeMap.getElem?_insert, Std.compare_eq_iff_eq]

/-- The order in which two names are set does not matter. -/
theorem insert_comm (store : Store) {x y : String} (v w : Value) (h : x ≠ y) :
    (store.insert x v).insert y w = (store.insert y w).insert x v := by
  refine Std.ExtTreeMap.ext_getElem? fun z => ?_
  simp only [getElem?_insert]
  by_cases hx : x = z
  · rw [if_pos hx, if_pos hx, if_neg fun hy => h (hx.trans hy.symm)]
  · rw [if_neg hx, if_neg hx]

/-- The store after assignments, where there was none before. -/
def ofWrites (writes : List (String × Value)) : Store :=
  writes.foldl (fun store write => store.insert write.1 write.2) ∅

theorem ofWrites_concat (writes : List (String × Value)) (x : String) (v : Value) :
    ofWrites (writes ++ [(x, v)]) = (ofWrites writes).insert x v := by
  rw [ofWrites, List.foldl_append]
  rfl

/-- A name has the value it was given last. -/
theorem getElem?_ofWrites (writes : List (String × Value)) (x : String) :
    (ofWrites writes)[x]? = writes.reverse.lookup x := by
  induction writes using List.reverseRecOn with
  | nil => rfl
  | append_singleton writes w ih =>
      obtain ⟨y, v⟩ := w
      rw [ofWrites_concat, getElem?_insert, ih, List.reverse_concat, List.lookup_cons]
      by_cases h : y = x
      · simp [h]
      · have hx : (x == y) = false := beq_eq_false_iff_ne.2 (Ne.symm h)
        rw [if_neg h, hx]

theorem mem_ofWrites {writes : List (String × Value)} {x : String} :
    x ∈ ofWrites writes ↔ x ∈ writes.map Prod.fst := by
  induction writes using List.reverseRecOn with
  | nil => simp [ofWrites]
  | append_singleton writes w ih =>
      obtain ⟨y, v⟩ := w
      rw [ofWrites_concat, Std.ExtTreeMap.mem_insert, ih, Std.compare_eq_iff_eq]
      simp [or_comm, eq_comm]

/-- As many names are set as different ones were assigned to. -/
theorem size_ofWrites (writes : List (String × Value)) :
    (ofWrites writes).size = (writes.map Prod.fst).eraseDups.length := by
  induction writes using List.reverseRecOn with
  | nil => rfl
  | append_singleton writes w ih =>
      obtain ⟨y, v⟩ := w
      have hmem : (ofWrites writes).contains y = true ↔ y ∈ writes.map Prod.fst := mem_ofWrites
      rw [ofWrites_concat, Std.ExtTreeMap.size_insert, ih, List.map_append, List.eraseDups_append,
        List.length_append]
      generalize writes.map Prod.fst = names at hmem ⊢
      by_cases h : y ∈ names
      · rw [if_pos (hmem.2 h)]
        simp [List.removeAll, h]
      · rw [if_neg (mt hmem.1 h)]
        simp [List.removeAll, h, List.eraseDups_cons]

/-- Where no name is assigned to twice, each has the value it was given. -/
theorem getElem?_ofWrites_eq_some_iff {writes : List (String × Value)}
    (h : (writes.map Prod.fst).Nodup) {x : String} {v : Value} :
    (ofWrites writes)[x]? = some v ↔ (x, v) ∈ writes := by
  induction writes using List.reverseRecOn with
  | nil => simp [ofWrites]
  | append_singleton writes w ih =>
      obtain ⟨y, u⟩ := w
      rw [List.map_append, List.nodup_append] at h
      rw [ofWrites_concat, getElem?_insert, List.mem_append, List.mem_singleton, Prod.mk.injEq]
      by_cases hy : y = x
      · -- what was assigned before was assigned to other names
        subst hy
        have hnew : (y, v) ∉ writes := fun hm =>
          h.2.2 y (List.mem_map_of_mem hm) y List.mem_cons_self rfl
        simp [hnew, eq_comm]
      · rw [if_neg hy, ih h.1]
        simp [Ne.symm hy]

/-- The entries of a store make the store, in whatever order they are assigned. -/
theorem ofWrites_of_perm_toList {store : Store} {entries : List (String × Value)}
    (h : entries.Perm store.toList) : ofWrites entries = store := by
  have hnames : (entries.map Prod.fst).Nodup := by
    rw [(h.map Prod.fst).nodup_iff, Std.ExtTreeMap.map_fst_toList_eq_keys]
    exact Std.ExtTreeMap.nodup_keys
  refine Std.ExtTreeMap.ext_getElem? fun x => Option.ext fun v => ?_
  rw [getElem?_ofWrites_eq_some_iff hnames, h.mem_iff,
    Std.ExtTreeMap.mem_toList_iff_getElem?_eq_some]

end Calculator.Store
