import ViewLink.Json.Members

/-!
# Members and their pairs

A map of members is determined by its pairs, and these come in ascending order of their keys. So
building a map from the pairs of another gives that map again: each pair goes to the end.
-/

set_option autoImplicit false

namespace ViewLink.Json.Members

variable {α : Type}

theorem toList_injective {bound : Option String} {m n : Members α bound}
    (h : m.toList = n.toList) : m = n := by
  induction m with
  | nil =>
      cases n with
      | nil => rfl
      | cons key above value rest => cases h
  | cons key above value rest ih =>
      cases n with
      | nil => cases h
      | cons key' above' value' rest' =>
          obtain ⟨hpair, hrest⟩ := List.cons.inj h
          obtain ⟨rfl, rfl⟩ := Prod.mk.inj hpair
          rw [ih hrest]

theorem above_of_lt {bound : Option String} {key key' : String} (h : Above bound key)
    (hlt : key < key') : Above bound key' := by
  cases bound with
  | none => trivial
  | some lower => exact String.lt_trans h hlt

theorem above_of_mem {bound : Option String} {m : Members α bound} :
    ∀ p ∈ m.toList, Above bound p.1 := by
  induction m with
  | nil => simp [toList]
  | cons key above value rest ih =>
      intro p hp
      rcases List.mem_cons.1 hp with rfl | hp
      · exact above
      · exact above_of_lt above (ih p hp)

/-- **The keys ascend.** -/
theorem pairwise_keys {bound : Option String} (m : Members α bound) :
    (m.toList.map Prod.fst).Pairwise (· < ·) := by
  induction m with
  | nil => exact .nil
  | cons key above value rest ih =>
      refine List.pairwise_cons.2 ⟨fun later hlater => ?_, ih⟩
      obtain ⟨p, hp, rfl⟩ := List.mem_map.1 hlater
      exact above_of_mem p hp

/-- A key beyond all others goes to the end. -/
theorem toList_insert_of_forall_lt {key : String} (value : α) {bound : Option String}
    (above : Above bound key) {m : Members α bound} (h : ∀ p ∈ m.toList, p.1 < key) :
    (m.insert key value above).toList = m.toList ++ [(key, value)] := by
  induction m with
  | nil => rfl
  | cons k aboveK v rest ih =>
      have hk : k < key := h (k, v) (by simp [toList])
      have hnot : ¬ key < k := fun hlt => String.lt_irrefl k (String.lt_trans hk hlt)
      rw [insert, dif_neg hnot, dif_pos hk, toList, toList,
        ih hk fun p hp => h p (by simp [toList, hp])]
      rfl

theorem toList_foldl_insert {bound : Option String} (m : Members α bound)
    (acc : Members α none) (h : ∀ p ∈ acc.toList, ∀ key, Above bound key → p.1 < key) :
    (m.toList.foldl (fun members pair => members.insert pair.1 pair.2 trivial) acc).toList
      = acc.toList ++ m.toList := by
  -- Along the map. The pairs inserted so far have smaller keys than all that are still to come.
  induction m generalizing acc with
  | nil => simp [toList]
  | cons key above value rest ih =>
      have unbounded : Above none key := trivial
      have hinsert : (acc.insert key value unbounded).toList = acc.toList ++ [(key, value)] :=
        toList_insert_of_forall_lt value unbounded fun p hp => h p hp key above
      rw [toList, List.foldl_cons, ih, hinsert, List.append_assoc, List.singleton_append]
      -- The rest of the map lies beyond this pair, too.
      intro p hp key' hlt
      rw [hinsert, List.mem_append, List.mem_singleton] at hp
      rcases hp with hp | rfl
      · exact String.lt_trans (h p hp key above) hlt
      · exact hlt

/-- **A map is built again from its pairs.** -/
theorem ofList_toList (m : Members α none) : ofList m.toList = m :=
  toList_injective (toList_foldl_insert m .nil (by simp [toList]))

/-! ## Looking up in a map of pairs -/

theorem find?_foldl_insert_of_ne {key : String} {pairs : List (String × α)}
    (h : ∀ p ∈ pairs, p.1 ≠ key) (acc : Members α none) :
    (pairs.foldl (fun members pair => members.insert pair.1 pair.2 trivial) acc).find? key
      = acc.find? key := by
  induction pairs generalizing acc with
  | nil => rfl
  | cons p pairs ih =>
      obtain ⟨hp, hpairs⟩ := List.forall_mem_cons.1 h
      rw [List.foldl_cons]
      exact (ih hpairs _).trans (find?_insert_of_ne hp.symm p.2 _ acc)

theorem find?_ofList_of_ne {key : String} {pairs : List (String × α)}
    (h : ∀ p ∈ pairs, p.1 ≠ key) : (ofList pairs).find? key = none :=
  find?_foldl_insert_of_ne h .nil

/-- **A pair is found under its key** when no other pair has this key. -/
theorem find?_ofList_of_mem {pairs : List (String × α)} (distinct : (pairs.map Prod.fst).Nodup)
    {key : String} {value : α} (h : (key, value) ∈ pairs) :
    (ofList pairs).find? key = some value := by
  rw [ofList]
  generalize (Members.nil : Members α none) = acc
  induction pairs generalizing acc with
  | nil => cases h
  | cons p pairs ih =>
      obtain ⟨hp, hpairs⟩ := List.nodup_cons.1 distinct
      rw [List.foldl_cons]
      rcases List.mem_cons.1 h with rfl | h
      · have hne : ∀ q ∈ pairs, q.1 ≠ key := by
          rintro q hq hkey
          exact hp (List.mem_map.2 ⟨q, hq, hkey⟩)
        exact (find?_foldl_insert_of_ne hne _).trans (find?_insert_self key value _ acc)
      · exact ih hpairs h _

end ViewLink.Json.Members
