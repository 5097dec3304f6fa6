import AnalysisWebhooks.Json.Reader

namespace AnalysisWebhooks.Json

section Put

variable {κ α : Type} [DecidableEq κ]

theorem lookup_put_self (entries : List (κ × α)) (key : κ) (value : α) :
    (put entries key value).lookup key = some value := by
  induction entries with
  | nil => simp [put]
  | cons e rest ih =>
    obtain ⟨k, v⟩ := e
    rw [put]
    split
    · simp
    · rename_i h
      have hk : (key == k) = false := by simpa using fun h' => h h'.symm
      rw [List.lookup_cons, hk]
      exact ih

theorem lookup_put_other (entries : List (κ × α)) {key other : κ}
    (value : α) (h : other ≠ key) :
    (put entries key value).lookup other = entries.lookup other := by
  induction entries with
  | nil => simp [put, h]
  | cons e rest ih =>
    obtain ⟨k, v⟩ := e
    rw [put]
    split
    · rename_i hk
      have hk' : k = key := hk
      subst hk'
      have ho : (other == k) = false := by simpa using h
      simp [List.lookup_cons, ho]
    · rw [List.lookup_cons, List.lookup_cons, ih]

theorem put_of_fresh {entries : List (κ × α)} {key : κ}
    (h : key ∉ entries.map (·.1)) (value : α) :
    put entries key value = entries ++ [(key, value)] := by
  induction entries with
  | nil => rfl
  | cons e rest ih =>
    simp only [List.map_cons, List.mem_cons, not_or] at h
    rw [put, if_neg (Ne.symm h.1), ih h.2, List.cons_append]

theorem keys_put_of_mem {entries : List (κ × α)} {key : κ}
    (h : key ∈ entries.map (·.1)) (value : α) :
    (put entries key value).map (·.1) = entries.map (·.1) := by
  induction entries with
  | nil => cases h
  | cons e rest ih =>
    rw [put]
    split
    · rename_i hkey
      rw [List.map_cons, List.map_cons, hkey]
    · rename_i hkey
      rw [List.map_cons, List.mem_cons] at h
      rw [List.map_cons, List.map_cons, ih (h.resolve_left (Ne.symm hkey))]

theorem nodup_keys_put {entries : List (κ × α)} (h : (entries.map (·.1)).Nodup)
    (key : κ) (value : α) : ((put entries key value).map (·.1)).Nodup := by
  by_cases hkey : key ∈ entries.map (·.1)
  · rwa [keys_put_of_mem hkey]
  · have hother : ∀ k ∈ entries.map (·.1), k ≠ key := fun k hk heq => hkey (heq ▸ hk)
    rw [put_of_fresh hkey, List.map_append, List.nodup_append]
    exact ⟨h, by simp, by simpa using hother⟩

theorem mem_put {entries : List (κ × α)} {key : κ} {value : α}
    {e : κ × α} (h : e ∈ put entries key value) : e ∈ entries ∨ e = (key, value) := by
  induction entries with
  | nil => exact .inr (List.mem_singleton.1 h)
  | cons f rest ih =>
    rw [put] at h
    split at h
    · rcases List.mem_cons.1 h with rfl | h
      · exact .inr rfl
      · exact .inl (List.mem_cons_of_mem f h)
    · rcases List.mem_cons.1 h with rfl | h
      · exact .inl List.mem_cons_self
      · exact (ih h).imp_left (List.mem_cons_of_mem f)

end Put

inductive Distinct : Json → Prop where
  | null : Distinct null
  | bool (b : Bool) : Distinct (bool b)
  | int (n : Int) : Distinct (int n)
  | real (x : Float) : Distinct (real x)
  | text (s : RawText) : Distinct (text s)
  | array {items : List Json} (h : ∀ j ∈ items, Distinct j) : Distinct (array items)
  | object {members : Members} (keys : (members.map (·.1)).Nodup)
      (h : ∀ m ∈ members, Distinct m.2) : Distinct (object members)

theorem mergedItems_eq_map (items : List Json) : mergedItems items = items.map merged := by
  induction items with
  | nil => rfl
  | cons j items ih => rw [mergedItems, ih, List.map_cons]

theorem mergedMembers_of_distinct (seen : Members) {members : Members}
    (h : ((seen ++ members).map (·.1)).Nodup) (fixed : ∀ m ∈ members, merged m.2 = m.2) :
    mergedMembers seen members = seen ++ members := by
  induction members generalizing seen with
  | nil => rw [mergedMembers, List.append_nil]
  | cons m members ih =>
    obtain ⟨key, j⟩ := m
    have hfresh : key ∉ seen.map (·.1) := by
      rw [List.map_append, List.map_cons, List.nodup_append] at h
      exact fun hseen => h.2.2 key hseen key List.mem_cons_self rfl
    rw [mergedMembers, fixed _ List.mem_cons_self, put_of_fresh hfresh,
      ih _ (by simpa using h) fun m hm => fixed m (List.mem_cons_of_mem _ hm), List.append_assoc,
      List.singleton_append]

theorem Distinct.merged_eq_self {j : Json} (h : Distinct j) : merged j = j := by
  induction h with
  | null | bool | int | real | text => rfl
  | array h ih =>
    rw [merged, mergedItems_eq_map, List.map_congr_left ih, List.map_id']
  | object keys h ih =>
    rw [merged, mergedMembers_of_distinct [] keys ih, List.nil_append]

mutual

theorem distinct_merged : ∀ j, Distinct (merged j)
  | null => .null
  | bool b => .bool b
  | int n => .int n
  | real x => .real x
  | text s => .text s
  | array items => .array (distinct_mergedItems items)
  | object members => distinct_mergedMembers members [] (.object List.nodup_nil nofun)

theorem distinct_mergedItems : ∀ items, ∀ j ∈ mergedItems items, Distinct j
  | [], _, h => nomatch h
  | j :: rest, k, h => by
    rcases List.mem_cons.1 h with rfl | h
    · exact distinct_merged j
    · exact distinct_mergedItems rest k h

theorem distinct_mergedMembers : ∀ (members seen : Members),
    Distinct (object seen) → Distinct (object (mergedMembers seen members))
  | [], _, h => h
  | (key, j) :: rest, seen, h => by
    cases h with
    | object keys h =>
      refine distinct_mergedMembers rest _ (.object (nodup_keys_put keys key _) fun m hm => ?_)
      rcases mem_put hm with hm | rfl
      · exact h m hm
      · exact distinct_merged j

end

theorem distinct_of_ofText? {s : String} {j : Json} (h : ofText? s = some j) : Distinct j := by
  obtain ⟨k, -, rfl⟩ := Option.map_eq_some_iff.1 h
  exact distinct_merged k

end AnalysisWebhooks.Json
