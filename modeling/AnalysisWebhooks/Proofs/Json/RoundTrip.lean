import AnalysisWebhooks.Proofs.Json.Merging
import AnalysisWebhooks.Proofs.Json.Texts

namespace AnalysisWebhooks.Json

open Text

inductive Plain : Json → Prop where
  | null : Plain null
  | bool (b : Bool) : Plain (bool b)
  | text (s : RawText) : Plain (text s)
  | array {items : List Json} (h : ∀ j ∈ items, Plain j) : Plain (array items)
  | object {members : Members} (keys : (members.map (·.1)).Nodup)
      (h : ∀ m ∈ members, Plain m.2) : Plain (object members)

@[simp]
theorem plain_text (s : RawText) : Plain (text s) :=
  .text s

@[simp]
theorem plain_bool (b : Bool) : Plain (bool b) :=
  .bool b

@[simp]
theorem plain_array_iff {items : List Json} : Plain (array items) ↔ ∀ j ∈ items, Plain j :=
  ⟨fun h => by cases h; assumption, .array⟩

@[simp]
theorem plain_object_iff {members : Members} :
    Plain (object members) ↔ (members.map (·.1)).Nodup ∧ ∀ m ∈ members, Plain m.2 :=
  ⟨fun h => by cases h; exact ⟨‹_›, ‹_›⟩, fun h => .object h.1 h.2⟩

theorem Plain.distinct {j : Json} (h : Plain j) : Distinct j := by
  induction h with
  | null => exact .null
  | bool b => exact .bool b
  | text s => exact .text s
  | array h ih => exact .array ih
  | object keys h ih => exact .object keys ih

theorem itemChars_cons_append (j : Json) (items : List Json) (rest : List Char) :
    itemChars (j :: items) ++ ']' :: rest =
      chars j ++ (if items = [] then ']' :: rest else ',' :: (itemChars items ++ ']' :: rest)) := by
  cases items <;> simp [itemChars]

theorem memberChars_cons_append (m : RawText × Json) (members : Members) (rest : List Char) :
    memberChars (m :: members) ++ '\x7d' :: rest =
      '"' :: (m.1.units.flatMap escaped ++ '"' :: ':' :: (chars m.2 ++
        (if members = [] then '\x7d' :: rest
          else ',' :: (memberChars members ++ '\x7d' :: rest)))) := by
  cases members <;> simp [memberChars, textChars]

theorem length_itemChars_cons (j : Json) (items : List Json) : (itemChars (j :: items)).length =
    (chars j).length + if items = [] then 0 else (itemChars items).length + 1 := by
  cases items <;> simp [itemChars]

theorem length_memberChars_cons (m : RawText × Json) (members : Members) :
    (memberChars (m :: members)).length = (textChars m.1).length + 1 +
      (chars m.2).length + if members = [] then 0 else (memberChars members).length + 1 := by
  cases members <;> simp [memberChars] <;> omega

theorem skipSpace_cons {c : Char} (h : isSpace c = false) (rest : List Char) :
    skipSpace (c :: rest) = c :: rest := by
  simp [skipSpace, h]

theorem Plain.chars_eq_cons {j : Json} (h : Plain j) :
    ∃ c rest, chars j = c :: rest ∧ isSpace c = false ∧ c ≠ ']' := by
  cases h with
  | null => exact ⟨_, _, rfl, rfl, by decide⟩
  | bool b => cases b <;> exact ⟨_, _, rfl, rfl, by decide⟩
  | text s => exact ⟨_, _, rfl, rfl, by decide⟩
  | array h => exact ⟨_, _, rfl, rfl, by decide⟩
  | object keys h => exact ⟨_, _, rfl, rfl, by decide⟩

theorem Plain.skipSpace_chars {j : Json} (h : Plain j) (rest : List Char) :
    skipSpace (chars j ++ rest) = chars j ++ rest := by
  obtain ⟨c, after, hchars, hc, -⟩ := h.chars_eq_cons
  rw [hchars, List.cons_append, skipSpace_cons hc]

theorem skipSpace_itemChars {items : List Json} (plain : ∀ j ∈ items, Plain j)
    (rest : List Char) :
    skipSpace (itemChars items ++ ']' :: rest) = itemChars items ++ ']' :: rest := by
  cases items with
  | nil => exact skipSpace_cons rfl rest
  | cons j items => rw [itemChars_cons_append, (plain j List.mem_cons_self).skipSpace_chars]

theorem skipSpace_memberChars (members : Members) (rest : List Char) :
    skipSpace (memberChars members ++ '\x7d' :: rest) = memberChars members ++ '\x7d' :: rest := by
  cases members with
  | nil => exact skipSpace_cons rfl rest
  | cons m members => rw [memberChars_cons_append, skipSpace_cons rfl]

def ReadsBack (j : Json) : Prop :=
  ∀ (fuel : Nat) (rest : List Char), 2 * (chars j).length ≤ fuel →
    readValue fuel (chars j ++ rest) = some (j, rest)

theorem readItems_itemChars {items : List Json} (plain : ∀ j ∈ items, Plain j)
    (h : ∀ j ∈ items, ReadsBack j) (hne : items ≠ []) (fuel : Nat)
    (hfuel : 2 * (itemChars items).length + 1 ≤ fuel) (rest : List Char) :
    readItems fuel (itemChars items ++ ']' :: rest) = some (items, rest) := by
  induction items generalizing fuel with
  | nil => exact absurd rfl hne
  | cons j items ih =>
    obtain ⟨fuel, rfl⟩ := Nat.exists_eq_add_of_le' (Nat.le_of_add_left_le hfuel)
    rw [length_itemChars_cons] at hfuel
    rw [itemChars_cons_append, readItems, h j List.mem_cons_self fuel _ (by omega)]
    by_cases hlast : items = []
    · subst hlast
      rfl
    · rw [if_neg hlast] at hfuel ⊢
      have plain' : ∀ k ∈ items, Plain k := fun k hk => plain k (List.mem_cons_of_mem j hk)
      have hrest := ih plain' (fun k hk => h k (List.mem_cons_of_mem j hk)) hlast
        fuel (by omega)
      simp [skipSpace_cons (show isSpace ',' = false from rfl), skipSpace_itemChars plain', hrest]

theorem readMembers_memberChars {members : Members} (plain : ∀ m ∈ members, Plain m.2)
    (h : ∀ m ∈ members, ReadsBack m.2) (hne : members ≠ []) (fuel : Nat)
    (hfuel : 2 * (memberChars members).length + 1 ≤ fuel) (rest : List Char) :
    readMembers fuel (memberChars members ++ '\x7d' :: rest) = some (members, rest) := by
  induction members generalizing fuel with
  | nil => exact absurd rfl hne
  | cons m members ih =>
    obtain ⟨fuel, rfl⟩ := Nat.exists_eq_add_of_le' (Nat.le_of_add_left_le hfuel)
    rw [length_memberChars_cons] at hfuel
    have hvalue := h m List.mem_cons_self fuel
    rw [memberChars_cons_append, readMembers]
    simp only [readText_flatMap_escaped, skipSpace_cons (show isSpace ':' = false from rfl),
      (plain m List.mem_cons_self).skipSpace_chars]
    rw [hvalue _ (by omega)]
    by_cases hlast : members = []
    · subst hlast
      rfl
    · rw [if_neg hlast] at hfuel ⊢
      have hrest := ih (fun k hk => plain k (List.mem_cons_of_mem m hk))
        (fun k hk => h k (List.mem_cons_of_mem m hk)) hlast fuel (by omega)
      simp [skipSpace_cons (show isSpace ',' = false from rfl), skipSpace_memberChars, hrest]

theorem Plain.readsBack_of_succ {j : Json} (h : Plain j)
    (reads : ∀ (fuel : Nat) (rest : List Char), 2 * (chars j).length ≤ fuel + 1 →
      readValue (fuel + 1) (chars j ++ rest) = some (j, rest)) : ReadsBack j := by
  intro fuel rest hfuel
  obtain ⟨c, after, hchars, -⟩ := h.chars_eq_cons
  cases fuel with
  | zero => simp [hchars] at hfuel
  | succ fuel => exact reads fuel rest hfuel

theorem Plain.readsBack {j : Json} (h : Plain j) : ReadsBack j := by
  induction h with
  | null => exact Plain.null.readsBack_of_succ fun _ _ _ => rfl
  | bool b => exact (Plain.bool b).readsBack_of_succ fun _ _ _ => by cases b <;> rfl
  | text s =>
    refine (Plain.text s).readsBack_of_succ fun fuel rest _ => ?_
    simp [chars, textChars, readValue, readText_flatMap_escaped]
  | @array items plain ih =>
    refine (Plain.array plain).readsBack_of_succ fun fuel rest hfuel => ?_
    rw [chars, List.cons_append, List.append_assoc, List.singleton_append, readValue]
    simp only [Char.reduceEq, if_false, if_true, skipSpace_itemChars plain]
    cases items with
    | nil => rfl
    | cons j items =>
      have hread := readItems_itemChars plain ih (List.cons_ne_nil j items) fuel (by
        simp only [chars, List.length_cons, List.length_append, List.length_nil] at hfuel
        omega) rest
      obtain ⟨c, after, hchars, -, hc⟩ := (plain j List.mem_cons_self).chars_eq_cons
      split
      · rename_i hstart
        rw [itemChars_cons_append, hchars, List.cons_append] at hstart
        exact absurd (List.cons.inj hstart).1 hc
      · rw [hread, Option.map_some]
  | @object members keys plain ih =>
    refine (Plain.object keys plain).readsBack_of_succ fun fuel rest hfuel => ?_
    rw [chars, List.cons_append, List.append_assoc, List.singleton_append, readValue]
    simp only [Char.reduceEq, if_false, if_true, skipSpace_memberChars]
    cases members with
    | nil => rfl
    | cons m members =>
      have hread := readMembers_memberChars plain ih (List.cons_ne_nil m members) fuel (by
        simp only [chars, List.length_cons, List.length_append, List.length_nil] at hfuel
        omega) rest
      rw [memberChars_cons_append] at hread ⊢
      simp [hread]

theorem parse?_write {j : Json} (h : Plain j) : parse? (write j) = some j := by
  have hskip := h.skipSpace_chars []
  have hread := h.readsBack (2 * (chars j).length + 2) [] (Nat.le_add_right _ _)
  rw [List.append_nil] at hskip hread
  rw [parse?, write, String.toList_ofList, hskip, hread]
  rfl

theorem printable_itemChars {items : List Json}
    (h : ∀ j ∈ items, ∀ c ∈ chars j, Printable c) : ∀ c ∈ itemChars items, Printable c := by
  induction items with
  | nil => exact List.forall_mem_nil _
  | cons j items ih =>
    rw [List.forall_mem_cons] at h
    cases items with
    | nil => exact h.1
    | cons k items =>
      rw [itemChars, List.forall_mem_append, List.forall_mem_cons]
      exact ⟨h.1, by decide, ih h.2⟩

theorem printable_memberChars {members : Members}
    (h : ∀ m ∈ members, ∀ c ∈ chars m.2, Printable c) :
    ∀ c ∈ memberChars members, Printable c := by
  induction members with
  | nil => exact List.forall_mem_nil _
  | cons m members ih =>
    rw [List.forall_mem_cons] at h
    have hkey : ∀ c ∈ textChars m.1, Printable c := fun c => printable_of_mem_textChars
    cases members with
    | nil =>
      rw [memberChars, List.forall_mem_append, List.forall_mem_cons]
      exact ⟨hkey, by decide, h.1⟩
    | cons k members =>
      rw [memberChars, List.forall_mem_append, List.forall_mem_cons, List.forall_mem_append,
        List.forall_mem_cons]
      exact ⟨hkey, by decide, h.1, by decide, ih h.2⟩

theorem printable_of_all {l : List Char} (h : l.all (fun c => Printable c) = true) :
    ∀ c ∈ l, Printable c := by
  simpa using h

theorem Plain.printable {j : Json} (h : Plain j) : ∀ c ∈ chars j, Printable c := by
  induction h with
  | null => exact printable_of_all (by decide)
  | bool b => cases b <;> exact printable_of_all (by decide)
  | text s => exact fun c => printable_of_mem_textChars
  | array plain ih =>
    rw [chars, List.forall_mem_cons, List.forall_mem_append, List.forall_mem_singleton]
    exact ⟨by decide, printable_itemChars ih, by decide⟩
  | object keys plain ih =>
    rw [chars, List.forall_mem_cons, List.forall_mem_append, List.forall_mem_singleton]
    exact ⟨by decide, printable_memberChars ih, by decide⟩

theorem ofText?_write {j : Json} (h : Plain j) : ofText? (write j) = some j := by
  rw [ofText?, parse?_write h, Option.map_some, h.distinct.merged_eq_self]

end AnalysisWebhooks.Json
