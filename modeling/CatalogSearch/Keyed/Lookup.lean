import CatalogSearch.Keyed

/-!
# Lookups in keyed lists

What a lookup sees of putting and erasing an entry, that both keep the keys ascending, what is
found in a list with ascending keys, and that the lookups determine such a list.
-/
namespace CatalogSearch.Keyed

variable {α : Type}

def Ascending (entries : List (String × α)) : Prop :=
  entries.Pairwise fun a b => a.1 < b.1

/-- Of two different keys one is smaller. -/
theorem key_lt_or_lt {a b : String} (h : a ≠ b) : a < b ∨ b < a := by
  rcases String.le_total a b with hle | hle
  · exact .inl (String.not_le.1 fun hge => h (String.le_antisymm hle hge))
  · exact .inr (String.not_le.1 fun hge => h (String.le_antisymm hge hle))

@[simp] theorem find?_insert_self (key : String) (value : α) (entries : List (String × α)) :
    find? key (insert key value entries) = some value := by
  induction entries with
  | nil => simp [insert, find?]
  | cons e rest ih =>
    simp only [insert]
    split
    · simp [find?]
    · split
      · simp [find?]
      · next h => simp [find?, Ne.symm h, ih]

/-- Putting an entry changes nothing under other keys. -/
theorem find?_insert_of_ne {key other : String} (h : other ≠ key) (value : α)
    (entries : List (String × α)) :
    find? other (insert key value entries) = find? other entries := by
  induction entries with
  | nil => simp [insert, find?, Ne.symm h]
  | cons e rest ih =>
    simp only [insert]
    split
    · simp [find?, Ne.symm h]
    · split
      · next hk => subst hk; simp [find?, Ne.symm h]
      · simp [find?, ih]

theorem find?_insert (key other : String) (value : α) (entries : List (String × α)) :
    find? other (insert key value entries) =
      if key = other then some value else find? other entries := by
  split
  · next same => rw [same, find?_insert_self]
  · next different => exact find?_insert_of_ne (Ne.symm different) value entries

/-- Of two entries with one key, the later is found. -/
theorem find?_ofList (key : String) (entries : List (String × α)) :
    find? key (ofList entries) = find? key entries.reverse := by
  induction same : entries.reverse generalizing entries with
  | nil =>
    rw [List.reverse_eq_nil_iff.1 same]
    rfl
  | cons e before ih =>
    obtain rfl : entries = before.reverse ++ [e] := by
      rw [← List.reverse_reverse entries, same, List.reverse_cons]
    have last : ofList (before.reverse ++ [e]) = insert e.1 e.2 (ofList before.reverse) :=
      List.foldl_append
    rw [last, find?_insert, ih _ (List.reverse_reverse before)]
    rfl

theorem find?_erase_of_ne {key other : String} (h : other ≠ key) (entries : List (String × α)) :
    find? other (erase key entries) = find? other entries := by
  induction entries with
  | nil => rfl
  | cons e rest ih =>
    simp only [erase]
    split
    · next hk => subst hk; simp [find?, Ne.symm h]
    · simp [find?, ih]

/-- A key below all others stands for nothing. -/
theorem find?_eq_none_of_lt {key : String} {entries : List (String × α)}
    (h : ∀ e ∈ entries, key < e.1) : find? key entries = none := by
  induction entries with
  | nil => rfl
  | cons e rest ih =>
    have hk : e.1 ≠ key := fun hk =>
      String.lt_irrefl e.1 (by simpa [hk] using h e (by simp))
    simp [find?, hk, ih fun e he => h e (by simp [he])]

theorem find?_erase_self {key : String} {entries : List (String × α)} (h : Ascending entries) :
    find? key (erase key entries) = none := by
  induction entries with
  | nil => rfl
  | cons e rest ih =>
    obtain ⟨hhead, hrest⟩ := List.pairwise_cons.1 h
    simp only [erase]
    split
    · next hk => subst hk; exact find?_eq_none_of_lt hhead
    · next hk => simp [find?, hk, ih hrest]

/-- An entry after putting one is that one or was there before. -/
theorem mem_insert {key : String} {value : α} {entries : List (String × α)} {e : String × α}
    (h : e ∈ insert key value entries) : e = (key, value) ∨ e ∈ entries := by
  induction entries with
  | nil => simpa [insert] using h
  | cons f rest ih =>
    simp only [insert] at h
    split at h
    · simpa using h
    · split at h
      · simp only [List.mem_cons] at h ⊢
        exact h.imp_right Or.inr
      · simp only [List.mem_cons] at h ⊢
        rcases h with h | h
        · exact .inr (.inl h)
        · exact (ih h).imp_right Or.inr

theorem ascending_insert (key : String) (value : α) {entries : List (String × α)}
    (h : Ascending entries) : Ascending (insert key value entries) := by
  induction entries with
  | nil => simp [insert, Ascending]
  | cons e rest ih =>
    obtain ⟨hhead, hrest⟩ := List.pairwise_cons.1 h
    simp only [insert]
    split
    · next hk =>
      refine List.pairwise_cons.2 ⟨fun f hf => ?_, h⟩
      rcases List.mem_cons.1 hf with rfl | hf
      · exact hk
      · exact String.lt_trans hk (hhead f hf)
    · split
      · next hk => subst hk; exact List.pairwise_cons.2 ⟨hhead, hrest⟩
      · next hlt hne =>
        refine List.pairwise_cons.2 ⟨fun f hf => ?_, ih hrest⟩
        rcases mem_insert hf with rfl | hf
        · exact (key_lt_or_lt hne).resolve_left hlt
        · exact hhead f hf

/-- Erasing leaves the other entries in their order. -/
theorem erase_sublist (key : String) (entries : List (String × α)) :
    (erase key entries).Sublist entries := by
  induction entries with
  | nil => exact .slnil
  | cons e rest ih =>
    simp only [erase]
    split
    · exact .cons _ (List.Sublist.refl rest)
    · exact .cons_cons _ ih

theorem ascending_erase (key : String) {entries : List (String × α)} (h : Ascending entries) :
    Ascending (erase key entries) :=
  h.sublist (erase_sublist key entries)

theorem keys_adjust (key : String) (f : α → α) (entries : List (String × α)) :
    keys (adjust key f entries) = keys entries := by
  induction entries with
  | nil => rfl
  | cons e rest ih =>
    simp only [adjust]
    split
    · rfl
    · exact congrArg (e.1 :: ·) ih

theorem ascending_adjust (key : String) (f : α → α) {entries : List (String × α)}
    (h : Ascending entries) : Ascending (adjust key f entries) := by
  have hkeys : (keys (adjust key f entries)).Pairwise (· < ·) := by
    rw [keys_adjust]
    exact List.pairwise_map.2 h
  exact List.pairwise_map.1 hkeys

/-- An entry after replacing a value is the replaced one or was there before. -/
theorem mem_adjust {key : String} {f : α → α} {entries : List (String × α)} {e : String × α}
    (h : e ∈ adjust key f entries) : (∃ value, (key, value) ∈ entries ∧ e = (key, f value)) ∨
      e ∈ entries := by
  induction entries with
  | nil => cases h
  | cons g rest ih =>
    simp only [adjust] at h
    split at h
    · next hk =>
      rcases List.mem_cons.1 h with rfl | h
      · exact .inl ⟨g.2, by simp [← hk], by rw [hk]⟩
      · exact .inr (List.mem_cons_of_mem _ h)
    · rcases List.mem_cons.1 h with rfl | h
      · exact .inr List.mem_cons_self
      · exact (ih h).imp (fun ⟨value, hin, heq⟩ => ⟨value, List.mem_cons_of_mem _ hin, heq⟩)
          (List.mem_cons_of_mem _)

theorem ascending_ofList (entries : List (String × α)) : Ascending (ofList entries) := by
  have grow (rest acc : List (String × α)) (h : Ascending acc) :
      Ascending (rest.foldl (fun acc e => insert e.1 e.2 acc) acc) := by
    induction rest generalizing acc with
    | nil => exact h
    | cons e rest ih => exact ih _ (ascending_insert e.1 e.2 h)
  exact grow entries [] .nil

/-- An entry with its key stands in the list when it is found. -/
theorem mem_of_find? {key : String} {value : α} {entries : List (String × α)}
    (h : find? key entries = some value) : (key, value) ∈ entries := by
  induction entries with
  | nil => cases h
  | cons e rest ih =>
    simp only [find?] at h
    split at h
    · next hk =>
      obtain rfl := Option.some.inj h
      exact hk ▸ List.mem_cons_self
    · exact List.mem_cons_of_mem _ (ih h)

/-- Nothing is found under a key that no entry has. -/
theorem find?_eq_none_iff {key : String} {entries : List (String × α)} :
    find? key entries = none ↔ key ∉ keys entries := by
  induction entries with
  | nil => simp [find?, keys]
  | cons e rest ih =>
    by_cases hk : e.1 = key
    · simp [find?, keys, hk]
    · simpa [find?, keys, hk, Ne.symm hk] using ih

/-- A key is contained if an entry has it. -/
theorem contains_iff {key : String} {entries : List (String × α)} :
    contains key entries = true ↔ key ∈ keys entries := by
  rw [contains, Option.isSome_iff_ne_none, Ne, find?_eq_none_iff, Decidable.not_not]

theorem nodup_keys {entries : List (String × α)} (h : Ascending entries) :
    (keys entries).Nodup := by
  refine List.pairwise_map.2 (h.imp fun {a b} hlt heq => ?_)
  rw [heq] at hlt
  exact String.lt_irrefl b.1 hlt

theorem find?_of_mem {entries : List (String × α)} (h : Ascending entries) {e : String × α}
    (he : e ∈ entries) : find? e.1 entries = some e.2 := by
  induction entries with
  | nil => cases he
  | cons f rest ih =>
    obtain ⟨hhead, hrest⟩ := List.pairwise_cons.1 h
    rcases List.mem_cons.1 he with rfl | he
    · simp [find?]
    · have hne : f.1 ≠ e.1 := fun hk => String.lt_irrefl f.1 (by simpa [hk] using hhead e he)
      simp [find?, hne, ih hrest he]

theorem ascending_map {β : Type} (f : α → β) {entries : List (String × α)}
    (h : Ascending entries) : Ascending (entries.map fun e => (e.1, f e.2)) :=
  List.pairwise_map.2 h

/-- What is found after changing the values is what was found before, changed. -/
theorem find?_map {β : Type} (f : α → β) (key : String) (entries : List (String × α)) :
    find? key (entries.map fun e => (e.1, f e.2)) = (find? key entries).map f := by
  induction entries with
  | nil => rfl
  | cons e rest ih =>
    by_cases hk : e.1 = key
    · simp [find?, hk]
    · simp [find?, hk, ih]

theorem contains_map {β : Type} (f : α → β) (key : String) (entries : List (String × α)) :
    contains key (entries.map fun e => (e.1, f e.2)) = contains key entries := by
  rw [contains, find?_map, Option.isSome_map, contains]

/-- Two lists with ascending keys that answer every lookup alike are equal. -/
theorem eq_of_find?_eq {a b : List (String × α)} (ha : Ascending a) (hb : Ascending b)
    (h : ∀ key, find? key a = find? key b) : a = b := by
  induction a generalizing b with
  | nil =>
    cases b with
    | nil => rfl
    | cons f rest => simpa [find?] using h f.1
  | cons e ra ih =>
    obtain ⟨hea, hra⟩ := List.pairwise_cons.1 ha
    cases b with
    | nil => simpa [find?] using h e.1
    | cons f rb =>
      obtain ⟨hfb, hrb⟩ := List.pairwise_cons.1 hb
      have hkey : e.1 = f.1 := by
        apply Decidable.byContradiction
        intro hne
        rcases key_lt_or_lt hne with hlt | hlt
        · have hnone : find? e.1 (f :: rb) = none := find?_eq_none_of_lt fun g hg => by
            rcases List.mem_cons.1 hg with rfl | hg
            · exact hlt
            · exact String.lt_trans hlt (hfb g hg)
          simpa [find?] using (h e.1).trans hnone
        · have hnone : find? f.1 (e :: ra) = none := find?_eq_none_of_lt fun g hg => by
            rcases List.mem_cons.1 hg with rfl | hg
            · exact hlt
            · exact String.lt_trans hlt (hea g hg)
          simpa [find?] using (h f.1).symm.trans hnone
      have hvalue : e.2 = f.2 := by simpa [find?, hkey] using h e.1
      have hrest : ra = rb := ih hra hrb fun key => by
        by_cases hk : e.1 = key
        · rw [find?_eq_none_of_lt fun g hg => hk ▸ hea g hg,
            find?_eq_none_of_lt fun g hg => (hkey.symm.trans hk) ▸ hfb g hg]
        · simpa [find?, hk, ← hkey] using h key
      rw [hrest, Prod.ext hkey hvalue]

/-- Putting in what stands there already changes nothing. -/
theorem insert_of_find? {key : String} {value : α} {entries : List (String × α)}
    (h : Ascending entries) (found : find? key entries = some value) :
    insert key value entries = entries := by
  refine eq_of_find?_eq (ascending_insert key value h) h fun other => ?_
  rw [find?_insert]
  split
  · next same => rw [← same, found]
  · rfl

/-- A list with ascending keys is the keyed list of its entries. -/
theorem ofList_of_ascending {entries : List (String × α)} (h : Ascending entries) :
    ofList entries = entries := by
  have grow (rest acc : List (String × α)) (key : String) (hrest : Ascending rest) :
      find? key (rest.foldl (fun acc e => insert e.1 e.2 acc) acc) =
        (find? key rest).or (find? key acc) := by
    induction rest generalizing acc with
    | nil => rfl
    | cons e rest ih =>
      obtain ⟨hhead, htail⟩ := List.pairwise_cons.1 hrest
      rw [List.foldl_cons, ih _ htail]
      by_cases hk : e.1 = key
      · subst hk
        simp [find?, find?_eq_none_of_lt hhead]
      · simp [find?, hk, find?_insert_of_ne (Ne.symm hk)]
  refine eq_of_find?_eq (ascending_ofList entries) h fun key => ?_
  rw [ofList, grow entries [] key h]
  simp [find?]

end CatalogSearch.Keyed
