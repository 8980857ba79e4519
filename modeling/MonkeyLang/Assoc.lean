/-!
Association lists that remember the order in which keys first arrived. Scopes,
hash values and JSON objects are all kept in this form, because each of them
shows that order. Writing to a key that is present replaces the value in place.
-/

namespace MonkeyLang.Assoc

universe u v
variable {Key : Type u} {Item : Type v} [DecidableEq Key]

/-- A new key goes to the end; a present key keeps its place. -/
def insert (key : Key) (item : Item) : List (Key × Item) → List (Key × Item)
  | [] => [(key, item)]
  | (first, old) :: rest =>
      if first = key then (key, item) :: rest else (first, old) :: insert key item rest

/-- The keys in order of first arrival. -/
def keys (entries : List (Key × Item)) : List Key :=
  entries.map Prod.fst

theorem lookup_insert (key other : Key) (item : Item) (entries : List (Key × Item)) :
    (insert key item entries).lookup other =
      if other = key then some item else entries.lookup other := by
  induction entries with
  | nil =>
      by_cases same : other = key
      · simp [insert, same]
      · have apart : (other == key) = false := by simpa using same
        simp [insert, List.lookup_cons, same, apart]
  | cons entry rest ih =>
      obtain ⟨first, old⟩ := entry
      by_cases here : first = key
      · subst here
        by_cases same : other = first
        · simp [insert, same]
        · have apart : (other == first) = false := by simpa using same
          simp [insert, List.lookup_cons, same, apart]
      · by_cases same : other = first
        · subst same
          simp [insert, here]
        · have apart : (other == first) = false := by simpa using same
          simp [insert, here, List.lookup_cons, apart, ih]

theorem keys_insert (key : Key) (item : Item) (entries : List (Key × Item)) :
    keys (insert key item entries) =
      if key ∈ keys entries then keys entries else keys entries ++ [key] := by
  induction entries with
  | nil => simp [insert, keys]
  | cons entry rest ih =>
      obtain ⟨first, old⟩ := entry
      by_cases here : first = key
      · simp [insert, keys, here]
      · have apart : ¬ key = first := Ne.symm here
        simp only [keys] at ih
        by_cases later : key ∈ rest.map Prod.fst <;>
          simp [insert, keys, here, apart, later, ih]

theorem eraseDups_concat {α : Type u} [BEq α] [LawfulBEq α] (items : List α) (item : α) :
    (items ++ [item]).eraseDups =
      if item ∈ items then items.eraseDups else items.eraseDups ++ [item] := by
  rw [List.eraseDups_append]
  by_cases old : item ∈ items <;> simp [List.removeAll, old, List.eraseDups_cons]

theorem lookup_of_mem {entries : List (Key × Item)} (distinct : (keys entries).Nodup)
    {entry : Key × Item} (member : entry ∈ entries) :
    entries.lookup entry.1 = some entry.2 := by
  obtain ⟨before, after, rfl⟩ := List.append_of_mem member
  refine List.lookup_eq_some_iff.mpr ⟨before, after, rfl, fun other earlier => ?_⟩
  rw [keys, List.map_append, List.nodup_append] at distinct
  have apart := distinct.2.2 other.1 (List.mem_map_of_mem earlier) entry.1 List.mem_cons_self
  exact bne_iff_ne.mpr (Ne.symm apart)

theorem mem_of_lookup {key : Key} {item : Item} {entries : List (Key × Item)}
    (found : entries.lookup key = some item) : (key, item) ∈ entries := by
  obtain ⟨before, after, split, -⟩ := List.lookup_eq_some_iff.mp found
  rw [split]
  simp

theorem mem_insert {key : Key} {item : Item} {entry : Key × Item} {entries : List (Key × Item)}
    (member : entry ∈ insert key item entries) : entry = (key, item) ∨ entry ∈ entries := by
  induction entries with
  | nil => exact .inl (List.mem_singleton.mp member)
  | cons head rest ih =>
      simp only [insert] at member
      split at member
      · exact (List.mem_cons.mp member).imp_right (List.mem_cons_of_mem head)
      · rcases List.mem_cons.mp member with same | later
        · exact .inr (List.mem_cons.mpr (.inl same))
        · exact (ih later).imp_right (List.mem_cons_of_mem head)

end MonkeyLang.Assoc
