/-!
# Entries in order

Documents are full of mappings whose order is visible in the generated code:
the properties of a struct, the schemas of a document, the parameters of an
operation.  This module represents such a mapping as the list of its entries.

`put` is the rule for writing an entry: a new key goes to the end, and a key
that is already there keeps its place and takes the new value.  The statements
say what `put` does to the keys and to later look-ups.
-/

namespace ApiScaffold

universe u v

/-- A mapping kept as the list of its entries, in the order of their keys. -/
abbrev Entries (κ : Type u) (α : Type v) := List (κ × α)

namespace Entries

variable {κ : Type u} {α : Type v} [DecidableEq κ]

/-- The keys, in order. -/
def keys (entries : Entries κ α) : List κ :=
  entries.map Prod.fst

/-- The value of the first entry with this key. -/
def get? : Entries κ α → κ → Option α
  | [], _ => none
  | (key, value) :: rest, wanted =>
      if key = wanted then some value else get? rest wanted

/-- Whether some entry has this key. -/
def hasKey (entries : Entries κ α) (wanted : κ) : Bool :=
  (entries.get? wanted).isSome

/-- Write an entry: a key that is present keeps its place. -/
def put : Entries κ α → κ → α → Entries κ α
  | [], key, value => [(key, value)]
  | (key, value) :: rest, wanted, replacement =>
      if key = wanted then (key, replacement) :: rest
      else (key, value) :: put rest wanted replacement

/-- Write a list of entries one after the other. -/
def putAll (entries : Entries κ α) (additions : List (κ × α)) : Entries κ α :=
  additions.foldl (fun current addition => current.put addition.1 addition.2) entries

/-- The mapping that results from writing these entries from the left. -/
def ofList (additions : List (κ × α)) : Entries κ α :=
  putAll [] additions

omit [DecidableEq κ] in
@[simp]
theorem keys_nil : keys ([] : Entries κ α) = [] :=
  rfl

omit [DecidableEq κ] in
@[simp]
theorem keys_cons (entry : κ × α) (rest : Entries κ α) :
    keys (entry :: rest) = entry.1 :: keys rest :=
  rfl

@[simp]
theorem get?_nil (wanted : κ) : get? ([] : Entries κ α) wanted = none :=
  rfl

theorem get?_eq_none_iff (entries : Entries κ α) (wanted : κ) :
    entries.get? wanted = none ↔ wanted ∉ entries.keys := by
  induction entries with
  | nil => simp [get?]
  | cons entry rest ih =>
      rcases entry with ⟨key, value⟩
      by_cases equal : key = wanted
      · simp [get?, equal]
      · simp [get?, equal, ih, Ne.symm equal]

theorem get?_isSome_iff (entries : Entries κ α) (wanted : κ) :
    (entries.get? wanted).isSome ↔ wanted ∈ entries.keys := by
  have absent := get?_eq_none_iff entries wanted
  cases found : entries.get? wanted with
  | none => simpa [found] using absent
  | some value => simpa [found] using absent

/-- A key is a name under which something is found. -/
theorem mem_keys_iff {entries : Entries κ α} {key : κ} :
    key ∈ entries.keys ↔ ∃ value, entries.get? key = some value := by
  rw [← get?_isSome_iff]
  exact Option.isSome_iff_exists

@[simp]
theorem hasKey_eq_true_iff (entries : Entries κ α) (wanted : κ) :
    entries.hasKey wanted = true ↔ wanted ∈ entries.keys :=
  get?_isSome_iff entries wanted

/-- A value that is found belongs to an entry. -/
theorem mem_of_get? {entries : Entries κ α} {wanted : κ} {value : α}
    (found : entries.get? wanted = some value) : (wanted, value) ∈ entries := by
  induction entries with
  | nil => simp at found
  | cons entry rest ih =>
      rcases entry with ⟨key, first⟩
      by_cases equal : key = wanted
      · simp only [get?, equal, if_true, Option.some.injEq] at found
        simp [equal, found]
      · simp only [get?, equal, if_false] at found
        exact List.mem_cons_of_mem _ (ih found)

/-- If no key occurs twice, every entry is the one that is found under its key. -/
theorem get?_eq_some_of_mem {entries : Entries κ α} {key : κ} {value : α}
    (distinct : entries.keys.Nodup) (member : (key, value) ∈ entries) :
    entries.get? key = some value := by
  induction entries with
  | nil => simp at member
  | cons entry rest ih =>
      rcases entry with ⟨first, old⟩
      simp only [keys_cons, List.nodup_cons] at distinct
      rcases List.mem_cons.mp member with equal | inRest
      · cases equal
        simp [get?]
      · have different : first ≠ key := by
          intro equal
          exact distinct.1 (equal ▸ List.mem_map.mpr ⟨_, inRest, rfl⟩)
        simp [get?, different, ih distinct.2 inRest]

theorem get?_put_self (entries : Entries κ α) (key : κ) (value : α) :
    (entries.put key value).get? key = some value := by
  induction entries with
  | nil => simp [put, get?]
  | cons entry rest ih =>
      rcases entry with ⟨first, old⟩
      by_cases equal : first = key
      · simp [put, get?, equal]
      · simp [put, get?, equal, ih]

theorem get?_put_of_ne (entries : Entries κ α) {key wanted : κ} (value : α)
    (different : key ≠ wanted) :
    (entries.put key value).get? wanted = entries.get? wanted := by
  induction entries with
  | nil => simp [put, get?, different]
  | cons entry rest ih =>
      rcases entry with ⟨first, old⟩
      by_cases equal : first = key
      · have other : first ≠ wanted := equal ▸ different
        simp [put, get?, equal, different]
      · by_cases same : first = wanted
        · subst same
          simp [put, get?, Ne.symm different]
        · simp [put, get?, equal, same, ih]

/-- Writing an entry adds its key at the end, unless the key is there. -/
theorem keys_put (entries : Entries κ α) (key : κ) (value : α) :
    (entries.put key value).keys =
      if key ∈ entries.keys then entries.keys else entries.keys ++ [key] := by
  induction entries with
  | nil => simp [put]
  | cons entry rest ih =>
      rcases entry with ⟨first, old⟩
      by_cases equal : first = key
      · simp [put, equal]
      · by_cases member : key ∈ keys rest
        · simp [put, equal, ih, member]
        · simp [put, equal, Ne.symm equal, ih, member]

/-- Writing an entry keeps the keys distinct. -/
theorem nodup_keys_put {entries : Entries κ α} (distinct : entries.keys.Nodup)
    (key : κ) (value : α) : (entries.put key value).keys.Nodup := by
  rw [keys_put]
  by_cases member : key ∈ entries.keys
  · simpa [member] using distinct
  · simp only [member, if_false]
    refine List.nodup_append.mpr ⟨distinct, by simp, ?_⟩
    intro present presentMem added addedMem equal
    simp only [List.mem_singleton] at addedMem
    exact member (addedMem ▸ equal ▸ presentMem)

theorem nodup_keys_putAll {entries : Entries κ α} (distinct : entries.keys.Nodup)
    (additions : List (κ × α)) : (entries.putAll additions).keys.Nodup := by
  induction additions generalizing entries with
  | nil => exact distinct
  | cons addition rest ih => exact ih (nodup_keys_put distinct addition.1 addition.2)

/-- A mapping built by writing entries has distinct keys. -/
theorem nodup_keys_ofList (additions : List (κ × α)) :
    (ofList additions).keys.Nodup :=
  nodup_keys_putAll (by simp) additions

end Entries

end ApiScaffold
