import ApiScaffold.Proofs.Collection.Rearrangement
import ApiScaffold.Service.Operations

/-!
# Responses that are kept

A response is kept if its key writes a status code of success.  If no two keys write the same
code, the kept responses are those of the declared ones, each under its code, and by ascending
codes they do not depend on the order in which they are declared.  All other responses are
reported one by one, in their order.
-/

namespace ApiScaffold

/-! ## Keys -/

/-- The status code of success that a key writes. -/
def successCode? (key : String) : Option Int :=
  (Text.readInteger? key).filter fun code => decide (100 ≤ code ∧ code < 300)

theorem successCode?_default : successCode? "default" = none := by
  decide +kernel

theorem ResponseKey.ofText_eq_success_iff {key : String} {code : Int} :
    ofText key = .success code ↔ successCode? key = some code := by
  by_cases isDefault : key = "default"
  · subst isDefault
    simp [successCode?_default, ofText]
  · cases read : Text.readInteger? key with
    | none => simp [ofText, successCode?, isDefault, read]
    | some written =>
        by_cases inRange : 100 ≤ written ∧ written < 300
        · simp [ofText, successCode?, isDefault, read, inRange, Option.filter]
        · simp [ofText, successCode?, isDefault, read, inRange, Option.filter]

/-- A key that writes no status code of success is left out for some reason. -/
theorem ResponseKey.exists_reason {key : String} (noCode : successCode? key = none) :
    ∃ reason, ofText key = .ignored reason := by
  cases read : ofText key with
  | success code =>
      rw [ofText_eq_success_iff, noCode] at read
      cases read
  | ignored reason => exact ⟨reason, rfl⟩

/-- The status codes of success among the keys, in the order of the entries. -/
def successCodes (responses : Entries String ResponseObject) : List Int :=
  responses.filterMap fun entry => successCode? entry.1

/-- The responses of success, in the order of the entries. -/
def successResponses (responses : Entries String ResponseObject) : Entries Int ResponseObject :=
  responses.filterMap fun entry => (successCode? entry.1).map fun code => (code, entry.2)

section Kept

variable {responses moved : Entries String ResponseObject}

theorem keys_successResponses : (successResponses responses).keys = successCodes responses := by
  rw [Entries.keys, successResponses, List.map_filterMap, successCodes]
  apply List.filterMap_congr
  intro entry _
  cases successCode? entry.1 <;> rfl

theorem mem_successCodes_iff {code : Int} :
    code ∈ successCodes responses ↔ ∃ entry ∈ responses, successCode? entry.1 = some code :=
  List.mem_filterMap

theorem mem_successResponses_iff {code : Int} {response : ResponseObject} :
    (code, response) ∈ successResponses responses ↔
      ∃ key, (key, response) ∈ responses ∧ successCode? key = some code := by
  simp only [successResponses, List.mem_filterMap, Option.map_eq_some_iff, Prod.mk.injEq]
  constructor
  · rintro ⟨⟨key, declared⟩, member, written, isCode, rfl, rfl⟩
    exact ⟨key, member, isCode⟩
  · rintro ⟨key, member, isCode⟩
    exact ⟨(key, response), member, code, isCode, rfl, rfl⟩

/-- The kept responses are those of success, written under their codes. -/
theorem keptResponses_eq_ofList (responses : Entries String ResponseObject) :
    keptResponses responses = Entries.ofList (successResponses responses) := by
  apply congrArg Entries.ofList
  apply List.filterMap_congr
  rintro ⟨key, response⟩ _
  cases read : ResponseKey.ofText key with
  | success code => simp [read, ResponseKey.ofText_eq_success_iff.mp read]
  | ignored reason =>
      cases written : successCode? key with
      | none => simp [read]
      | some code =>
          rw [ResponseKey.ofText_eq_success_iff.mpr written] at read
          cases read

/-- With distinct codes, all responses of success are kept. -/
theorem keptResponses_eq (distinct : (successCodes responses).Nodup) :
    keptResponses responses = successResponses responses := by
  rw [← keys_successResponses] at distinct
  rw [keptResponses_eq_ofList, Entries.ofList]
  exact Entries.putAll_eq_append distinct

/-! ## Ascending codes -/

theorem pairwise_ascending (codes : List Int) : (ascending codes).Pairwise (· ≤ ·) := by
  have pairs := @List.pairwise_mergeSort Int (fun first second => decide (first ≤ second))
    (by simpa using fun first second third => Int.le_trans)
    (by simpa using fun first second => Int.le_total first second) codes
  simpa [ascending] using pairs

theorem ascending_perm (codes : List Int) : (ascending codes).Perm codes :=
  List.mergeSort_perm _ _

/-- Distinct codes ascend strictly. -/
theorem pairwise_lt_ascending {codes : List Int} (distinct : codes.Nodup) :
    (ascending codes).Pairwise (· < ·) := by
  have distinctSorted := (ascending_perm codes).nodup_iff.mpr distinct
  apply ((pairwise_ascending codes).and distinctSorted).imp
  rintro first second ⟨below, different⟩
  exact Int.lt_iff_le_and_ne.mpr ⟨below, different⟩

/-- The same codes ascend in the same order. -/
theorem ascending_eq_of_perm {codes others : List Int} (perm : codes.Perm others) :
    ascending codes = ascending others := by
  apply List.Perm.eq_of_pairwise _ (pairwise_ascending codes) (pairwise_ascending others)
  · exact (ascending_perm codes).trans (perm.trans (ascending_perm others).symm)
  · exact fun first second _ _ => Int.le_antisymm

/-- The kept responses, by ascending codes. -/
def orderedResponses (responses : Entries String ResponseObject) : Entries Int ResponseObject :=
  (ascending (keptResponses responses).keys).filterMap fun code =>
    ((keptResponses responses).get? code).map fun response => (code, response)

theorem mem_orderedResponses_iff (distinct : (successCodes responses).Nodup) {code : Int}
    {response : ResponseObject} :
    (code, response) ∈ orderedResponses responses ↔
      ∃ key, (key, response) ∈ responses ∧ successCode? key = some code := by
  have distinctKeys : (successResponses responses).keys.Nodup :=
    keys_successResponses ▸ distinct
  rw [← mem_successResponses_iff, ← Entries.get?_eq_some_iff distinctKeys, orderedResponses,
    keptResponses_eq distinct, List.mem_filterMap]
  constructor
  · rintro ⟨known, _, found⟩
    obtain ⟨_, isFound, equal⟩ := Option.map_eq_some_iff.mp found
    cases equal
    exact isFound
  · intro found
    refine ⟨code, (ascending_perm _).mem_iff.mpr ?_, by rw [found]; rfl⟩
    exact Entries.mem_keys_iff.mpr ⟨response, found⟩

/-- The kept responses have all the codes that are kept. -/
theorem keys_orderedResponses :
    (orderedResponses responses).keys = ascending (keptResponses responses).keys := by
  rw [Entries.keys, orderedResponses, List.map_filterMap]
  refine (List.filterMap_congr ?_).trans List.filterMap_some
  intro code member
  obtain ⟨response, found⟩ := Entries.mem_keys_iff.mp ((ascending_perm _).mem_iff.mp member)
  simp [found]

/-- Distinct codes of success stay distinct in another order. -/
theorem nodup_successCodes_of_perm (distinct : (successCodes responses).Nodup)
    (perm : responses.Perm moved) : (successCodes moved).Nodup :=
  (perm.filterMap _).nodup_iff.mp distinct

theorem keptCodes_eq_of_perm (distinct : (successCodes responses).Nodup)
    (perm : responses.Perm moved) :
    ascending (keptResponses responses).keys = ascending (keptResponses moved).keys := by
  rw [keptResponses_eq distinct, keptResponses_eq (nodup_successCodes_of_perm distinct perm),
    keys_successResponses, keys_successResponses]
  exact ascending_eq_of_perm (perm.filterMap _)

/-- The kept responses do not depend on the order of the entries. -/
theorem orderedResponses_eq_of_perm (distinct : (successCodes responses).Nodup)
    (perm : responses.Perm moved) : orderedResponses responses = orderedResponses moved := by
  rw [orderedResponses, keptCodes_eq_of_perm distinct perm, orderedResponses]
  apply List.filterMap_congr
  intro code _
  have distinctKeys : (successResponses responses).keys.Nodup :=
    keys_successResponses ▸ distinct
  rw [keptResponses_eq distinct, keptResponses_eq (nodup_successCodes_of_perm distinct perm),
    Entries.get?_eq_of_perm distinctKeys (perm.filterMap _)]
  rfl

/-! ## Responses that are left out -/

/-- Each response that is left out is reported, in the order of the entries. -/
theorem ignoredResponses_spec (operationId : String) (responses : Entries String ResponseObject) :
    List.Forall₂ (fun entry diagnostic => ∃ reason,
        ResponseKey.ofText entry.1 = .ignored reason ∧
          diagnostic = ⟨.ignoredResponse, reason, some operationId⟩)
      (responses.filter fun entry => (successCode? entry.1).isNone)
      (ignoredResponses operationId responses) := by
  induction responses with
  | nil => exact .nil
  | cons entry rest ih =>
      obtain ⟨key, response⟩ := entry
      cases written : successCode? key with
      | none =>
          obtain ⟨reason, read⟩ := ResponseKey.exists_reason written
          rw [List.filter_cons_of_pos (by simp [written]), ignoredResponses,
            List.filterMap_cons_some (by simp only [read]; rfl)]
          exact .cons ⟨reason, read, rfl⟩ ih
      | some code =>
          have read := ResponseKey.ofText_eq_success_iff.mpr written
          rw [List.filter_cons_of_neg (by simp [written]), ignoredResponses,
            List.filterMap_cons_none (by simp only [read])]
          exact ih

end Kept

end ApiScaffold
