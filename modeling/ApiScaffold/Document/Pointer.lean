/-!
# Pointers into the components of a document

A pointer such as `#/components/schemas/Widget` names a component by its last
segment.  The segments before it are not looked at.
-/

namespace ApiScaffold

/-- The name that a pointer leads to: what follows its last slash. -/
def pointerName (pointer : String) : String :=
  String.ofList (pointer.toList.reverse.takeWhile fun char => char != '/').reverse

/-- No name holds a slash. -/
theorem slash_not_mem_pointerName (pointer : String) : '/' ∉ (pointerName pointer).toList := by
  intro member
  simp only [pointerName, String.toList_ofList, List.mem_reverse] at member
  have passed := List.all_takeWhile (p := fun char => char != '/') (l := pointer.toList.reverse)
  have different := List.all_eq_true.mp passed '/' member
  simp at different

/-- A pointer without a slash is the name itself. -/
theorem pointerName_eq_self {pointer : String} (plain : '/' ∉ pointer.toList) :
    pointerName pointer = pointer := by
  have every : ∀ char ∈ pointer.toList.reverse, (char != '/') = true := by
    intro char member
    have inText : char ∈ pointer.toList := List.mem_reverse.mp member
    simp only [bne_iff_ne, ne_eq]
    rintro rfl
    exact plain inText
  have whole : pointer.toList.reverse.takeWhile (fun char => char != '/') =
      pointer.toList.reverse := by
    simpa using @List.takeWhile_append_of_pos _ _ _ [] every
  simp [pointerName, whole]

end ApiScaffold
