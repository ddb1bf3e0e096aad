import ApiScaffold.Failure
import Mathlib.Data.List.Forall2

/-!
# Steps that can fail

An outcome is a value or a failure.  Steps in a row succeed exactly if each of them
does, and a list of steps succeeds exactly if the results belong to the items one by
one.
-/

namespace ApiScaffold.Outcome

variable {α β : Type}

/-- Two steps in a row succeed exactly if both do. -/
theorem bind_eq_ok_iff {first : Outcome α} {next : α → Outcome β} {result : β} :
    first >>= next = .ok result ↔ ∃ value, first = .ok value ∧ next value = .ok result := by
  cases first with
  | error failure =>
      constructor
      · intro impossible
        cases impossible
      · rintro ⟨value, impossible, _⟩
        cases impossible
  | ok value =>
      constructor
      · intro succeeded
        exact ⟨value, rfl, succeeded⟩
      · rintro ⟨other, equal, succeeded⟩
        cases equal
        exact succeeded

/-- A step fails in a row of two if it fails, or if the next one does. -/
theorem bind_eq_error_iff {first : Outcome α} {next : α → Outcome β} {failure : Failure} :
    first >>= next = .error failure ↔
      first = .error failure ∨ ∃ value, first = .ok value ∧ next value = .error failure := by
  cases first with
  | error other =>
      constructor
      · intro failed
        cases failed
        exact Or.inl rfl
      · rintro (equal | ⟨value, impossible, _⟩)
        · cases equal
          rfl
        · cases impossible
  | ok value =>
      constructor
      · intro failed
        exact Or.inr ⟨value, rfl, failed⟩
      · rintro (impossible | ⟨other, equal, failed⟩)
        · cases impossible
        · cases equal
          exact failed

/-- A step on every item succeeds exactly if the results belong to the items. -/
theorem mapM_eq_ok_iff {step : α → Outcome β} {items : List α} {results : List β} :
    items.mapM step = .ok results ↔
      List.Forall₂ (fun item result => step item = .ok result) items results := by
  induction items generalizing results with
  | nil =>
      rw [List.mapM_nil, List.forall₂_nil_left_iff]
      constructor
      · intro equal
        cases equal
        rfl
      · rintro rfl
        rfl
  | cons item rest ih =>
      rw [List.mapM_cons, bind_eq_ok_iff, List.forall₂_cons_left_iff]
      constructor
      · rintro ⟨result, stepped, more⟩
        obtain ⟨others, stepOthers, built⟩ := bind_eq_ok_iff.mp more
        cases built
        exact ⟨result, others, stepped, ih.mp stepOthers, rfl⟩
      · rintro ⟨result, others, stepped, stepOthers, rfl⟩
        exact ⟨result, stepped, bind_eq_ok_iff.mpr ⟨others, ih.mpr stepOthers, rfl⟩⟩

/-- The results of a step on every item are those of the items. -/
theorem mem_iff_of_mapM_eq_ok {step : α → Outcome β} {items : List α} {results : List β}
    (stepped : items.mapM step = .ok results) {result : β} :
    result ∈ results ↔ ∃ item ∈ items, step item = .ok result := by
  have pairs := mapM_eq_ok_iff.mp stepped
  clear stepped
  induction pairs with
  | nil => simp
  | cons here _ ih =>
      rw [List.mem_cons, List.exists_mem_cons_iff, here, Except.ok.injEq, eq_comm]
      exact or_congr_right ih

/-- A step on all items succeeds on each of them. -/
theorem exists_of_mapM_eq_ok {step : α → Outcome β} {items : List α} {results : List β}
    (stepped : items.mapM step = .ok results) {item : α} (member : item ∈ items) :
    ∃ result ∈ results, step item = .ok result := by
  have pairs := mapM_eq_ok_iff.mp stepped
  clear stepped
  induction pairs with
  | nil => cases member
  | @cons _ result _ _ here _ ih =>
      rcases List.mem_cons.mp member with rfl | inRest
      · exact ⟨result, List.mem_cons_self, here⟩
      · obtain ⟨other, isOther, there⟩ := ih inRest
        exact ⟨other, List.mem_cons_of_mem result isOther, there⟩

/-- A step that succeeds on every item succeeds on all of them. -/
theorem exists_mapM {step : α → Outcome β} {items : List α}
    (each : ∀ item ∈ items, ∃ result, step item = .ok result) :
    ∃ results, items.mapM step = .ok results := by
  induction items with
  | nil => exact ⟨[], rfl⟩
  | cons item rest ih =>
      obtain ⟨result, stepped⟩ := each item List.mem_cons_self
      obtain ⟨results, others⟩ :=
        ih fun other member => each other (List.mem_cons_of_mem item member)
      exact ⟨result :: results,
        mapM_eq_ok_iff.mpr (.cons stepped (mapM_eq_ok_iff.mp others))⟩

/-- A step on all items fails exactly as it does on the first item on which it fails. -/
theorem mapM_eq_error_iff {step : α → Outcome β} {items : List α} {failure : Failure} :
    items.mapM step = .error failure ↔ ∃ before item after, items = before ++ item :: after ∧
      (∀ earlier ∈ before, ∃ result, step earlier = .ok result) ∧ step item = .error failure := by
  induction items with
  | nil =>
      refine iff_of_false (fun failed => nomatch failed) ?_
      rintro ⟨before, item, after, split, _⟩
      simp at split
  | cons first rest ih =>
      rw [List.mapM_cons, bind_eq_error_iff]
      constructor
      · rintro (failed | ⟨result, stepped, later⟩)
        · exact ⟨[], first, rest, rfl, List.forall_mem_nil _, failed⟩
        · rcases bind_eq_error_iff.mp later with inRest | ⟨results, _, impossible⟩
          · obtain ⟨before, item, after, rfl, earlier, failed⟩ := ih.mp inRest
            exact ⟨first :: before, item, after, rfl,
              List.forall_mem_cons.mpr ⟨⟨result, stepped⟩, earlier⟩, failed⟩
          · cases impossible
      · rintro ⟨before, item, after, split, earlier, failed⟩
        cases before with
        | nil =>
            cases split
            exact Or.inl failed
        | cons other before =>
            cases split
            rw [List.forall_mem_cons] at earlier
            obtain ⟨⟨result, stepped⟩, others⟩ := earlier
            exact Or.inr ⟨result, stepped, bind_eq_error_iff.mpr
              (Or.inl (ih.mpr ⟨before, item, after, rfl, others, failed⟩))⟩

/-- A check of every item succeeds exactly if it does for each. -/
theorem forM_eq_ok_iff {check : α → Outcome Unit} {items : List α} :
    items.forM check = .ok () ↔ ∀ item ∈ items, check item = .ok () := by
  induction items with
  | nil => simp [pure, Except.pure]
  | cons item rest ih =>
      change (check item >>= fun _ => rest.forM check) = .ok () ↔ _
      rw [bind_eq_ok_iff]
      constructor
      · rintro ⟨_, checked, others⟩ other member
        rcases List.mem_cons.mp member with rfl | inRest
        · exact checked
        · exact ih.mp others other inRest
      · intro every
        exact ⟨(), every item List.mem_cons_self,
          ih.mpr fun other member => every other (List.mem_cons_of_mem item member)⟩

/-- A check of every item fails only where it fails for one of them. -/
theorem exists_of_forM_eq_error {check : α → Outcome Unit} {items : List α} {failure : Failure}
    (failed : items.forM check = .error failure) :
    ∃ item ∈ items, check item = .error failure := by
  induction items with
  | nil => cases failed
  | cons item rest ih =>
      change (check item >>= fun _ => rest.forM check) = .error failure at failed
      rcases bind_eq_error_iff.mp failed with here | ⟨_, _, later⟩
      · exact ⟨item, List.mem_cons_self, here⟩
      · obtain ⟨other, member, failedThere⟩ := ih later
        exact ⟨other, List.mem_cons_of_mem item member, failedThere⟩

/-- Another wording of a failure does not change what succeeds. -/
theorem mapError_eq_ok_iff {step : Outcome α} {reword : Failure → Failure} {result : α} :
    step.mapError reword = .ok result ↔ step = .ok result := by
  cases step with
  | error failure => simp [Except.mapError]
  | ok value => simp [Except.mapError]

/-- Another wording of a failure is the failure of a step that failed. -/
theorem mapError_eq_error_iff {step : Outcome α} {reword : Failure → Failure}
    {failure : Failure} :
    step.mapError reword = .error failure ↔
      ∃ cause, step = .error cause ∧ reword cause = failure := by
  cases step with
  | error cause => simp [Except.mapError]
  | ok value => simp [Except.mapError]

/-! ## What a step fails with -/

/-- A step that has no other failures than the allowed ones. -/
def FailsOnly (allowed : Failure → Prop) (step : Outcome α) : Prop :=
  ∀ failure, step = .error failure → allowed failure

namespace FailsOnly

variable {allowed weaker : Failure → Prop}

theorem ok (value : α) : FailsOnly allowed (.ok value) := by
  intro failure impossible
  cases impossible

theorem error {failure : Failure} (isAllowed : allowed failure) :
    FailsOnly (α := α) allowed (.error failure) := by
  intro other equal
  cases equal
  exact isAllowed

theorem imp {step : Outcome α} (fails : FailsOnly allowed step)
    (implies : ∀ failure, allowed failure → weaker failure) : FailsOnly weaker step :=
  fun failure failed => implies failure (fails failure failed)

/-- A step that succeeds has no failures. -/
theorem of_exists {step : Outcome α} (succeeds : ∃ value, step = .ok value) :
    FailsOnly allowed step := by
  obtain ⟨value, rfl⟩ := succeeds
  exact .ok value

theorem bind {first : Outcome α} {next : α → Outcome β} (fails : FailsOnly allowed first)
    (continues : ∀ value, first = .ok value → FailsOnly allowed (next value)) :
    FailsOnly allowed (first >>= next) := by
  intro failure failed
  rcases bind_eq_error_iff.mp failed with here | ⟨value, succeeded, later⟩
  · exact fails failure here
  · exact continues value succeeded failure later

theorem map {step : Outcome α} (fails : FailsOnly allowed step) (make : α → β) :
    FailsOnly allowed (step.map make) := by
  cases step with
  | error failure => exact .error (fails failure rfl)
  | ok value => exact .ok (make value)

theorem mapM {step : α → Outcome β} {items : List α}
    (each : ∀ item ∈ items, FailsOnly allowed (step item)) :
    FailsOnly allowed (items.mapM step) := by
  induction items with
  | nil => exact .ok []
  | cons item rest ih =>
      rw [List.mapM_cons]
      apply (each item List.mem_cons_self).bind
      intro value _
      apply (ih fun other member => each other (List.mem_cons_of_mem item member)).bind
      intro values _
      exact .ok (value :: values)

theorem forM {check : α → Outcome Unit} {items : List α}
    (each : ∀ item ∈ items, FailsOnly allowed (check item)) :
    FailsOnly allowed (items.forM check) := by
  intro failure failed
  obtain ⟨item, member, here⟩ := exists_of_forM_eq_error failed
  exact each item member failure here

theorem mapError {step : Outcome α} {reword : Failure → Failure}
    (fails : FailsOnly allowed step)
    (rewords : ∀ failure, allowed failure → weaker (reword failure)) :
    FailsOnly weaker (step.mapError reword) := by
  intro failure failed
  obtain ⟨cause, stepFailed, rfl⟩ := mapError_eq_error_iff.mp failed
  exact rewords cause (fails cause stepFailed)

end FailsOnly

/-- Whether a failure is one of the allowed ones, or a fault. -/
def OrFault (allowed : Failure → Prop) (failure : Failure) : Prop :=
  allowed failure ∨ ∃ fault, failure = .fault fault

/-- A step that fails with allowed failures and with faults fails with allowed ones only, exactly
if it has no faults. -/
theorem failsOnly_iff_of_faults {allowed : Failure → Prop} {faults : Fault → Prop}
    {step : Outcome α} (fails : FailsOnly (OrFault allowed) step)
    (faults_iff : ∀ fault, step = .error (.fault fault) ↔ faults fault)
    (forbidden : ∀ fault, ¬ allowed (.fault fault)) :
    FailsOnly allowed step ↔ ∀ fault, ¬ faults fault := by
  constructor
  · intro failsAllowed fault isFault
    exact forbidden fault (failsAllowed _ ((faults_iff fault).mpr isFault))
  · intro noFault failure failed
    rcases fails failure failed with isAllowed | ⟨fault, rfl⟩
    · exact isAllowed
    · exact absurd ((faults_iff fault).mp failed) (noFault fault)

/-! ## Two runs -/

/-- The same failure, or related values. -/
inductive Agree (related : α → β → Prop) : Outcome α → Outcome β → Prop
  | ok {value : α} {other : β} (heads : related value other) :
      Agree related (.ok value) (.ok other)
  | error (failure : Failure) : Agree related (.error failure) (.error failure)

theorem Agree.imp {strong weak : α → β → Prop} {first : Outcome α} {second : Outcome β}
    (agree : Agree strong first second)
    (implies : ∀ value other, strong value other → weak value other) :
    Agree weak first second := by
  cases agree with
  | ok heads => exact .ok (implies _ _ heads)
  | error failure => exact .error failure

/-- Runs that agree on the very value are the same. -/
theorem Agree.eq {first second : Outcome α} (agree : Agree Eq first second) : first = second := by
  cases agree with
  | ok heads => rw [heads]
  | error failure => rfl

/-- What goes on alike after related values has the same outcome after runs that agree. -/
theorem Agree.bind_eq {γ : Type} {related : α → β → Prop} {first : Outcome α}
    {second : Outcome β} {next : α → Outcome γ} {other : β → Outcome γ}
    (agree : Agree related first second)
    (continues : ∀ value result, related value result → next value = other result) :
    first >>= next = second >>= other := by
  cases agree with
  | ok heads => exact continues _ _ heads
  | error failure => rfl

/-- A run agrees with itself on what holds of its value. -/
theorem Agree.self {related : α → α → Prop} {step : Outcome α}
    (same : ∀ value, step = .ok value → related value value) : Agree related step step := by
  cases step with
  | ok value => exact .ok (same value rfl)
  | error failure => exact .error failure

/-- What agrees after related values agrees after runs that do. -/
theorem Agree.bind {γ δ : Type} {related : α → β → Prop} {later : γ → δ → Prop}
    {first : Outcome α} {second : Outcome β} {next : α → Outcome γ} {other : β → Outcome δ}
    (agree : Agree related first second)
    (continues : ∀ value result, related value result →
      Agree later (next value) (other result)) :
    Agree later (first >>= next) (second >>= other) := by
  cases agree with
  | ok heads => exact continues _ _ heads
  | error failure => exact .error failure

/-- Steps that agree on each item agree on all of them. -/
theorem Agree.mapM {ι : Type} {related : α → β → Prop} {step : ι → Outcome α}
    {other : ι → Outcome β} {items : List ι}
    (each : ∀ item ∈ items, Agree related (step item) (other item)) :
    Agree (List.Forall₂ related) (items.mapM step) (items.mapM other) := by
  induction items with
  | nil => exact .ok .nil
  | cons item rest ih =>
      rw [List.forall_mem_cons] at each
      rw [List.mapM_cons, List.mapM_cons]
      apply each.1.bind
      intro value result here
      apply (ih each.2).bind
      intro values results others
      exact .ok (.cons here others)

/-- Runs that agree do so after their failures are reworded. -/
theorem Agree.mapError {related : α → β → Prop} {first : Outcome α} {second : Outcome β}
    (agree : Agree related first second) (reword : Failure → Failure) :
    Agree related (first.mapError reword) (second.mapError reword) := by
  cases agree with
  | ok heads => exact .ok heads
  | error failure => exact .error (reword failure)

/-- Runs that agree fail with the same failures. -/
theorem Agree.eq_error_iff {related : α → β → Prop} {first : Outcome α} {second : Outcome β}
    (agree : Agree related first second) (failure : Failure) :
    first = .error failure ↔ second = .error failure := by
  cases agree with
  | ok => exact iff_of_false (fun failed => nomatch failed) fun failed => nomatch failed
  | error other => rw [Except.error.injEq, Except.error.injEq]

/-- Runs that agree succeed together. -/
theorem Agree.exists_ok {related : α → β → Prop} {first : Outcome α} {second : Outcome β}
    (agree : Agree related first second) (succeeds : ∃ value, first = .ok value) :
    ∃ result, second = .ok result := by
  cases agree with
  | ok => exact ⟨_, rfl⟩
  | error failure => exact succeeds.elim fun _ impossible => nomatch impossible

/-- Runs are the same if they start and go on alike. -/
theorem bind_eq_bind {first second : Outcome α} {next other : α → Outcome β}
    (same : first = second) (continues : ∀ value, next value = other value) :
    first >>= next = second >>= other := by
  rw [same, funext continues]

/-- Steps with the same outcome on every pair of items have the same outcome on all. -/
theorem mapM_eq_of_forall₂ {γ : Type} {step : α → Outcome γ} {other : β → Outcome γ}
    {items : List α} {others : List β}
    (each : List.Forall₂ (fun item partner => step item = other partner) items others) :
    items.mapM step = others.mapM other := by
  induction each with
  | nil => rfl
  | cons head _ ih => rw [List.mapM_cons, List.mapM_cons, head, ih]

/-- Whether a step succeeds with a value that passes a test. -/
def succeedsWith (step : Outcome α) (test : α → Bool) : Bool :=
  match step with
  | .ok value => test value
  | .error _ => false

theorem succeedsWith_iff {step : Outcome α} {test : α → Bool} :
    step.succeedsWith test = true ↔ ∃ value, step = .ok value ∧ test value = true := by
  cases step with
  | error failure => simp [succeedsWith]
  | ok value => simp [succeedsWith]

/-- Whether a step fails with a failure that passes a test. -/
def failsWith (step : Outcome α) (test : Failure → Bool) : Bool :=
  match step with
  | .ok _ => false
  | .error failure => test failure

theorem failsWith_iff {step : Outcome α} {test : Failure → Bool} :
    step.failsWith test = true ↔ ∃ failure, step = .error failure ∧ test failure = true := by
  cases step with
  | error failure => simp [failsWith]
  | ok value => simp [failsWith]

end ApiScaffold.Outcome
