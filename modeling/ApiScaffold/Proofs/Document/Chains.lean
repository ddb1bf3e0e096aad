import ApiScaffold.Proofs.Document.Agreement

/-!
# Chains of pointers

`Document.Follows` gives the pointers that lead from an item to another one, each looked up by
the name it ends with.  Such a chain stops at an item without a pointer, or at a pointer that
leads nowhere, or it goes on forever.

Resolving an item tells these three apart, and a chain that goes on forever is reported by the
pointers up to the first one that was followed before.  For every pointer comes from the item or
from a definition of the section, so more different pointers than that are never followed, and
the bound on the number of steps is not reached.

Only the names at the ends of pointers matter: pointers that are spelled differently change what
a failure says, and nothing else.
-/

namespace ApiScaffold.Document

variable {α : Type} [Referable α] {document : Document}

/-! ## Following pointers one by one -/

/-- From an item, these pointers lead one after the other to another item. -/
inductive Follows (document : Document) : α → List String → α → Prop
  | refl (item : α) : Follows document item [] item
  | step {item next last : α} {pointer : String} {pointers : List String}
      (ref : Referable.ref item = some pointer)
      (found : (Component.definitions document).get? (pointerName pointer) = some next)
      (rest : Follows document next pointers last) :
      Follows document item (pointer :: pointers) last

/-- Where no pointer leads on. -/
def Stops (document : Document) (item : α) : Prop :=
  ∀ next, ¬ document.Points item next

/-- However many pointers are followed, there are more. -/
def Endless (document : Document) (item : α) : Prop :=
  ∀ count, ∃ pointers last, document.Follows item pointers last ∧ count < pointers.length

/-- An item without a pointer is the last of its chain. -/
theorem stops_of_ref_eq_none {item : α} (ref : Referable.ref item = none) :
    document.Stops item := by
  rintro next ⟨pointer, other, _⟩
  rw [ref] at other
  cases other

theorem Follows.trans {item middle last : α} {early late : List String}
    (first : document.Follows item early middle) (second : document.Follows middle late last) :
    document.Follows item (early ++ late) last := by
  induction first with
  | refl => exact second
  | step ref found _ ih => exact .step ref found (ih second)

/-- No chain is longer than one that stops. -/
theorem Follows.length_le {item last other : α} {pointers others : List String}
    (follows : document.Follows item pointers last) (stops : document.Stops last)
    (further : document.Follows item others other) : others.length ≤ pointers.length := by
  induction follows generalizing others with
  | refl item =>
      cases further with
      | refl => exact Nat.le_refl 0
      | step ref found _ => exact absurd ⟨_, ref, found⟩ (stops _)
  | step ref found _ ih =>
      cases further with
      | refl => exact Nat.zero_le _
      | step otherRef otherFound rest =>
          have same := Points.unique ⟨_, ref, found⟩ ⟨_, otherRef, otherFound⟩
          subst same
          exact Nat.succ_le_succ (ih stops rest)

/-- A chain stops at one item only. -/
theorem Follows.last_unique {item last other : α} {pointers others : List String}
    (follows : document.Follows item pointers last) (stops : document.Stops last)
    (further : document.Follows item others other) (otherStops : document.Stops other) :
    last = other := by
  induction follows generalizing others with
  | refl item =>
      cases further with
      | refl => rfl
      | step ref found _ => exact absurd ⟨_, ref, found⟩ (stops _)
  | step ref found _ ih =>
      cases further with
      | refl => exact absurd ⟨_, ref, found⟩ (otherStops _)
      | step otherRef otherFound rest =>
          have same := Points.unique ⟨_, ref, found⟩ ⟨_, otherRef, otherFound⟩
          subst same
          exact ih stops rest

/-- A chain that stops is not endless. -/
theorem Follows.not_endless {item last : α} {pointers : List String}
    (follows : document.Follows item pointers last) (stops : document.Stops last) :
    ¬ document.Endless item := by
  intro endless
  rcases endless pointers.length with ⟨others, other, further, longer⟩
  exact absurd (follows.length_le stops further) (Nat.not_le.mpr longer)

/-- Between two pointers of a chain, the chain leads from one to the other. -/
theorem Follows.exists_of_mem {item last : α} {pointers : List String} {pointer : String}
    (follows : document.Follows item pointers last) (member : pointer ∈ pointers) :
    ∃ next late, (Component.definitions document).get? (pointerName pointer) = some next ∧
      document.Follows next late last := by
  induction follows with
  | refl => cases member
  | @step _ next _ _ pointers _ found rest ih =>
      rcases List.mem_cons.mp member with rfl | inRest
      · exact ⟨next, pointers, found, rest⟩
      · exact ih inRest

/-- A way back to an item can be gone as often as one likes. -/
theorem Follows.exists_longer {item : α} {pointer : String} {pointers : List String}
    (back : document.Follows item (pointer :: pointers) item) (count : Nat) :
    ∃ others, document.Follows item others item ∧ count < others.length := by
  induction count with
  | zero => exact ⟨pointer :: pointers, back, Nat.succ_pos _⟩
  | succ count ih =>
      rcases ih with ⟨others, again, longer⟩
      refine ⟨pointer :: pointers ++ others, back.trans again, ?_⟩
      simp only [List.cons_append, List.length_cons, List.length_append]
      omega

/-- A chain that comes to a pointer again is endless. -/
theorem Follows.endless {item last : α} {pointers : List String} {pointer : String}
    (follows : document.Follows item pointers last) (ref : Referable.ref last = some pointer)
    (again : pointer ∈ pointers) : document.Endless item := by
  rcases follows.exists_of_mem again with ⟨next, late, found, rest⟩
  have back : document.Follows last (pointer :: late) last := .step ref found rest
  intro count
  rcases back.exists_longer count with ⟨others, around, longer⟩
  refine ⟨pointers ++ others, last, follows.trans around, ?_⟩
  rw [List.length_append]
  omega

/-! ## How following pointers ends -/

/-- What comes of following the pointers of an item after others were followed: the definition
where the chain stops, the failure to look up its last pointer, or a cycle, when a pointer comes
again. -/
inductive EndsWith (document : Document) (context : Option String) (seen : List String)
    (item : α) : Outcome α → Prop
  | definition {pointers : List String} {last : α}
      (follows : document.Follows item pointers last) (ref : Referable.ref last = none) :
      EndsWith document context seen item (.ok last)
  | failure {pointers : List String} {last : α} {pointer : String} {failure : Failure}
      (follows : document.Follows item pointers last) (ref : Referable.ref last = some pointer)
      (failed : document.lookup (α := α) pointer context = .error failure) :
      EndsWith document context seen item (.error failure)
  | cycle {pointers : List String} {last : α} {pointer : String}
      (follows : document.Follows item pointers last) (ref : Referable.ref last = some pointer)
      (distinct : (seen ++ pointers).Nodup) (again : pointer ∈ seen ++ pointers) :
      EndsWith document context seen item
        (.error (.cycle ((seen ++ pointers ++ [pointer]).map some)))

/-- What comes after one more pointer comes from where it is followed. -/
theorem EndsWith.step {context : Option String} {seen : List String} {item next : α}
    {pointer : String} {outcome : Outcome α} (ref : Referable.ref item = some pointer)
    (found : (Component.definitions document).get? (pointerName pointer) = some next)
    (ends : document.EndsWith context (seen ++ [pointer]) next outcome) :
    document.EndsWith context seen item outcome := by
  cases ends with
  | definition follows lastRef => exact .definition (.step ref found follows) lastRef
  | failure follows lastRef failed => exact .failure (.step ref found follows) lastRef failed
  | cycle follows lastRef distinct again =>
      rw [← List.append_cons seen pointer] at distinct again ⊢
      exact .cycle (.step ref found follows) lastRef distinct again

/-- The pointers that can be met on the way from an item. -/
def pointersFrom (document : Document) (item : α) : List String :=
  (Referable.ref item).toList ++
    (Component.definitions (α := α) document).filterMap fun entry => Referable.ref entry.2

theorem length_pointersFrom_le (item : α) :
    (document.pointersFrom item).length ≤
      (Component.definitions (α := α) document).length + 1 := by
  have fromItem := Option.length_toList_le (o := Referable.ref item)
  have fromSection := List.length_filterMap_le (fun entry => Referable.ref entry.2)
    (Component.definitions (α := α) document)
  rw [pointersFrom, List.length_append]
  omega

/-- A pointer that was followed before ends the chain. -/
theorem followPointers_of_mem {item : α} {pointer : String} {seen : List String}
    (ref : Referable.ref item = some pointer) (again : pointer ∈ seen) (context : Option String)
    (steps : Nat) :
    document.followPointers context steps seen item =
      .error (.cycle ((seen ++ [pointer]).map some)) := by
  cases steps <;> rw [followPointers, ref] <;> simp [again]

theorem endsWith_of_mem {item : α} {pointer : String} {seen : List String}
    (ref : Referable.ref item = some pointer) (distinct : seen.Nodup) (again : pointer ∈ seen)
    (context : Option String) (steps : Nat) :
    document.EndsWith context seen item (document.followPointers context steps seen item) := by
  have ends : document.EndsWith context seen item
      (.error (.cycle ((seen ++ [] ++ [pointer]).map some))) :=
    .cycle (.refl item) ref (by rwa [List.append_nil]) (by rwa [List.append_nil])
  rw [List.append_nil] at ends
  rwa [followPointers_of_mem ref again]

/-- While a known pointer was not met, fewer were met than are known. -/
theorem seen_length_lt {seen known : List String} {pointer : String} (distinct : seen.Nodup)
    (metBefore : seen ⊆ known) (isNew : pointer ∉ seen) (isKnown : pointer ∈ known) :
    seen.length < known.length := by
  have more : (pointer :: seen).Nodup := List.nodup_cons.mpr ⟨isNew, distinct⟩
  exact (more.subperm (List.cons_subset.mpr ⟨isKnown, metBefore⟩)).length_le

/-- With a step left for each pointer that can still be met, following pointers ends in one of
the three ways.  Without a step left, all known pointers were met before, so the next one comes
again. -/
theorem followPointers_endsWith {context : Option String} {steps : Nat} {seen known : List String}
    {item : α} (distinct : seen.Nodup) (metBefore : seen ⊆ known)
    (here : ∀ pointer, Referable.ref item = some pointer → pointer ∈ known)
    (inSection : ∀ entry ∈ Component.definitions (α := α) document, ∀ pointer,
      Referable.ref entry.2 = some pointer → pointer ∈ known)
    (enough : known.length ≤ steps + seen.length) :
    document.EndsWith context seen item (document.followPointers context steps seen item) := by
  induction steps generalizing seen item with
  | zero =>
      cases ref : Referable.ref item with
      | none =>
          rw [followPointers_of_ref_eq_none document context 0 seen ref]
          exact .definition (.refl item) ref
      | some pointer =>
          by_cases again : pointer ∈ seen
          · exact endsWith_of_mem ref distinct again context 0
          · have more := seen_length_lt distinct metBefore again (here pointer ref)
            omega
  | succ steps ih =>
      cases ref : Referable.ref item with
      | none =>
          rw [followPointers_of_ref_eq_none document context (steps + 1) seen ref]
          exact .definition (.refl item) ref
      | some pointer =>
          by_cases again : pointer ∈ seen
          · exact endsWith_of_mem ref distinct again context (steps + 1)
          rw [followPointers, ref]
          simp only [List.contains_iff_mem, again, if_false]
          cases looked : document.lookup (α := α) pointer context with
          | error failure => exact .failure (.refl item) ref looked
          | ok next =>
              have found := (lookup_eq_ok_iff.mp looked).2
              apply EndsWith.step ref found
              apply ih
              · rw [← List.concat_eq_append]
                exact distinct.concat again
              · exact List.append_subset.mpr ⟨metBefore, by simpa using here pointer ref⟩
              · exact inSection _ (Entries.mem_of_get? found)
              · rw [List.length_append, List.length_singleton]
                omega

theorem resolve_endsWith (document : Document) (item : α) (context : Option String) :
    document.EndsWith context [] item (document.resolve item context) := by
  apply followPointers_endsWith List.nodup_nil (List.nil_subset (document.pointersFrom item))
  · intro pointer ref
    simp [pointersFrom, ref]
  · intro entry member pointer ref
    exact List.mem_append_right _ (List.mem_filterMap.mpr ⟨entry, member, ref⟩)
  · exact length_pointersFrom_le item

/-! ## The three outcomes -/

theorem lookup_eq_error_iff {pointer : String} {context : Option String} {failure : Failure} :
    document.lookup (α := α) pointer context = .error failure ↔
      (document.components.isNone = true ∧ failure = .missingComponents pointer) ∨
        (document.components.isNone = false ∧
          (Component.definitions (α := α) document).get? (pointerName pointer) = none ∧
            failure = .unresolvedReference (some pointer) context) := by
  unfold lookup lookupIn
  by_cases absent : document.components.isNone = true
  · simp [absent, eq_comm]
  · cases found : (Component.definitions (α := α) document).get? (pointerName pointer) with
    | none => simp [absent, eq_comm]
    | some definition => simp [absent]

theorem exists_follows_of_leadsTo {item definition : α}
    (leads : document.LeadsTo item definition) :
    ∃ pointers, document.Follows item pointers definition := by
  induction leads with
  | self => exact ⟨[], .refl _⟩
  | step ref found _ ih =>
      rcases ih with ⟨pointers, follows⟩
      exact ⟨_ :: pointers, .step ref found follows⟩

theorem Follows.leadsTo {item last : α} {pointers : List String}
    (follows : document.Follows item pointers last) (ref : Referable.ref last = none) :
    document.LeadsTo item last := by
  induction follows with
  | refl => exact .self ref
  | step pointerRef found _ ih => exact .step pointerRef found (ih ref)

variable [IsSection α]

/-- A pointer that cannot be looked up leads nowhere. -/
theorem get?_eq_none_of_lookup {pointer : String} {context : Option String} {failure : Failure}
    (failed : document.lookup (α := α) pointer context = .error failure) :
    (Component.definitions (α := α) document).get? (pointerName pointer) = none := by
  rcases lookup_eq_error_iff.mp failed with ⟨absent, _⟩ | ⟨_, missing, _⟩
  · rw [IsSection.definitions_eq_nil document (Option.isNone_iff_eq_none.mp absent)]
    rfl
  · exact missing

/-- A pointer that cannot be looked up is the last of its chain. -/
theorem stops_of_lookup_eq_error {item : α} {pointer : String} {context : Option String}
    {failure : Failure} (ref : Referable.ref item = some pointer)
    (failed : document.lookup (α := α) pointer context = .error failure) :
    document.Stops item := by
  rintro next ⟨other, otherRef, found⟩
  cases ref.symm.trans otherRef
  cases (get?_eq_none_of_lookup failed).symm.trans found

/-- Where a chain stops at a pointer, looking it up is what fails. -/
theorem resolve_eq_error_of_follows {context : Option String} {item last : α}
    {pointers : List String} {pointer : String} {failure : Failure}
    (follows : document.Follows item pointers last) (ref : Referable.ref last = some pointer)
    (failed : document.lookup (α := α) pointer context = .error failure) :
    document.resolve item context = .error failure := by
  have stops := stops_of_lookup_eq_error ref failed
  have ends := document.resolve_endsWith item context
  generalize document.resolve item context = outcome at ends
  cases ends with
  | definition other otherRef =>
      have same := follows.last_unique stops other (stops_of_ref_eq_none otherRef)
      rw [same, otherRef] at ref
      cases ref
  | failure other otherRef otherFailed =>
      have otherStops := stops_of_lookup_eq_error otherRef otherFailed
      have same := follows.last_unique stops other otherStops
      rw [same, otherRef] at ref
      cases ref
      exact otherFailed.symm.trans failed
  | cycle other otherRef _ again =>
      exact absurd (other.endless otherRef again) (follows.not_endless stops)

theorem resolve_eq_unresolved_iff {context : Option String} {item : α} {pointer : String} :
    document.resolve item context = .error (.unresolvedReference (some pointer) context) ↔
      document.components.isNone = false ∧ ∃ pointers last, document.Follows item pointers last ∧
        Referable.ref last = some pointer ∧
          (Component.definitions (α := α) document).get? (pointerName pointer) = none := by
  constructor
  · intro resolved
    have ends := document.resolve_endsWith item context
    rw [resolved] at ends
    cases ends with
    | failure follows ref failed =>
        rcases lookup_eq_error_iff.mp failed with ⟨_, other⟩ | ⟨present, missing, same⟩
        · cases other
        · cases same
          exact ⟨present, _, _, follows, ref, missing⟩
  · rintro ⟨present, pointers, last, follows, ref, missing⟩
    exact resolve_eq_error_of_follows follows ref
      (lookup_eq_error_iff.mpr (Or.inr ⟨present, missing, rfl⟩))

theorem resolve_eq_missing_iff {context : Option String} {item : α} {pointer : String} :
    document.resolve item context = .error (.missingComponents pointer) ↔
      document.components.isNone = true ∧ Referable.ref item = some pointer := by
  constructor
  · intro resolved
    have ends := document.resolve_endsWith item context
    rw [resolved] at ends
    cases ends with
    | failure follows ref failed =>
        rcases lookup_eq_error_iff.mp failed with ⟨absent, same⟩ | ⟨_, _, other⟩
        · cases same
          cases follows with
          | refl => exact ⟨absent, ref⟩
          | step _ found _ =>
              rw [IsSection.definitions_eq_nil document (Option.isNone_iff_eq_none.mp absent)]
                at found
              cases found
        · cases other
  · rintro ⟨absent, ref⟩
    exact resolve_eq_error_of_follows (.refl item) ref
      (lookup_eq_error_iff.mpr (Or.inl ⟨absent, rfl⟩))

omit [IsSection α] in
/-- A cycle is reported by the pointers up to the first one that was followed before. -/
theorem exists_follows_of_cycle {context : Option String} {item : α} {path : List (Option String)}
    (resolved : document.resolve item context = .error (.cycle path)) :
    ∃ pointers last pointer, path = (pointers ++ [pointer]).map some ∧
      document.Follows item pointers last ∧ Referable.ref last = some pointer ∧
        pointers.Nodup ∧ pointer ∈ pointers := by
  have ends := document.resolve_endsWith item context
  rw [resolved] at ends
  cases ends with
  | failure _ _ failed =>
      rcases lookup_eq_error_iff.mp failed with ⟨_, other⟩ | ⟨_, _, other⟩ <;> cases other
  | cycle follows ref distinct again => exact ⟨_, _, _, rfl, follows, ref, distinct, again⟩

/-- The failures of following pointers. -/
inductive PointerFailure (context : Option String) : Failure → Prop
  | unresolved (pointer : String) :
      PointerFailure context (.unresolvedReference (some pointer) context)
  | missing (pointer : String) : PointerFailure context (.missingComponents pointer)
  | cycle (path : List (Option String)) : PointerFailure context (.cycle path)

omit [IsSection α] in
/-- No other failures come of following pointers. -/
theorem failsOnly_pointerFailure (document : Document) (item : α) (context : Option String) :
    Outcome.FailsOnly (PointerFailure context) (document.resolve item context) := by
  intro failure resolved
  have ends := document.resolve_endsWith item context
  rw [resolved] at ends
  cases ends with
  | failure _ _ failed =>
      rcases lookup_eq_error_iff.mp failed with ⟨_, rfl⟩ | ⟨_, _, rfl⟩
      · exact .missing _
      · exact .unresolved _
  | cycle => exact .cycle _

theorem exists_cycle_iff_endless {context : Option String} {item : α} :
    (∃ path, document.resolve item context = .error (.cycle path)) ↔ document.Endless item := by
  constructor
  · rintro ⟨path, resolved⟩
    rcases exists_follows_of_cycle resolved with
      ⟨pointers, last, pointer, _, follows, ref, _, again⟩
    exact follows.endless ref again
  · intro endless
    have ends := document.resolve_endsWith item context
    generalize document.resolve item context = outcome at ends
    cases ends with
    | definition follows ref =>
        exact absurd endless (follows.not_endless (stops_of_ref_eq_none ref))
    | failure follows ref failed =>
        exact absurd endless (follows.not_endless (stops_of_lookup_eq_error ref failed))
    | cycle => exact ⟨_, rfl⟩

/-! ## Other spellings -/

omit [IsSection α] in
/-- Documents whose entries have the same names and point to the same names, however their
pointers are spelled. -/
structure Respells (alike : α → α → Prop) (first second : Document) : Prop where
  target : ∀ {item other : α}, alike item other →
    (Referable.ref item).map pointerName = (Referable.ref other).map pointerName
  components : first.components.isNone = second.components.isNone
  get? : ∀ name, Option.Rel alike ((Component.definitions (α := α) first).get? name)
    ((Component.definitions (α := α) second).get? name)

/-- Two outcomes of the same kind: like definitions, or failures that name the same entry. -/
inductive SameEnd (alike : α → α → Prop) : Outcome α → Outcome α → Prop
  | definition {first second : α} (similar : alike first second) :
      SameEnd alike (.ok first) (.ok second)
  | unresolved {first second : String} (name : pointerName first = pointerName second)
      (context other : Option String) :
      SameEnd alike (.error (.unresolvedReference (some first) context))
        (.error (.unresolvedReference (some second) other))
  | missing {first second : String} (name : pointerName first = pointerName second) :
      SameEnd alike (.error (.missingComponents first)) (.error (.missingComponents second))
  | cycle (first second : List (Option String)) :
      SameEnd alike (.error (.cycle first)) (.error (.cycle second))

section Respelling

variable {alike : α → α → Prop} {first second : Document}

omit [IsSection α]

/-- The other spelling of a pointer. -/
theorem Respells.exists_ref (respells : Respells alike first second) {item other : α}
    (similar : alike item other) {pointer : String} (ref : Referable.ref item = some pointer) :
    ∃ spelling, Referable.ref other = some spelling ∧
      pointerName pointer = pointerName spelling := by
  have target := respells.target similar
  rw [ref] at target
  rcases Option.map_eq_some_iff.mp target.symm with ⟨spelling, otherRef, same⟩
  exact ⟨spelling, otherRef, same.symm⟩

theorem Respells.ref_eq_none (respells : Respells alike first second) {item other : α}
    (similar : alike item other) (ref : Referable.ref item = none) :
    Referable.ref other = none := by
  have target := respells.target similar
  rw [ref] at target
  exact Option.map_eq_none_iff.mp target.symm

/-- A chain goes through the same names in the other spelling. -/
theorem Follows.respell (respells : Respells alike first second) {item last other : α}
    {pointers : List String} (follows : first.Follows item pointers last)
    (similar : alike item other) :
    ∃ spellings otherLast, second.Follows other spellings otherLast ∧
      spellings.map pointerName = pointers.map pointerName ∧ alike last otherLast := by
  induction follows generalizing other with
  | refl => exact ⟨[], other, .refl other, rfl, similar⟩
  | @step item next last pointer pointers ref found _ ih =>
      rcases respells.exists_ref similar ref with ⟨spelling, otherRef, sameName⟩
      have both := respells.get? (pointerName pointer)
      rw [found, sameName] at both
      generalize otherFound : (Component.definitions (α := α) second).get? _ = there at both
      cases both with
      | some similarNext =>
          rcases ih similarNext with ⟨spellings, otherLast, rest, sameNames, similarLast⟩
          refine ⟨spelling :: spellings, otherLast, .step otherRef otherFound rest, ?_, similarLast⟩
          rw [List.map_cons, List.map_cons, sameName, sameNames]

theorem Endless.respell (respells : Respells alike first second) {item other : α}
    (endless : first.Endless item) (similar : alike item other) : second.Endless other := by
  intro count
  rcases endless count with ⟨pointers, last, follows, longer⟩
  rcases follows.respell respells similar with ⟨spellings, otherLast, further, sameNames, _⟩
  have sameLength := congrArg List.length sameNames
  rw [List.length_map, List.length_map] at sameLength
  exact ⟨spellings, otherLast, further, by omega⟩

/-- In another spelling pointers end in the same way. -/
theorem Respells.sameEnd [IsSection α] (respells : Respells alike first second) {item other : α}
    (similar : alike item other) (context : Option String) :
    SameEnd alike (first.resolve item context) (second.resolve other context) := by
  have ends := first.resolve_endsWith item context
  cases resolved : first.resolve item context with
  | ok definition =>
      rw [resolved] at ends
      cases ends with
      | definition follows ref =>
          rcases follows.respell respells similar with ⟨_, otherLast, further, _, similarLast⟩
          have otherLeads := further.leadsTo (respells.ref_eq_none similarLast ref)
          rw [resolve_eq_ok_iff.mpr otherLeads]
          exact .definition similarLast
  | error failure =>
      rw [resolved] at ends
      cases ends with
      | failure follows ref failed =>
          rcases follows.respell respells similar with ⟨_, otherLast, further, _, similarLast⟩
          rcases respells.exists_ref similarLast ref with ⟨spelling, otherRef, sameName⟩
          rcases lookup_eq_error_iff.mp failed with ⟨absent, rfl⟩ | ⟨present, missing, rfl⟩
          · rw [resolve_eq_error_of_follows further otherRef
              (lookup_eq_error_iff.mpr (Or.inl ⟨respells.components ▸ absent, rfl⟩))]
            exact .missing sameName
          · have both := respells.get? (pointerName spelling)
            rw [← sameName, missing] at both
            generalize otherMissing : (Component.definitions (α := α) second).get? _ = there at both
            cases both
            rw [resolve_eq_error_of_follows further otherRef (lookup_eq_error_iff.mpr
              (Or.inr ⟨respells.components ▸ present, sameName ▸ otherMissing, rfl⟩))]
            exact .unresolved sameName context context
      | cycle follows ref _ again =>
          rcases exists_cycle_iff_endless.mpr ((follows.endless ref again).respell respells similar)
            with ⟨path, otherResolved⟩
          rw [otherResolved]
          exact .cycle _ path

end Respelling

/-! ## Exactness -/

/-- What resolving an item has to do with the chain of its pointers. -/
structure ResolvesExactly (document : Document) (item : α) (context : Option String) : Prop where
  definition : ∀ definition, document.resolve item context = .ok definition ↔
    ∃ pointers, document.Follows item pointers definition ∧ Referable.ref definition = none
  unresolved : ∀ pointer,
    document.resolve item context = .error (.unresolvedReference (some pointer) context) ↔
      document.components.isNone = false ∧ ∃ pointers last, document.Follows item pointers last ∧
        Referable.ref last = some pointer ∧
          (Component.definitions (α := α) document).get? (pointerName pointer) = none
  missing : ∀ pointer, document.resolve item context = .error (.missingComponents pointer) ↔
    document.components.isNone = true ∧ Referable.ref item = some pointer
  cycle : (∃ path, document.resolve item context = .error (.cycle path)) ↔ document.Endless item
  path : ∀ path, document.resolve item context = .error (.cycle path) →
    ∃ pointers last pointer, path = (pointers ++ [pointer]).map some ∧
      document.Follows item pointers last ∧ Referable.ref last = some pointer ∧
        pointers.Nodup ∧ pointer ∈ pointers
  others : Outcome.FailsOnly (PointerFailure context) (document.resolve item context)
  spelling : ∀ {alike : α → α → Prop} {second : Document} {other : α},
    Respells alike document second → alike item other →
      SameEnd alike (document.resolve item context) (second.resolve other context)

/-- Resolving an item gives the definition where the chain of its pointers stops, or fails at the
first pointer that leads nowhere, or reports the chain as a cycle if it never stops; and how
pointers are spelled before their names makes no difference. -/
theorem resolve_exact (document : Document) (item : α) (context : Option String) :
    document.ResolvesExactly item context where
  definition definition := by
    rw [resolve_eq_ok_iff]
    constructor
    · intro leads
      rcases exists_follows_of_leadsTo leads with ⟨pointers, follows⟩
      exact ⟨pointers, follows, leads.ref_eq_none⟩
    · rintro ⟨pointers, follows, ref⟩
      exact follows.leadsTo ref
  unresolved _ := resolve_eq_unresolved_iff
  missing _ := resolve_eq_missing_iff
  cycle := exists_cycle_iff_endless
  path _ := exists_follows_of_cycle
  others := document.failsOnly_pointerFailure item context
  spelling respells similar := respells.sameEnd similar context

end ApiScaffold.Document

namespace ApiScaffold

/-- A parameter that is given by a pointer. -/
def ParameterObject.pointer (target : String) : ParameterObject :=
  ⟨some target, none, none, none, none, none, none⟩

/-- Two parameters that point to each other. -/
def pagingDocument : Document where
  openapi := "3.0.0"
  info := none
  paths := []
  components := some {
    schemas := none
    responses := none
    parameters := some [("Page", .pointer "#/components/parameters/Size"),
      ("Size", .pointer "#/parameters/Page")]
    requestBodies := none
    headers := none }

/-- Parameters that point to each other are a cycle, however their pointers are spelled: the one
to the page comes in two spellings, and the one to the size comes again. -/
theorem resolve_exact_of_paging :
    pagingDocument.resolve (ParameterObject.pointer "#/components/parameters/Page") none =
        .error (.cycle [some "#/components/parameters/Page", some "#/components/parameters/Size",
          some "#/parameters/Page", some "#/components/parameters/Size"]) ∧
      pagingDocument.Endless (ParameterObject.pointer "#/components/parameters/Page") := by
  have resolved : pagingDocument.resolve
      (ParameterObject.pointer "#/components/parameters/Page") none = .error (.cycle _) := rfl
  exact ⟨resolved, (Document.resolve_exact _ _ none).cycle.mp ⟨_, resolved⟩⟩

end ApiScaffold
