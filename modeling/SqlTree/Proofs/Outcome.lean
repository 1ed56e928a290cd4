import Mathlib.Data.List.Forall2
import SqlTree.Form

/-! # Results of a renderer

What is known of the result of a run, if there is one, and how two runs of one renderer compare.
They agree if they are the same refusal or give two related values. Agreement follows the order in
which a `do` block looks at its parts, so two runs of a form agree if the runs of its parts do.
-/

namespace SqlTree

variable {α β γ δ : Type}

theorem bind_eq_ok {result : Except Refusal α} {rest : α → Except Refusal β} {value : β} :
    (result >>= rest) = .ok value ↔ ∃ first, result = .ok first ∧ rest first = .ok value := by
  constructor
  · intro given
    cases result with
    | error refusal => cases given
    | ok first => exact ⟨first, rfl, given⟩
  · rintro ⟨first, rfl, given⟩
    exact given

theorem bind_eq_error {result : Except Refusal α} {rest : α → Except Refusal β}
    {refusal : Refusal} :
    (result >>= rest) = .error refusal ↔
      result = .error refusal ∨ ∃ first, result = .ok first ∧ rest first = .error refusal := by
  constructor
  · intro given
    cases result with
    | error first =>
      cases given
      exact .inl rfl
    | ok first => exact .inr ⟨first, rfl, given⟩
  · rintro (rfl | ⟨first, rfl, given⟩)
    · rfl
    · exact given

/-- A list is passed if every member is. -/
theorem forM_eq_ok {check : α → Except Refusal Unit} {members : List α} :
    members.forM check = .ok () ↔ ∀ member ∈ members, check member = .ok () := by
  induction members with
  | nil =>
    refine ⟨fun _ _ member => ?_, fun _ => rfl⟩
    cases member
  | cons first rest ih =>
    change (check first >>= fun _ => rest.forM check) = .ok () ↔ _
    rw [bind_eq_ok, List.forall_mem_cons, ← ih]
    constructor
    · rintro ⟨⟨⟩, checked, others⟩
      exact ⟨checked, others⟩
    · rintro ⟨checked, others⟩
      exact ⟨(), checked, others⟩

/-- A list that is not passed is refused as one of its members is. -/
theorem exists_of_forM_eq_error {check : α → Except Refusal Unit} {members : List α}
    {refusal : Refusal} (refused : members.forM check = .error refusal) :
    ∃ member ∈ members, check member = .error refusal := by
  induction members with
  | nil => cases refused
  | cons first rest ih =>
    rcases bind_eq_error.mp refused with own | ⟨_, _, later⟩
    · exact ⟨first, List.mem_cons_self, own⟩
    · obtain ⟨member, inRest, given⟩ := ih later
      exact ⟨member, List.mem_cons_of_mem first inRest, given⟩

/-- A list has values if every member has one. -/
theorem exists_mapM_eq_ok {step : α → Except Refusal β} {members : List α} :
    (∃ values, members.mapM step = .ok values) ↔
      ∀ member ∈ members, ∃ value, step member = .ok value := by
  induction members with
  | nil => exact ⟨fun _ => nofun, fun _ => ⟨[], rfl⟩⟩
  | cons first rest ih =>
    rw [List.mapM_cons, List.forall_mem_cons, ← ih]
    constructor
    · rintro ⟨values, given⟩
      obtain ⟨head, own, others⟩ := bind_eq_ok.mp given
      obtain ⟨tail, later, -⟩ := bind_eq_ok.mp others
      exact ⟨⟨head, own⟩, tail, later⟩
    · rintro ⟨⟨head, own⟩, tail, later⟩
      exact ⟨head :: tail, by rw [own, later]; rfl⟩

/-- A list without values is refused as one of its members is. -/
theorem exists_of_mapM_eq_error {step : α → Except Refusal β} {members : List α}
    {refusal : Refusal} (refused : members.mapM step = .error refusal) :
    ∃ member ∈ members, step member = .error refusal := by
  induction members with
  | nil => cases refused
  | cons first rest ih =>
    rw [List.mapM_cons] at refused
    rcases bind_eq_error.mp refused with own | ⟨_, _, others⟩
    · exact ⟨first, List.mem_cons_self, own⟩
    · rcases bind_eq_error.mp others with later | ⟨_, _, last⟩
      · obtain ⟨member, inRest, given⟩ := ih later
        exact ⟨member, List.mem_cons_of_mem first inRest, given⟩
      · cases last

/-- A list that has values has as many as members. -/
theorem length_of_mapM_eq_ok {step : α → Except Refusal β} {members : List α} {values : List β}
    (given : members.mapM step = .ok values) : values.length = members.length := by
  induction members generalizing values with
  | nil =>
    cases given
    rfl
  | cons first rest ih =>
    rw [List.mapM_cons] at given
    obtain ⟨head, -, others⟩ := bind_eq_ok.mp given
    obtain ⟨tail, later, equal⟩ := bind_eq_ok.mp others
    cases equal
    rw [List.length_cons, List.length_cons, ih later]

/-- What is made several times of one result is refused as that result is. -/
theorem mapM_copies (form : α → β → γ) {members : List α} (some : members ≠ [])
    (result : Except Refusal β) :
    (members.mapM fun member => form member <$> result) =
      (fun value => members.map fun member => form member value) <$> result := by
  cases result with
  | error refusal =>
    obtain ⟨first, rest, rfl⟩ := List.exists_cons_of_ne_nil some
    rfl
  | ok value => exact List.mapM_pure

theorem forM_congr {check other : α → Except Refusal Unit} {members : List α}
    (same : ∀ member ∈ members, check member = other member) :
    members.forM check = members.forM other := by
  induction members with
  | nil => rfl
  | cons first rest ih =>
    obtain ⟨own, others⟩ := List.forall_mem_cons.mp same
    change (check first >>= fun _ => rest.forM check) = (other first >>= fun _ => rest.forM other)
    rw [own, ih others]

theorem mapM_congr {step other : α → Except Refusal β} {members : List α}
    (same : ∀ member ∈ members, step member = other member) :
    members.mapM step = members.mapM other := by
  induction members with
  | nil => rfl
  | cons first rest ih =>
    obtain ⟨own, others⟩ := List.forall_mem_cons.mp same
    rw [List.mapM_cons, List.mapM_cons, own, ih others]

/-- The result, if there is one, fulfils `holds`. -/
def Yields (holds : α → Prop) (result : Except Refusal α) : Prop :=
  ∀ value, result = .ok value → holds value

namespace Yields

variable {holds : α → Prop} {next : β → Prop}

theorem ok {value : α} (fulfilled : holds value) : Yields holds (.ok value) := by
  rintro _ ⟨⟩
  exact fulfilled

theorem error (refusal : Refusal) : Yields holds (.error refusal) :=
  nofun

theorem bind {result : Except Refusal α} {rest : α → Except Refusal β}
    (first : Yields holds result) (second : ∀ value, holds value → Yields next (rest value)) :
    Yields next (result >>= rest) := by
  intro value given
  obtain ⟨before, isOk, last⟩ := bind_eq_ok.mp given
  exact second before (first before isOk) value last

/-- Only what follows counts where nothing is known of the first result. -/
theorem check {result : Except Refusal α} {rest : α → Except Refusal β}
    (after : ∀ value, Yields next (rest value)) : Yields next (result >>= rest) :=
  have unknown : Yields (fun _ => True) result := fun _ _ => trivial
  unknown.bind fun value _ => after value

theorem mapM {step : α → Except Refusal β} {members : List α}
    (each : ∀ member ∈ members, Yields next (step member)) :
    Yields (fun values => ∀ value ∈ values, next value) (members.mapM step) := by
  induction members with
  | nil => exact ok nofun
  | cons first rest ih =>
    obtain ⟨own, others⟩ := List.forall_mem_cons.mp each
    rw [List.mapM_cons]
    exact own.bind fun _ head => (ih others).bind fun _ tail =>
      ok (List.forall_mem_cons.mpr ⟨head, tail⟩)

end Yields

/-- The two results are the same refusal, or two values that `related` relates. -/
def Agree (related : α → β → Prop) : Except Refusal α → Except Refusal β → Prop
  | .ok value, .ok other => related value other
  | .error refusal, .error other => refusal = other
  | _, _ => False

namespace Agree

theorem ok {related : α → β → Prop} {value : α} {other : β} (holds : related value other) :
    Agree related (.ok value) (.ok other) :=
  holds

theorem error {related : α → β → Prop} (refusal : Refusal) :
    Agree related (.error refusal) (.error refusal) :=
  rfl

/-- Results that agree are both refused or both have values. -/
theorem error_or_ok {related : α → β → Prop} {result : Except Refusal α}
    {other : Except Refusal β} (agree : Agree related result other) :
    (∃ refusal, result = .error refusal ∧ other = .error refusal) ∨
      ∃ value another, result = .ok value ∧ other = .ok another ∧ related value another := by
  cases result with
  | error refusal =>
    cases other with
    | error otherRefusal => exact .inl ⟨refusal, rfl, congrArg _ (Eq.symm agree)⟩
    | ok another => exact agree.elim
  | ok value =>
    cases other with
    | error otherRefusal => exact agree.elim
    | ok another => exact .inr ⟨value, another, rfl, rfl, agree⟩

/-- A result agrees with itself if its value, where it has one, is related to itself. -/
theorem refl {related : α → α → Prop} (result : Except Refusal α)
    (self : ∀ value, result = .ok value → related value value) : Agree related result result := by
  cases result with
  | error refusal => exact error refusal
  | ok value => exact ok (self value rfl)

theorem bind {related : α → β → Prop} {next : γ → δ → Prop} {result : Except Refusal α}
    {other : Except Refusal β} {rest : α → Except Refusal γ} {otherRest : β → Except Refusal δ}
    (first : Agree related result other)
    (second : ∀ value another, related value another → Agree next (rest value) (otherRest another)) :
    Agree next (result >>= rest) (other >>= otherRest) := by
  rcases first.error_or_ok with ⟨refusal, rfl, rfl⟩ | ⟨value, another, rfl, rfl, related⟩
  · exact error refusal
  · exact second value another related

/-- What follows gives the same result for both if it does for all related values. -/
theorem bind_eq {related : α → β → Prop} {result : Except Refusal α} {other : Except Refusal β}
    {rest : α → Except Refusal γ} {otherRest : β → Except Refusal γ}
    (first : Agree related result other)
    (second : ∀ value another, related value another → rest value = otherRest another) :
    (result >>= rest) = (other >>= otherRest) := by
  rcases first.error_or_ok with ⟨refusal, rfl, rfl⟩ | ⟨value, another, rfl, rfl, related⟩
  · rfl
  · exact second value another related

/-- Only what follows a check counts, as it gives no value. -/
theorem check {next : γ → δ → Prop} {result : Except Refusal α} {rest : α → Except Refusal γ}
    {otherRest : α → Except Refusal δ} (after : ∀ value, Agree next (rest value) (otherRest value)) :
    Agree next (result >>= rest) (result >>= otherRest) := by
  have checked : Agree Eq result result := refl result fun _ _ => rfl
  exact checked.bind fun value _ same => same ▸ after value

theorem mapM {related : γ → δ → Prop} {each : α → β → Prop} {step : α → Except Refusal γ}
    {otherStep : β → Except Refusal δ} {items : List α} {others : List β}
    (paired : List.Forall₂ each items others)
    (steps : ∀ item other, each item other → Agree related (step item) (otherStep other)) :
    Agree (List.Forall₂ related) (items.mapM step) (others.mapM otherStep) := by
  induction paired with
  | nil => exact ok .nil
  | cons first _ ih =>
    rw [List.mapM_cons, List.mapM_cons]
    exact (steps _ _ first).bind fun _ _ head => ih.bind fun _ _ tail => ok (.cons head tail)

end Agree

end SqlTree
