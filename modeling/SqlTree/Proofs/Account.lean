import SqlTree.Proofs.Alike
import SqlTree.Proofs.Site

/-! # Arguments and refusals by site

A rendering accounts for sites if it is refused exactly when one of them is unsupported, and its
arguments are otherwise those of the sites in their order. Rendering a tree accounts for the sites
of the tree, so the arguments of a statement and the statements that have none are read off the
tree. All built-in dialects refuse the same queries.
-/

namespace SqlTree

private theorem Site.flatMap_repeated (count : Nat) (sites : List Site) :
    (Site.repeated count sites).flatMap Site.arguments =
      (List.replicate count (sites.flatMap Site.arguments)).flatten := by
  rw [Site.repeated, List.flatMap_def, List.map_flatten, List.map_replicate,
    List.flatten_flatten, List.map_replicate, List.flatMap_def]

variable {α β : Type}

/-- The result is a refusal and one of the sites is unsupported, or it has the arguments `before`
and those of the sites, none of which is unsupported. -/
def Accounts (bound : α → List Value) (before : List Value) (sites : List Site) :
    Except Refusal α → Prop
  | .ok value =>
    (∀ site ∈ sites, ¬ site.Unsupported) ∧ bound value = before ++ sites.flatMap Site.arguments
  | .error _ => ∃ site ∈ sites, site.Unsupported

namespace Accounts

variable {bound : α → List Value} {next : β → List Value} {before : List Value}
  {sites more : List Site} {result : Except Refusal α} {site : Site}

theorem pure {value : α} (equal : bound value = before) :
    Accounts bound before [] (.ok value) := by
  refine ⟨?_, ?_⟩
  · simp
  · simp [equal]

theorem refused {refusal : Refusal} (member : site ∈ sites) (unsupported : site.Unsupported) :
    Accounts bound before sites (.error refusal) :=
  ⟨site, member, unsupported⟩

/-- The sites of two parts, of which the second is looked at after the first. -/
theorem bind {rest : α → Except Refusal β} (first : Accounts bound [] sites result)
    (second : ∀ value, result = .ok value →
      Accounts next (before ++ bound value) more (rest value)) :
    Accounts next before (sites ++ more) (result >>= rest) := by
  cases result with
  | error refusal =>
    obtain ⟨site, member, unsupported⟩ := first
    exact refused (List.mem_append_left more member) unsupported
  | ok value =>
    obtain ⟨supported, arguments⟩ := first
    change Accounts next before (sites ++ more) (rest value)
    have last := second value rfl
    cases given : rest value with
    | error refusal =>
      rw [given] at last
      obtain ⟨site, member, unsupported⟩ := last
      exact refused (List.mem_append_right sites member) unsupported
    | ok other =>
      rw [given] at last
      obtain ⟨restSupported, restArguments⟩ := last
      refine ⟨?_, ?_⟩
      · intro site member
        rcases List.mem_append.mp member with inFirst | inSecond
        · exact supported site inFirst
        · exact restSupported site inSecond
      · rw [restArguments, arguments, List.flatMap_append, List.nil_append, List.append_assoc]

/-- A form of one part. -/
theorem map {form : α → β} (first : Accounts bound [] sites result)
    (equal : ∀ value, next (form value) = before ++ bound value) :
    Accounts next before sites (result >>= fun value => .ok (form value)) := by
  have whole : Accounts next before (sites ++ []) (result >>= fun value => .ok (form value)) :=
    first.bind fun value _ => pure (equal value)
  simpa using whole

/-- A site in front of those that are looked at. -/
theorem cons (supported : ¬ site.Unsupported)
    (rest : Accounts bound (before ++ site.arguments) sites result) :
    Accounts bound before (site :: sites) result := by
  cases result with
  | error refusal =>
    obtain ⟨other, member, unsupported⟩ := rest
    exact refused (List.mem_cons_of_mem site member) unsupported
  | ok value =>
    obtain ⟨others, arguments⟩ := rest
    refine ⟨List.forall_mem_cons.mpr ⟨supported, others⟩, ?_⟩
    rw [arguments, List.flatMap_cons, List.append_assoc]

/-- A site in front that only holds other sites. -/
theorem node (supported : ¬ site.Unsupported) (silent : site.arguments = [])
    (rest : Accounts bound before sites result) : Accounts bound before (site :: sites) result :=
  cons supported (by rwa [silent, List.append_nil])

/-- Sites that are supported on their own, after the part. -/
theorem append {form : α → β} (first : Accounts bound [] sites result)
    (supported : ∀ site ∈ more, ¬ site.Unsupported)
    (equal : ∀ value, next (form value) = before ++ bound value ++ more.flatMap Site.arguments) :
    Accounts next before (sites ++ more) (result >>= fun value => .ok (form value)) :=
  first.bind fun value _ => ⟨supported, equal value⟩

/-- Sites that are supported and have no arguments, after all others. -/
theorem append_silent (first : Accounts bound before sites result)
    (silent : ∀ site ∈ more, ¬ site.Unsupported ∧ site.arguments = []) :
    Accounts bound before (sites ++ more) result := by
  cases result with
  | error refusal =>
    obtain ⟨site, member, unsupported⟩ := first
    exact refused (List.mem_append_left more member) unsupported
  | ok value =>
    obtain ⟨supported, arguments⟩ := first
    have none : more.flatMap Site.arguments = [] :=
      List.flatMap_eq_nil_iff.mpr fun site member => (silent site member).2
    refine ⟨?_, ?_⟩
    · intro site member
      rcases List.mem_append.mp member with inFirst | inMore
      · exact supported site inFirst
      · exact (silent site inMore).1
    · rw [arguments, List.flatMap_append, none, List.append_nil]

/-- A part that is written several times. -/
theorem repeated {count : Nat} (positive : 0 < count) (first : Accounts bound [] sites result) :
    Accounts (fun value => (List.replicate count (bound value)).flatten) []
      (Site.repeated count sites) result := by
  cases result with
  | error refusal =>
    obtain ⟨site, member, unsupported⟩ := first
    exact refused ((Site.mem_repeated positive).mpr member) unsupported
  | ok value =>
    obtain ⟨supported, arguments⟩ := first
    refine ⟨fun site member => supported site ((Site.mem_repeated positive).mp member), ?_⟩
    change (List.replicate count (bound value)).flatten = [] ++ _
    rw [arguments, List.nil_append, List.nil_append, Site.flatMap_repeated]

end Accounts

/-! ## Arguments of fragments -/

namespace Dialect

variable (dialect : Dialect)

@[simp] theorem argumentsOf_nil : dialect.argumentsOf [] = [] := rfl

@[simp] theorem argumentsOf_text (text : String) (rest : Fragment) :
    dialect.argumentsOf (.text text :: rest) = dialect.argumentsOf rest := rfl

@[simp] theorem argumentsOf_name (name : Name) (rest : Fragment) :
    dialect.argumentsOf (.name name :: rest) = dialect.argumentsOf rest := rfl

@[simp] theorem argumentsOf_dialectName (rest : Fragment) :
    dialect.argumentsOf (.dialectName :: rest) = dialect.argumentsOf rest := rfl

@[simp] theorem argumentsOf_argument (value : Value) (rest : Fragment) :
    dialect.argumentsOf (.argument value :: rest) = value :: dialect.argumentsOf rest := rfl

@[simp] theorem argumentsOf_parenthesised (fragment : Fragment) :
    dialect.argumentsOf fragment.parenthesised = dialect.argumentsOf fragment := by
  simp [Fragment.parenthesised]

@[simp] theorem argumentsOf_grouped (group : Bool) (fragment : Fragment) :
    dialect.argumentsOf (Fragment.grouped group fragment) = dialect.argumentsOf fragment := by
  cases group <;> simp [Fragment.grouped]

@[simp] theorem argumentsOf_separated (separator : String) (fragments : List Fragment) :
    dialect.argumentsOf (Fragment.separated separator fragments) =
      fragments.flatMap dialect.argumentsOf := by
  induction fragments with
  | nil => rfl
  | cons first rest ih =>
    cases rest with
    | nil => simp [Fragment.separated]
    | cons second others =>
      rw [Fragment.separated, argumentsOf_append, argumentsOf_text, ih]
      rfl

@[simp] theorem argumentsOf_call (function : String) (arguments : List Fragment) :
    dialect.argumentsOf (Fragment.call function arguments) =
      arguments.flatMap dialect.argumentsOf := by
  simp [Fragment.call]

variable {dialect}

theorem Conventional.argumentsOf_value_cons (conventional : dialect.Conventional) (value : Value)
    (rest : Fragment) :
    dialect.argumentsOf (.value value :: rest) =
      (Site.value value).arguments ++ dialect.argumentsOf rest := by
  rw [argumentsOf_cons, conventional.argumentsOf_value]
  rfl

end Dialect

end SqlTree
