import Mathlib.Data.List.Induction
import Mathlib.Data.List.Nodup
import Mathlib.Logic.Function.Iterate
import SqlTree.Dialect.ColumnType

/-! # Declaring columns

A registry takes properties one by one until the kind of one is there already. A declaration
therefore succeeds exactly if no kind is declared twice, and is refused for the first property that
repeats a kind; in the first case the table has the column behind its others, in the second it is
what it was (`Table.Reachable.declares`). Whatever has been tried on a table, every column of it has
at most one property of each kind and is named within the table.
-/

namespace SqlTree

/-- The first item of the list that has been there before is `again`. -/
def RepeatedFirst {α : Type} (items : List α) (again : α) : Prop :=
  ∃ before after, items = before ++ again :: after ∧ before.Nodup ∧ again ∈ before

private theorem RepeatedFirst.not_nodup {α : Type} {items : List α} {again : α}
    (repeated : RepeatedFirst items again) : ¬ items.Nodup := by
  obtain ⟨before, after, rfl, -, earlier⟩ := repeated
  exact fun distinct =>
    List.disjoint_of_nodup_append distinct earlier List.mem_cons_self

/-- A list without a first repeated item has no repeated item. -/
theorem nodup_or_repeatedFirst {α : Type} [DecidableEq α] (items : List α) :
    items.Nodup ∨ ∃ again, RepeatedFirst items again := by
  induction items using List.reverseRecOn with
  | nil => exact .inl List.nodup_nil
  | append_singleton before last ih =>
    rcases ih with distinct | ⟨again, front, back, rfl, distinct, earlier⟩
    · by_cases earlier : last ∈ before
      · exact .inr ⟨last, before, [], rfl, distinct, earlier⟩
      · rw [List.nodup_append_comm]
        exact .inl (List.nodup_cons.mpr ⟨earlier, distinct⟩)
    · exact .inr ⟨again, front, back ++ [last], by simp, distinct, earlier⟩

namespace Properties

@[simp]
private theorem get?_eq_none_iff {properties : Properties} {kind : PropertyKind} :
    properties.get? kind = none ↔ kind ∉ properties.entries.map Property.kind := by
  simp [get?, List.find?_eq_none]

private theorem insert_eq_error {properties : Properties} {property : Property} (column : Name)
    (present : property.kind ∈ properties.entries.map Property.kind) :
    properties.insert column property = .error ⟨column, property.kind⟩ := by
  refine if_pos (Option.isSome_iff_ne_none.mpr fun absent => ?_)
  exact get?_eq_none_iff.mp absent present

private theorem ofList_append (column : Name) (before after : List Property) :
    ofList column (before ++ after) = (ofList column before).bind fun properties =>
      after.foldlM (fun properties property => properties.insert column property) properties :=
  List.foldlM_append

/-- A registry accepts properties of different kinds, in their order. -/
theorem ofList_of_nodup (column : Name) {declared : List Property}
    (distinct : (declared.map Property.kind).Nodup) : ofList column declared = .ok ⟨declared⟩ := by
  -- From the back, where a property meets the registry of all that come before it.
  induction declared using List.reverseRecOn with
  | nil => rfl
  | append_singleton before last ih =>
    rw [List.map_append, List.nodup_append_comm] at distinct
    obtain ⟨absent, first⟩ := List.nodup_cons.mp distinct
    rw [ofList_append, ih first]
    change (insert ⟨before⟩ column last).bind _ = _
    rw [(insert_eq_ok_iff _ _ column last).mpr ⟨get?_eq_none_iff.mpr absent, rfl⟩]
    rfl

/-- A registry refuses properties for the first of them that repeats a kind. -/
private theorem ofList_of_repeatedFirst (column : Name) {declared : List Property} {kind : PropertyKind}
    (repeated : RepeatedFirst (declared.map Property.kind) kind) :
    ofList column declared = .error ⟨column, kind⟩ := by
  obtain ⟨_, _, split, distinct, earlier⟩ := repeated
  obtain ⟨before, rest, rfl, rfl, tail⟩ := List.map_eq_append_iff.mp split
  obtain ⟨property, after, rfl, rfl, rfl⟩ := List.map_eq_cons_iff.mp tail
  rw [ofList_append, ofList_of_nodup column distinct]
  change (insert ⟨before⟩ column property).bind _ = _
  rw [insert_eq_error column earlier]
  rfl

/-- The property of a kind is the only one of the kind. -/
private theorem get?_eq_some_iff {properties : Properties} {kind : PropertyKind} {property : Property}
    (distinct : (properties.entries.map Property.kind).Nodup) :
    properties.get? kind = some property ↔
      property ∈ properties.entries ∧ property.kind = kind := by
  have sound {other : Property} (found : properties.get? kind = some other) :
      other ∈ properties.entries ∧ other.kind = kind :=
    ⟨List.mem_of_find?_eq_some found, by simpa using List.find?_some found⟩
  refine ⟨sound, fun ⟨there, same⟩ => ?_⟩
  cases found : properties.get? kind with
  | none =>
    exact absurd (same ▸ List.mem_map_of_mem there) (get?_eq_none_iff.mp found)
  | some other =>
    obtain ⟨otherThere, otherSame⟩ := sound found
    rw [List.inj_on_of_nodup_map distinct otherThere there (otherSame.trans same.symm)]

private theorem defaultValue?_eq_some_iff {properties : Properties} {value : Value} :
    properties.defaultValue? = some value ↔
      properties.get? .default = some (.default value) := by
  unfold defaultValue?
  split <;> simp_all

private theorem references?_eq_some_iff {properties : Properties} {column : Name} :
    properties.references? = some column ↔
      properties.get? .references = some (.references column) := by
  unfold references?
  split <;> simp_all

/-- What a column has been declared with is kept in its order and found again: the property of each
kind, and for two kinds what the property says. -/
structure Lists (properties : Properties) (declared : List Property) : Prop where
  entries : properties.entries = declared
  get : ∀ kind property,
    properties.get? kind = some property ↔ property ∈ declared ∧ property.kind = kind
  has : ∀ kind, properties.has kind = true ↔ ∃ property ∈ declared, property.kind = kind
  defaultValue : ∀ value, properties.defaultValue? = some value ↔ .default value ∈ declared
  references : ∀ column, properties.references? = some column ↔ .references column ∈ declared

theorem lists_of_nodup {declared : List Property}
    (distinct : (declared.map Property.kind).Nodup) : (Properties.mk declared).Lists declared where
  entries := rfl
  get _ _ := get?_eq_some_iff distinct
  has kind := by
    rw [has, Option.isSome_iff_ne_none, Ne, get?_eq_none_iff, not_not, List.mem_map]
  defaultValue value := by
    rw [defaultValue?_eq_some_iff, get?_eq_some_iff distinct]
    exact and_iff_left rfl
  references column := by
    rw [references?_eq_some_iff, get?_eq_some_iff distinct]
    exact and_iff_left rfl

end Properties

def Draft.declareAll (draft : Draft) (calls : List Property) : Draft :=
  calls.foldl Draft.declare draft

/-- Properties add up behind those that a draft starts with. -/
theorem Draft.declareAll_eq (draft : Draft) (calls : List Property) :
    draft.declareAll calls = { draft with properties := draft.properties ++ calls } := by
  induction calls generalizing draft with
  | nil => simp [declareAll]
  | cons property rest ih =>
    change (draft.declare property).declareAll rest = _
    rw [ih]
    simp [declare]

namespace Table

/-- What comes of declaring a column in a table: all of it or nothing. -/
structure Declares (table : Table) (id : String) (type : ColumnType) (declared : List Property)
    (outcome : Except DuplicateProperty Column × Table) : Prop where
  accepts_iff : (∃ column, outcome.1 = .ok column) ↔ (declared.map Property.kind).Nodup
  accepted : ∀ column, outcome.1 = .ok column →
    outcome.2 = { table with columns := table.columns ++ [column] } ∧
      column.name = .qualified table.name id ∧ column.type = type ∧
      column.properties.Lists declared
  refused : ∀ error, outcome.1 = .error error →
    outcome.2 = table ∧ error.column = .qualified table.name id ∧
      RepeatedFirst (declared.map Property.kind) error.kind

private theorem declare_run (draft : Draft) (table : Table) :
    (declare draft).run.run table =
      match Properties.ofList (.qualified table.name draft.id) draft.properties with
      | .ok properties =>
        let column : Column := ⟨.qualified table.name draft.id, draft.type, properties⟩
        (.ok column, { table with columns := table.columns ++ [column] })
      | .error error => (.error error, table) := by
  change ExceptT.run (do
    let properties ←
      (liftM (Properties.ofList (.qualified table.name draft.id) draft.properties) :
        ExceptT DuplicateProperty (StateM Table) Properties)
    let column : Column := ⟨.qualified table.name draft.id, draft.type, properties⟩
    register column
    return column) table = _
  cases Properties.ofList (.qualified table.name draft.id) draft.properties <;> rfl

/-- One declaration takes all of the draft or nothing. -/
theorem declares_draft (draft : Draft) (table : Table) :
    table.Declares draft.id draft.type draft.properties ((declare draft).run.run table) := by
  rw [declare_run]
  rcases nodup_or_repeatedFirst (draft.properties.map Property.kind) with
    distinct | ⟨kind, repeated⟩
  · rw [Properties.ofList_of_nodup _ distinct]
    exact {
      accepts_iff := ⟨fun _ => distinct, fun _ => ⟨_, rfl⟩⟩
      accepted := by
        rintro _ ⟨⟩
        exact ⟨rfl, rfl, rfl, Properties.lists_of_nodup distinct⟩
      refused := nofun }
  · rw [Properties.ofList_of_repeatedFirst _ repeated]
    exact {
      accepts_iff := ⟨nofun, fun distinct => absurd distinct repeated.not_nodup⟩
      accepted := nofun
      refused := by
        rintro _ ⟨⟩
        exact ⟨rfl, rfl, repeated⟩ }

/-- The columns of the table have at most one property of each kind, and stand in the table. -/
def IsWellDeclared (table : Table) : Prop :=
  ∀ column ∈ table.columns, (column.properties.entries.map Property.kind).Nodup ∧
    column.name.parent? = some table.name

/-- A declaration, whether it is accepted or refused, keeps the columns well declared. -/
private theorem IsWellDeclared.declare {table : Table} (well : table.IsWellDeclared) (draft : Draft) :
    ((declare draft).run.run table).2.IsWellDeclared := by
  have declares := declares_draft draft table
  cases outcome : ((Table.declare draft).run.run table).1 with
  | error error =>
    rw [(declares.refused error outcome).1]
    exact well
  | ok added =>
    obtain ⟨grown, name, -, lists⟩ := declares.accepted added outcome
    rw [grown]
    intro column there
    rcases List.mem_append.mp there with there | there
    · exact well column there
    · rw [List.mem_singleton.mp there, lists.entries, name]
      exact ⟨declares.accepts_iff.mp ⟨added, outcome⟩, rfl⟩

/-- A table that some declarations, accepted or refused, have made of an empty one. -/
inductive Reachable : Table → Prop where
  | named (id : String) : Reachable (named id)
  | after {table : Table} (before : Reachable table) (draft : Draft) :
      Reachable ((Table.declare draft).run.run table).2

theorem Reachable.isWellDeclared {table : Table} (reachable : table.Reachable) :
    table.IsWellDeclared := by
  induction reachable with
  | named id => exact nofun
  | after before draft ih => exact ih.declare draft

/-- A column is declared with all that its draft has been given, and a reference with the column it
refers to before that. In between, the columns of the table are well declared. -/
theorem Reachable.declares {table : Table} (reachable : table.Reachable) :
    (∀ id type calls, table.Declares id type calls
        ((declare (Draft.declareAll { id, type } calls)).run.run table)) ∧
      (∀ id target calls,
        table.Declares id (.reference target.type) (.references target.name :: calls)
          ((declare ((Draft.reference id target).declareAll calls)).run.run table)) ∧
      table.IsWellDeclared := by
  refine ⟨?_, ?_, reachable.isWellDeclared⟩
  · intro id type calls
    rw [Draft.declareAll_eq]
    exact declares_draft ⟨id, type, calls⟩ table
  · intro id target calls
    rw [Draft.declareAll_eq]
    exact declares_draft ⟨id, .reference target.type, .references target.name :: calls⟩ table

theorem Reachable.declares_self_reference :
    let owner : Column := ⟨.qualified (.identifier "t") "id", .int, {}⟩
    let table := ((Table.declare { id := "id", type := .int }).run.run (Table.named "t")).2
    let draft := (Draft.reference "up" owner).declareAll [.nullable, .references owner.name]
    table.Reachable ∧ table.columns = [owner] ∧
      (declare draft).run.run table =
        (.error ⟨.qualified (.identifier "t") "up", .references⟩, table) ∧
      table.IsWellDeclared := by
  intro owner table draft
  have reachable : table.Reachable := .after (.named "t") _
  obtain ⟨-, references, well⟩ := reachable.declares
  have declares := references "up" owner [.nullable, .references owner.name]
  have refused : ((declare draft).run.run table).1 =
      .error ⟨.qualified (.identifier "t") "up", .references⟩ := by decide
  exact ⟨reachable, by decide, Prod.ext refused (declares.refused _ refused).1, well⟩

end Table

/-! ## The types of references

A dialect that says nothing about references themselves is asked for the type they lead to, however
many there are on the way. A column is thus declared with the type that stands at the end, whether
the dialect has a name of its own for it or not (`Dialect.declaresAs_iterate_reference`,
`Dialect.columnDeclaration_of_refersTo`). Only the columns that the database numbers are left out:
no dialect of the library numbers a reference.
-/

namespace ColumnType

private theorem resolve_reference {α : Type} {answer? : ColumnType → Option α} {target : ColumnType}
    (unanswered : answer? (reference target) = none) (standard : String → α) :
    (reference target).resolve answer? standard = target.resolve answer? standard := by
  rw [resolve, unanswered, Option.getD_none]

theorem resolve_iterate_reference {α : Type} {answer? : ColumnType → Option α}
    (unanswered : ∀ target, answer? (reference target) = none) (standard : String → α)
    (type : ColumnType) (depth : ℕ) :
    (reference^[depth] type).resolve answer? standard = type.resolve answer? standard := by
  induction depth with
  | zero => rfl
  | succ depth ih =>
    rw [Function.iterate_succ_apply', resolve_reference (unanswered _), ih]

end ColumnType

/-- A column is declared with what its type and another one are both called, followed by NOT NULL
unless it is nullable. -/
theorem Column.declaration_of_name {ε : Type} {name : ColumnType → Except ε String}
    {column : Column} {target : ColumnType} (same : name column.type = name target)
    (unnumbered : column.isAutoIncrement = false) (identity : ColumnType → Except ε String) :
    column.declaration name identity =
      (name target).map (· ++ if column.isNullable then "" else " NOT NULL") := by
  rw [declaration, unnumbered, same]
  cases name target with
  | error refusal => rfl
  | ok text =>
    cases column.isNullable with
    | false => rfl
    | true => exact congrArg Except.ok String.append_empty.symm

open ColumnType

/-- The column has been declared as a reference to a column that has been declared as a reference,
and so on, until after `depth` references comes `target`. -/
inductive Column.RefersTo (target : Column) : ℕ → Column → Prop where
  | self : RefersTo target 0 target
  | declared {depth : ℕ} {next column : Column} (rest : RefersTo target depth next)
      (table : Table) (id : String) (calls : List Property)
      (accepted : ((Table.declare ((Draft.reference id next).declareAll calls)).run.run table).1 =
        .ok column) : RefersTo target (depth + 1) column

/-- Each declaration on the way puts one reference around the type. -/
theorem Column.RefersTo.type_eq {target column : Column} {depth : ℕ}
    (refers : RefersTo target depth column) : column.type = reference^[depth] target.type := by
  induction refers with
  | self => rfl
  | @declared depth next column rest table id calls accepted ih =>
    obtain ⟨-, -, type, -⟩ :=
      (Table.declares_draft ((Draft.reference id next).declareAll calls) table).accepted
        column accepted
    rw [type, Draft.declareAll_eq, Function.iterate_succ_apply', ← ih]
    rfl

/-- The dialect gives no reference a name of its own. -/
def TypeNames.FollowsReferences (types : TypeNames) : Prop :=
  ∀ target, types.name? (reference target) = none

namespace Dialect

/-- Columns of a type are declared with the name of the other, followed by NOT NULL unless they are
nullable, and have no declaration of their own unless they are numbered. -/
structure DeclaresAs (dialect : Dialect) (type target : ColumnType) : Prop where
  name : dialect.columnType type = dialect.columnType target
  declaration : ∀ column : Column, column.type = type → column.isAutoIncrement = false →
    dialect.columnDeclaration column =
      .ok (dialect.columnType target ++ if column.isNullable then "" else " NOT NULL")

/-- The dialect refuses to number columns of the type. -/
structure RefusesIdentity (dialect : Dialect) (type : ColumnType) : Prop where
  identity : dialect.identityType type = .error ⟨dialect.name, .identityType type⟩
  declaration : ∀ column : Column, column.type = type → column.isAutoIncrement = true →
    dialect.columnDeclaration column = .error ⟨dialect.name, .identityType type⟩

private theorem declaresAs_of_name {dialect : Dialect} {type target : ColumnType}
    (name : dialect.columnType type = dialect.columnType target) :
    dialect.DeclaresAs type target where
  name := name
  declaration column typed unnumbered :=
    column.declaration_of_name (congrArg Except.ok (typed ▸ name)) unnumbered dialect.identityType

/-- References are declared as what they lead to. -/
theorem declaresAs_of_followsReferences {dialect : Dialect}
    (through : dialect.types.FollowsReferences) (type : ColumnType) (depth : ℕ) :
    dialect.DeclaresAs (reference^[depth] type) type :=
  declaresAs_of_name (resolve_iterate_reference through id type depth)

/-- A column at the beginning of a chain of references is declared with the type of the column at
the end; whether it may be NULL is its own affair. -/
theorem columnDeclaration_of_refersTo {dialect : Dialect}
    (through : dialect.types.FollowsReferences) {target column : Column} {depth : ℕ}
    (refers : Column.RefersTo target depth column) (unnumbered : column.isAutoIncrement = false) :
    dialect.columnDeclaration column =
      .ok (dialect.columnType target.type ++ if column.isNullable then "" else " NOT NULL") :=
  (declaresAs_of_followsReferences through target.type depth).declaration column refers.type_eq
    unnumbered

private theorem refusesIdentity_of_none {dialect : Dialect} {type : ColumnType}
    (none : dialect.types.identity? type = none) : dialect.RefusesIdentity type where
  identity := by rw [identityType, none]
  declaration column typed numbered := by
    rw [columnDeclaration, Column.declaration, if_pos numbered, typed, identityType, none]

/-- No dialect of the library says anything about references themselves. -/
private theorem references_of_builtIn {dialect : Dialect} (known : dialect ∈ builtIn) :
    dialect.types.FollowsReferences ∧
      ∀ target, dialect.types.identity? (reference target) = none := by
  rcases mem_builtIn.mp known with rfl | rfl | rfl | rfl <;> exact ⟨fun _ => rfl, fun _ => rfl⟩

/-- The dialects of the library number the columns of two types. -/
private theorem identityType_eq_ok_iff {dialect : Dialect} (known : dialect ∈ builtIn)
    (type : ColumnType) :
    (∃ declaration, dialect.identityType type = .ok declaration) ↔ type = .int ∨ type = .long := by
  rcases mem_builtIn.mp known with rfl | rfl | rfl | rfl
  all_goals
    cases type with
    | int => exact iff_of_true ⟨_, rfl⟩ (.inl rfl)
    | long => exact iff_of_true ⟨_, rfl⟩ (.inr rfl)
    | _ => exact iff_of_false nofun nofun

/-- A reference to a column, and every reference to a reference, has the name that the type at the
end has, be it a text or a refusal, in every dialect that answers for no reference itself, and a
column is declared with it. In the dialects of the library that is so, and none of them numbers a
reference, whatever it leads to. -/
theorem declaresAs_iterate_reference (type : ColumnType) (depth : ℕ) :
    (∀ {ε : Type} {answer? : ColumnType → Option (Except ε String)},
      (∀ target, answer? (reference target) = none) →
        (reference^[depth] type).resolve answer? .ok = type.resolve answer? .ok ∧
        ∀ identity (column : Column), column.type = reference^[depth] type →
          column.isAutoIncrement = false → column.declaration (resolve answer? .ok) identity =
            (type.resolve answer? .ok).map (· ++ if column.isNullable then "" else " NOT NULL")) ∧
      (∀ dialect : Dialect, dialect.types.FollowsReferences →
        dialect.DeclaresAs (reference^[depth] type) type) ∧
      ∀ dialect ∈ builtIn, dialect.DeclaresAs (reference^[depth] type) type ∧
        (0 < depth → dialect.RefusesIdentity (reference^[depth] type)) ∧
        ((∃ declaration, dialect.identityType type = .ok declaration) ↔
          type = .int ∨ type = .long) := by
  refine ⟨?_, fun dialect through => declaresAs_of_followsReferences through type depth, ?_⟩
  · intro ε answer? unanswered
    have name := resolve_iterate_reference unanswered .ok type depth
    refine ⟨name, ?_⟩
    intro identity column typed unnumbered
    rw [← typed] at name
    exact column.declaration_of_name name unnumbered identity
  · intro dialect known
    obtain ⟨through, unnumbered⟩ := references_of_builtIn known
    refine ⟨declaresAs_of_followsReferences through type depth, ?_,
      identityType_eq_ok_iff known type⟩
    intro nested
    cases depth with
    | zero => exact absurd nested (Nat.lt_irrefl 0)
    | succ depth =>
      rw [Function.iterate_succ_apply']
      exact refusesIdentity_of_none (unnumbered _)

theorem declaresAs_iterate_reference_uuid :
    let answer? : ColumnType → Option String := fun type =>
      if type = .uuid then some "CHAR(36)" else none
    let custom : Dialect := { name := "custom", types := ⟨answer?, standardIdentity?⟩ }
    let column : Column := ⟨.identifier "owner", .reference (.reference .uuid), {}⟩
    custom.columnDeclaration column = .ok "CHAR(36) NOT NULL" ∧
      column.type.resolve (fun type => if type = .uuid then some (.error "no UUID") else none) .ok =
        Except.error "no UUID" ∧
      (∃ declaration, mysql.identityType .int = .ok declaration) ∧
      mysql.identityType (.reference (.reference .int)) =
        .error ⟨"mysql", .identityType (.reference (.reference .int))⟩ := by
  intro answer? custom column
  obtain ⟨refused, declared, -⟩ := declaresAs_iterate_reference .uuid 2
  obtain ⟨-, -, library⟩ := declaresAs_iterate_reference .int 2
  obtain ⟨-, unnumbered, numbered⟩ := library mysql (by simp [builtIn])
  refine ⟨?_, (refused fun _ => rfl).1, numbered.mpr (.inl rfl), (unnumbered (by decide)).identity⟩
  have unanswered : custom.types.FollowsReferences := fun _ => rfl
  rw [(declared custom unanswered).declaration column rfl (by decide)]
  exact congrArg Except.ok (by decide)

end Dialect

end SqlTree
