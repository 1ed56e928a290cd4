import SqlTree.Proofs.Calls
import SqlTree.Proofs.Override.Congruence
import SqlTree.Proofs.Override.Pieces

/-! # What a dialect changes

Two dialects compile a statement alike if they decide alike at every site of the statement
(`Statement.render_congr`) and spell its names alike (`outcome_congr`). The dialects of the library
therefore differ only where one of them decides otherwise: unions without repeated rows and bounds
on changed rows for SQLite, sort keys, insertions without values and offsets on changed rows for
MySQL, and quoted identifiers between the two modes of MySQL (`outcome_overridden`).
-/

namespace SqlTree

/-- A name of bare identifiers is written as it is. -/
private theorem Spelling.name_eq_text {spelling : Spelling} {name : Name}
    (bare : ∀ id ∈ name.parts, spelling.isBare id = true) : spelling.name name = name.text := by
  induction name with
  | identifier id =>
    rw [Spelling.name, identifier, if_pos (bare id List.mem_cons_self), Name.text]
  | qualified parent id ih =>
    obtain ⟨outer, last⟩ := List.forall_mem_append.mp bare
    rw [Spelling.name, identifier, if_pos (last id List.mem_cons_self), ih outer, Name.text]

/-- Grammars with the same operators decide alike everywhere but at queries. -/
theorem Site.sameIn_of_query {first second : Grammar} (operators : first.operator? = second.operator?)
    {site : Site} (rows : ∀ rows, site = .query rows → (Site.query rows).SameIn first second) :
    site.SameIn first second := by
  cases site with
  | expr position expr =>
    cases expr with
    | binary op left right => exact fun _ _ => congrFun operators op
    | _ => trivial
  | query selected => exact rows selected rfl
  | extension node =>
    cases node with
    | truncate date unit offset => exact fun _ => congrFun operators .sub
    | _ => trivial
  | _ => trivial

namespace Dialect

/-- The text and the arguments of a statement, or the refusal without the name of the dialect. -/
def outcome (dialect : Dialect) (statement : Statement) : Except Refusal Compiled :=
  (dialect.compile statement).mapError CompileError.refusal

/-- An error is a refusal with the name of the dialect. -/
theorem compile_eq_outcome (dialect : Dialect) (statement : Statement) :
    dialect.compile statement =
      (dialect.outcome statement).mapError fun refusal => ⟨dialect.name, refusal⟩ := by
  rw [outcome, compile]
  cases statement.render dialect.grammar <;> rfl

/-- The dialects write the piece alike, wherever it stands. -/
def SpellAlike (first second : Dialect) (piece : Piece) : Prop :=
  ∀ bound, first.pieceText bound piece = second.pieceText bound piece

section

variable {first second : Dialect} (values : first.spelling.values = second.spelling.values)

include values

private theorem spellAlike_form : FormPieces (SpellAlike first second) where
  text _ _ := rfl
  value value bound := by rw [pieceText, pieceText, values]
  argument _ _ := rfl

private theorem appendText_congr {fragment : Fragment} (alike : fragment.All (SpellAlike first second))
    (before : String) (bound : Nat) :
    first.appendText before bound fragment = second.appendText before bound fragment := by
  induction fragment generalizing before bound with
  | nil => rfl
  | cons piece rest ih =>
    obtain ⟨own, others⟩ := Fragment.all_cons.mp alike
    rw [appendText, appendText, own bound, values, ih others]

private theorem append_congr {fragment : Fragment} (alike : fragment.All (SpellAlike first second))
    (compiled : Compiled) : first.append compiled fragment = second.append compiled fragment := by
  rw [append, append, appendText_congr values alike, argumentsOf, argumentsOf, values]

/-- Dialects that give a statement the same form and spell its names alike compile it alike. The
name of the dialect itself is only written by custom nodes. -/
theorem outcome_congr {statement : Statement}
    (formed : statement.render first.grammar = statement.render second.grammar)
    (spelled : ∀ name ∈ statement.names, first.spelling.name name = second.spelling.name name)
    (titled : first.name = second.name ∨
      ∀ parts, Site.extension (.custom parts) ∉ statement.sites 1) :
    first.outcome statement = second.outcome statement := by
  obtain ⟨ownNames, siteNames⟩ := List.forall_mem_append.mp spelled
  have sites (site : Site) (member : site ∈ statement.sites 1) :
      site.Fulfils (SpellAlike first second) := by
    refine ⟨fun name written _ => ?_, fun parts own _ => ?_⟩
    · exact siteNames name (List.mem_flatMap.mpr ⟨site, member, written⟩)
    · rcases titled with same | absent
      · exact same
      · exact absurd (own ▸ member) (absent parts)
  have alike := statement.render_all (spellAlike_form values) second.grammar
    (fun name written _ => ownNames name written) sites
  rw [outcome, outcome, compile, compile, formed]
  cases rendered : statement.render second.grammar with
  | error refusal =>
    rw [appendRendering_error, appendRendering_error]
    rfl
  | ok fragment =>
    have same := append_congr values (alike fragment rendered) ⟨"", []⟩
    rw [appendRendering_ok, appendRendering_ok, same]

end

/-- SQLite decides as standard SQL does but for unions without repeated rows and for bounds on the
rows that a statement changes. -/
private theorem sqlite_sameIn_generic {statement : Statement}
    (unions : ∀ rows, Site.query rows ∈ statement.sites 1 →
      ∀ union ∈ rows.unions, union.kind ≠ .distinct)
    (unlimited : ∀ rows, statement.picked? = some rows → rows.limits = []) :
    statement.SameIn sqlite.grammar generic.grammar where
  sites site member := by
    have operators : sqlite.grammar.operator? = generic.grammar.operator? := rfl
    refine Site.sameIn_of_query operators fun rows own => ⟨fun _ => rfl, fun union inUnions => ?_⟩
    cases kind : union.kind with
    | distinct => exact absurd kind (unions rows (own ▸ member) union inUnions)
    | all => rfl
  defaults _ _ _ := rfl
  limits rows picks kind modifier member := by
    cases modifier with
    | limit count offset =>
      have bound : Modifier.limit count offset ∈ rows.limits := List.mem_filter.mpr ⟨member, rfl⟩
      rw [unlimited rows picks] at bound
      cases bound
    | extension node => rfl

/-- MySQL decides as standard SQL does but for sort keys, insertions without values and offsets on
the rows that a statement changes. -/
private theorem mysqlAnsi_sameIn_generic {statement : Statement}
    (unordered : ∀ rows, Site.query rows ∈ statement.sites 1 → rows.order = [])
    (filled : ∀ insertion, statement = .insert insertion → insertion.assignments ≠ [])
    (unskipped : ∀ rows, statement.picked? = some rows → ∀ count offset,
      .limit count offset ∈ rows.modifiers → offset = 0) :
    statement.SameIn mysqlAnsi.grammar generic.grammar where
  sites site member := by
    have operators : mysqlAnsi.grammar.operator? = generic.grammar.operator? := rfl
    refine Site.sameIn_of_query operators fun rows own => ⟨fun some => ?_, fun union _ => rfl⟩
    exact absurd (unordered rows (own ▸ member)) some
  defaults insertion inserts none := absurd none (filled insertion inserts)
  limits rows picks kind modifier member := by
    cases modifier with
    | limit count offset =>
      rw [unskipped rows picks count offset member]
      rfl
    | extension node => rfl

/-- Both modes of MySQL refuse the same statements, and compile the others alike if no name in them
needs quotes. -/
private theorem mysql_compile_eq (statement : Statement) :
    (∀ error, mysql.compile statement = .error error ↔ mysqlAnsi.compile statement = .error error) ∧
      ((∀ name ∈ statement.names, ∀ id ∈ name.parts, mysql.spelling.isBare id = true) →
        mysql.compile statement = mysqlAnsi.compile statement) := by
  have values : mysql.spelling.values = mysqlAnsi.spelling.values := rfl
  have grammars : mysql.grammar = mysqlAnsi.grammar := rfl
  refine ⟨fun error => ?_, fun bare => ?_⟩
  · rw [compile, compile, grammars]
    cases statement.render mysqlAnsi.grammar with
    | error refusal =>
      rw [appendRendering_error, appendRendering_error]
      rfl
    | ok fragment => exact ⟨nofun, nofun⟩
  · have spelled (name : Name) (written : name ∈ statement.names) :
        mysql.spelling.name name = mysqlAnsi.spelling.name name := by
      have bareInBoth : ∀ id ∈ name.parts, mysqlAnsi.spelling.isBare id = true := bare name written
      rw [Spelling.name_eq_text (bare name written), Spelling.name_eq_text bareInBoth]
    rw [compile_eq_outcome, compile_eq_outcome,
      outcome_congr values (congrArg statement.render grammars) spelled (.inl rfl)]
    rfl

/-- A dialect changes only what it decides otherwise than another, in every statement without
custom nodes. SQLite compiles as standard SQL is compiled unless a query has a union without
repeated rows or the statement bounds the rows it changes. MySQL between double quotes does so
unless a query is sorted, a row has no values or the statement skips rows that it changes. The two
modes of MySQL refuse the same statements, and compile the others alike if no name that is written
needs quotes. -/
theorem outcome_overridden (statement : Statement)
    (vendor : ∀ parts, Site.extension (.custom parts) ∉ statement.sites 1) :
    ((∀ rows, Site.query rows ∈ statement.sites 1 → ∀ union ∈ rows.unions, union.kind ≠ .distinct) →
        (∀ rows, statement.picked? = some rows → rows.limits = []) →
        sqlite.outcome statement = generic.outcome statement) ∧
      ((∀ rows, Site.query rows ∈ statement.sites 1 → rows.order = []) →
        (∀ insertion, statement = .insert insertion → insertion.assignments ≠ []) →
        (∀ rows, statement.picked? = some rows → ∀ count offset,
          .limit count offset ∈ rows.modifiers → offset = 0) →
        mysqlAnsi.outcome statement = generic.outcome statement) ∧
      (∀ error, mysql.compile statement = .error error ↔ mysqlAnsi.compile statement = .error error) ∧
      ((∀ name ∈ statement.names, ∀ id ∈ name.parts, mysql.spelling.isBare id = true) →
        mysql.compile statement = mysqlAnsi.compile statement) := by
  refine ⟨fun unions unlimited => ?_, fun unordered filled unskipped => ?_,
    mysql_compile_eq statement⟩
  · have values : sqlite.spelling.values = generic.spelling.values := rfl
    have decided := sqlite_sameIn_generic unions unlimited
    exact outcome_congr values (Statement.render_congr decided) (fun _ _ => rfl) (.inr vendor)
  · have values : mysqlAnsi.spelling.values = generic.spelling.values := rfl
    have decided := mysqlAnsi_sameIn_generic unordered filled unskipped
    exact outcome_congr values (Statement.render_congr decided) (fun _ _ => rfl) (.inr vendor)

/-- The start of a month in the rows of a bounded sub-query, with the rows of another query. -/
def nestedStatement : Statement :=
  .query
    { selection := [.extension (.truncate (.named (.identifier "a")) .months 0)]
      source := some (.labelled
        (.subquery { source := some (.table (.identifier "t")), modifiers := [.limit 5 0] })
        (.identifier "t"))
      unions := [⟨.all, { source := some (.table (.identifier "t")) }⟩] }

/-- Nothing in the statement is decided differently. -/
theorem outcome_overridden_nestedStatement :
    generic.outcome nestedStatement =
        .ok
          { sql := "SELECT DATE_SUB(DATE(a), INTERVAL DAYOFMONTH(a) - ? DAY)" ++
              " FROM (SELECT * FROM t LIMIT ?) AS t UNION ALL SELECT * FROM t"
            arguments := [.int 1, .int 5] } ∧
      sqlite.outcome nestedStatement = generic.outcome nestedStatement ∧
      mysqlAnsi.outcome nestedStatement = generic.outcome nestedStatement ∧
      mysql.compile nestedStatement = mysqlAnsi.compile nestedStatement := by
  have sites : ∀ site ∈ nestedStatement.sites 1, (∀ parts, site ≠ .extension (.custom parts)) ∧
      ∀ rows, site = .query rows →
        rows.order = [] ∧ ∀ union ∈ rows.unions, union.kind ≠ .distinct := by
    simp [nestedStatement, Statement.sites, Query.sites, Expr.sitesOfAll, Expr.sites,
      Extension.sites, Element.sitesOfOption, Element.sites, Join.sitesOfAll, Order.sitesOfAll,
      Modifier.sitesOfAll, Union.sitesOfAll, Site.repeated, Site.truncationDates,
      Site.truncationConstant]
  have bare : ∀ name ∈ nestedStatement.names, ∀ id ∈ name.parts,
      mysql.spelling.isBare id = true := by
    decide +kernel
  obtain ⟨lite, ansi, -, modes⟩ :=
    outcome_overridden nestedStatement fun parts member => (sites _ member).1 parts rfl
  refine ⟨by decide +kernel, ?_, ?_, modes bare⟩
  · refine lite (fun rows member => ((sites _ member).2 rows rfl).2) fun rows picks => ?_
    cases picks
  · refine ansi (fun rows member => ((sites _ member).2 rows rfl).1) (fun insertion inserts => ?_)
      fun rows picks => ?_
    · cases inserts
    · cases picks

end Dialect

end SqlTree
