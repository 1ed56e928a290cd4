import SqlTree.Function
import SqlTree.Proofs.Account.Form
import SqlTree.Proofs.Text

/-! # The start of a unit

A truncation stands for an expression that computes the start of the unit from the day that the date
lies in (`Expr.start?`), and is written like it (`Expr.render_truncate`). The expression mentions
the date once for the day and once for every number that it takes from the date. Each mention is
written out, with all arguments of the date, so the text of a truncation is made of copies of the
text of the date, at every depth of truncations in truncations (`compile_truncation`).
-/

namespace SqlTree

namespace TimeUnit

/-- The units of the clock with their words, the longest first. -/
def clock : List (TimeUnit × String) :=
  [(.hours, "HOUR"), (.minutes, "MINUTE"), (.seconds, "SECOND")]

/-- The units of the clock from hours down to the unit. -/
def clockDownTo (unit : TimeUnit) : List (TimeUnit × String) :=
  clock.filter fun entry => unit.rank ≤ entry.1.rank

private theorem intervalUnit_of_mem_clock {entry : TimeUnit × String} (member : entry ∈ clock) :
    Form.intervalUnit entry.1 = .ok entry.2 := by
  simp only [clock, List.mem_cons, List.not_mem_nil, or_false] at member
  rcases member with rfl | rfl | rfl <;> rfl

end TimeUnit

namespace Expr

/-! ## Expressions for the start of a unit -/

/-- What a date shows of the units of the clock, each after a plus sign. The offset is added to the
number of `unit`. -/
def clockParts (date : Expr) (unit : TimeUnit) (offset : Int32)
    (entries : List (TimeUnit × String)) : List Part :=
  entries.flatMap fun entry =>
    [.text " + ",
      .expr (.extension (.extractedInterval date entry.1 (if entry.1 = unit then offset else 0)))]

/-- The day that a date lies in, with the clock set again to what the date shows down to the
unit. -/
def clockStart (date : Expr) (unit : TimeUnit) (offset : Int32) : Expr :=
  .extension (.custom
    (.text "(" :: .expr (date.datePart .date) ::
      (date.clockParts unit offset unit.clockDownTo ++ [.text ")"])))

/-- The day that a date lies in, moved back by the number of the day in its unit less 1. -/
def dayStart (date : Expr) (number : DatePart) : Expr :=
  (date.datePart .date).shiftDate .earlier
    (.binary .sub (date.datePart number) (.literal (.int 1))) .days

/-- The expression for the start of the unit that a date lies in, if the unit has one. Only units
shorter than a day have an offset. -/
def start? (date : Expr) (offset : Int32) : TimeUnit → Option Expr
  | .seconds => some (date.clockStart .seconds offset)
  | .minutes => some (date.clockStart .minutes offset)
  | .hours => some (date.clockStart .hours offset)
  | .days => some (date.datePart .date)
  | .weeks => some (date.dayStart .dayOfWeek)
  | .months => some (date.dayStart .dayOfMonth)
  | .years => some (date.dayStart .dayOfYear)
  | .nanos | .micros | .millis | .decades => none

variable {grammar : Grammar} {date : Expr}

private theorem render_datePart (part : DatePart) :
    (date.datePart part).render grammar .inner =
      (date.render grammar .inner).map fun fragment => Fragment.call part.function [fragment] := by
  rw [datePart, Expr.render, Expr.renderAll]
  cases date.render grammar .inner with
  | error refusal => rfl
  | ok fragment => rfl

/-- Each unit of the clock is written with a copy of the date. -/
private theorem renderAll_clockParts (unit : TimeUnit) (offset : Int32) {fragment : Fragment}
    (rendered : date.render grammar .inner = .ok fragment) {entries : List (TimeUnit × String)}
    (known : entries ⊆ TimeUnit.clock) :
    Part.renderAll grammar (date.clockParts unit offset entries ++ [.text ")"]) =
      .ok ((entries.flatMap fun entry =>
        .text " + " :: Form.extracted entry.2 (if entry.1 = unit then offset else 0) fragment) ++
          [.text ")"]) := by
  induction entries with
  | nil => rfl
  | cons entry rest ih =>
    obtain ⟨own, others⟩ := List.cons_subset.mp known
    have word := TimeUnit.intervalUnit_of_mem_clock own
    have split : date.clockParts unit offset (entry :: rest) ++ [.text ")"] =
        .text " + " ::
          .expr (.extension
            (.extractedInterval date entry.1 (if entry.1 = unit then offset else 0))) ::
          (date.clockParts unit offset rest ++ [.text ")"]) := rfl
    rw [split, Part.renderAll, Part.renderAll, ih others, Expr.render, Extension.render, rendered,
      Form.extractedInterval, word, List.flatMap_cons, List.cons_append, List.cons_append,
      List.append_assoc]
    rfl

private theorem render_clockStart (unit : TimeUnit) (offset : Int32) :
    (date.clockStart unit offset).render grammar .inner =
      (date.render grammar .inner).map fun fragment =>
        Fragment.parenthesised (Fragment.separated " + "
          (Fragment.call "DATE" [fragment] :: unit.clockDownTo.map fun entry =>
            Form.extracted entry.2 (if entry.1 = unit then offset else 0) fragment)) := by
  rw [clockStart, Expr.render, Extension.render, Part.renderAll, Part.renderAll, render_datePart]
  cases rendered : date.render grammar .inner with
  | error refusal => rfl
  | ok fragment =>
    have known : unit.clockDownTo ⊆ TimeUnit.clock := List.filter_subset_self _
    rw [renderAll_clockParts unit offset rendered known]
    simp only [Except.map, Fragment.parenthesised, Fragment.separated_cons, List.flatMap_map,
      List.cons_append, List.append_assoc]
    rfl

private theorem render_dayStart (number : DatePart) :
    (date.dayStart number).render grammar .inner =
      date.render grammar .inner >>= Form.dayTruncation grammar number.function := by
  have bare : (date.datePart number).needsGrouping .sub .left = false := rfl
  have one : (Expr.literal (.int 1)).needsGrouping .sub .right = false := rfl
  rw [dayStart, shiftDate, Expr.render, Extension.render, Expr.render, render_datePart,
    render_datePart]
  cases date.render grammar .inner with
  | error refusal => rfl
  | ok fragment =>
    change Form.shift .earlier (.ok _) (Form.interval .days (Form.binary grammar .sub _ _ _ _)) =
      Form.dayTruncation grammar number.function fragment
    rw [Form.dayTruncation, Form.binary, bare, one]
    cases Form.operator grammar .sub with
    | error refusal => rfl
    | ok minus =>
      have regrouped (before : Fragment) (sign value : Piece) :
          before ++ [sign] ++ [value] = before ++ [sign, value] := by simp
      change Form.shift .earlier (.ok _) (Form.interval .days (.ok (_ ++ [_] ++ [_]))) = _
      rw [regrouped]
      rfl

/-- A truncation is written like the expression that computes the start of the unit. -/
theorem render_truncate {start : Expr} {unit : TimeUnit} {offset : Int32}
    (given : date.start? offset unit = some start) :
    (Extension.truncate date unit offset).render grammar = start.render grammar .inner := by
  rw [Extension.render]
  cases unit with
  | seconds | minutes | hours =>
    cases given
    rw [render_clockStart]
    cases date.render grammar .inner <;> rfl
  | days =>
    cases given
    rw [render_datePart]
    rfl
  | weeks | months | years =>
    cases given
    rw [render_dayStart]
    rfl
  | nanos | micros | millis | decades => cases given

end Expr

/-! ## Copies of a text -/

namespace Compiled

/-- The text of a date in the places of the day and of the units of the clock from hours down to
the unit, the last of which may have an offset. -/
def clockStart (date : Compiled) (unit : TimeUnit) (offset : Int32) : Compiled :=
  { sql :=
      "(" ++ " + ".intercalate
        (("DATE(" ++ date.sql ++ ")") :: unit.clockDownTo.map fun entry =>
          "INTERVAL EXTRACT(" ++ entry.2 ++ " FROM " ++ date.sql ++ ")" ++
            (if entry.1 = unit ∧ offset ≠ 0 then " + ?" else "") ++ " " ++ entry.2) ++ ")"
    arguments :=
      (List.replicate (1 + unit.clockDownTo.length) date.arguments).flatten ++
        if offset = 0 then [] else [.int offset.toInt64] }

/-- The text of a date in the places of the day and of the days that are counted back. -/
def dayStart (date : Compiled) (number : String) : Compiled :=
  { sql :=
      "DATE_SUB(DATE(" ++ date.sql ++ "), INTERVAL " ++ number ++ "(" ++ date.sql ++ ") - ? DAY)"
    arguments := date.arguments ++ date.arguments ++ [.int 1] }

end Compiled

namespace Dialect

variable {dialect : Dialect}

/-- The start of the unit that a date lies in, from copies of the text and the arguments of the
date. A unit without one is refused whatever the date. -/
def startOf (dialect : Dialect) (unit : TimeUnit) (offset : Int32)
    (date : Except CompileError Compiled) : Except CompileError Compiled :=
  match unit with
  | .seconds | .minutes | .hours => date.map fun date => date.clockStart unit offset
  | .days => date.map fun date => ⟨"DATE(" ++ date.sql ++ ")", date.arguments⟩
  | .weeks => date.map fun date => date.dayStart "DAYOFWEEK"
  | .months => date.map fun date => date.dayStart "DAYOFMONTH"
  | .years => date.map fun date => date.dayStart "DAYOFYEAR"
  | .nanos | .micros | .millis | .decades => .error ⟨dialect.name, .timeUnit unit .truncation⟩

/-- An expression that is written with copies of another. -/
theorem compileExpr_eq_map {expr date : Expr} {form : Fragment → Fragment}
    {copied : Compiled → Compiled}
    (rendered : expr.render dialect.grammar .inner =
      (date.render dialect.grammar .inner).map form)
    (written : ∀ fragment,
      (⟨dialect.text (form fragment), dialect.argumentsOf (form fragment)⟩ : Compiled) =
        copied ⟨dialect.text fragment, dialect.argumentsOf fragment⟩) :
    dialect.compileExpr expr = (dialect.compileExpr date).map copied := by
  rw [compileExpr, compileExpr, appendRendering_empty, appendRendering_empty, rendered]
  cases date.render dialect.grammar .inner with
  | error refusal => rfl
  | ok fragment => exact congrArg Except.ok (written fragment)

private theorem Conventional.text_extracted (conventional : dialect.Conventional) (word : String)
    (offset : Int32) (date : Fragment) :
    dialect.text (Form.extracted word offset date) =
      "INTERVAL EXTRACT(" ++ word ++ " FROM " ++ dialect.text date ++ ")" ++
        (if offset = 0 then "" else " + ?") ++ " " ++ word := by
  have marked := conventional.values
  have added : dialect.text
      (if offset = 0 then [] else [.text " + ", .value (.int offset.toInt64)]) =
        if offset = 0 then "" else " + ?" := by
    split
    · rfl
    · rw [text_cons marked, text_singleton, pieceText_value marked]
      rfl
  rw [Form.extracted, text_append marked, List.cons_append, text_cons marked, text_append marked,
    text_cons marked, added, text_singleton]
  simp only [pieceText, String.append_assoc]

private theorem compileExpr_datePart (conventional : dialect.Conventional) (date : Expr) (part : DatePart) :
    dialect.compileExpr (date.datePart part) =
      (dialect.compileExpr date).map fun date =>
        ⟨part.function ++ "(" ++ date.sql ++ ")", date.arguments⟩ := by
  refine compileExpr_eq_map (Expr.render_datePart part) fun fragment => ?_
  rw [text_call conventional.values, argumentsOf_call]
  simp

private theorem compileExpr_clockStart (conventional : dialect.Conventional) (date : Expr) {unit : TimeUnit}
    (short : unit ∈ [TimeUnit.hours, .minutes, .seconds]) (offset : Int32) :
    dialect.compileExpr (date.clockStart unit offset) =
      (dialect.compileExpr date).map fun date => date.clockStart unit offset := by
  have marked := conventional.values
  refine compileExpr_eq_map (Expr.render_clockStart unit offset) fun fragment => ?_
  have text (entry : TimeUnit × String) :
      dialect.text (Form.extracted entry.2 (if entry.1 = unit then offset else 0) fragment) =
        "INTERVAL EXTRACT(" ++ entry.2 ++ " FROM " ++ dialect.text fragment ++ ")" ++
          (if entry.1 = unit ∧ offset ≠ 0 then " + ?" else "") ++ " " ++ entry.2 := by
    rw [conventional.text_extracted]
    by_cases own : entry.1 = unit <;> by_cases none : offset = 0 <;> simp [own, none]
  have added : (if offset = 0 then [] else [Site.setting (.int offset.toInt64)]).flatMap
      Site.arguments = if offset = 0 then [] else [.int offset.toInt64] := by
    split <;> rfl
  have arguments : (unit.clockDownTo.flatMap fun entry => dialect.argumentsOf
      (Form.extracted entry.2 (if entry.1 = unit then offset else 0) fragment)) =
        (List.replicate unit.clockDownTo.length (dialect.argumentsOf fragment)).flatten ++
          if offset = 0 then [] else [.int offset.toInt64] := by
    simp only [Form.argumentsOf_extracted conventional]
    simp only [List.mem_cons, List.not_mem_nil, or_false] at short
    rcases short with rfl | rfl | rfl <;>
      simp [TimeUnit.clockDownTo, TimeUnit.clock, TimeUnit.rank, List.replicate_succ, added]
  rw [text_parenthesised marked, text_separated marked, List.map_cons, List.map_map,
    text_call marked, argumentsOf_parenthesised, argumentsOf_separated, List.flatMap_cons,
    List.flatMap_map, arguments, argumentsOf_call, Compiled.clockStart]
  simp only [Function.comp_def, text, Nat.add_comm 1, List.replicate_succ]
  simp

/-- A number of days in which `number` is counted from 1. -/
def dayInterval (number : String) (date : Fragment) : Fragment :=
  .text "INTERVAL " :: (Fragment.call number [date] ++ [.text " - ", .value (.int 1)]) ++
    [.text " DAY"]

private theorem text_dayInterval (conventional : dialect.Conventional) (number : String) (date : Fragment) :
    dialect.text (dayInterval number date) =
      "INTERVAL " ++ number ++ "(" ++ dialect.text date ++ ") - ? DAY" := by
  have marked := conventional.values
  have closing : ") - ? DAY" = ")" ++ " - " ++ "?" ++ " DAY" := by decide +kernel
  rw [dayInterval, text_append marked, text_cons marked, text_append marked, text_cons marked,
    text_call marked, text_singleton, text_singleton, pieceText_value marked, closing]
  simp only [pieceText, List.map_cons, List.map_nil, String.intercalate_singleton,
    String.append_assoc]
  rfl

private theorem text_dayStart (conventional : dialect.Conventional) (number : String) (date : Fragment) :
    dialect.text (Fragment.call "DATE_SUB" [Fragment.call "DATE" [date], dayInterval number date]) =
      "DATE_SUB(DATE(" ++ dialect.text date ++ "), INTERVAL " ++ number ++ "(" ++
        dialect.text date ++ ") - ? DAY)" := by
  have marked := conventional.values
  have opening : "DATE_SUB(DATE(" = "DATE_SUB" ++ "(" ++ "DATE" ++ "(" := by decide +kernel
  have comma : "), INTERVAL " = ")" ++ ", " ++ "INTERVAL " := by decide +kernel
  have closing : ") - ? DAY)" = ") - ? DAY" ++ ")" := by decide +kernel
  rw [text_call marked, List.map_cons, List.map_cons, List.map_nil, text_dayInterval conventional,
    text_call marked, opening, comma, closing]
  simp only [List.map_cons, List.map_nil, String.intercalate_cons_cons,
    String.intercalate_singleton, String.append_assoc]

private theorem compileExpr_dayStart (known : dialect ∈ builtIn) (date : Expr) (number : DatePart) :
    dialect.compileExpr (date.dayStart number) =
      (dialect.compileExpr date).map fun date => date.dayStart number.function := by
  have conventional := conventional_of_builtIn known
  have marked := conventional.values
  have minus : Form.operator dialect.grammar .sub = .ok "-" := by
    rw [Form.operator, operator?_of_builtIn known]
    rfl
  have rendered : (date.dayStart number).render dialect.grammar Position.inner =
      (date.render dialect.grammar .inner).map fun fragment =>
        Fragment.call "DATE_SUB"
          [Fragment.call "DATE" [fragment], dayInterval number.function fragment] := by
    rw [Expr.render_dayStart]
    cases date.render dialect.grammar .inner with
    | error refusal => rfl
    | ok fragment =>
      change Form.dayTruncation dialect.grammar number.function fragment = _
      have spaced : " " ++ "-" ++ " " = " - " := by decide +kernel
      rw [Form.dayTruncation, minus]
      change Form.shift .earlier (.ok (Fragment.call "DATE" [fragment])) (Form.interval .days
        (.ok (Fragment.call number.function [fragment] ++
          [.text (" " ++ "-" ++ " "), .value (.int 1)]))) = _
      rw [spaced]
      rfl
  refine compileExpr_eq_map rendered fun fragment => ?_
  have arguments : dialect.argumentsOf (Fragment.call "DATE_SUB"
      [Fragment.call "DATE" [fragment], dayInterval number.function fragment]) =
        dialect.argumentsOf fragment ++ dialect.argumentsOf fragment ++ [.int 1] := by
    simp [dayInterval, conventional.argumentsOf_value_cons, Site.arguments, Value.isNull]
  exact congrArg₂ Compiled.mk (text_dayStart conventional number.function fragment) arguments

/-- A truncation is compiled like the expression for the start of the unit. -/
private theorem compileExpr_of_start? {date start : Expr} {unit : TimeUnit} {offset : Int32}
    (given : date.start? offset unit = some start) :
    dialect.compileExpr (date.truncateDate unit offset) = dialect.compileExpr start := by
  rw [compileExpr, compileExpr, Expr.truncateDate, Expr.render, Expr.render_truncate given]

theorem compileExpr_truncateDate (known : dialect ∈ builtIn) (date : Expr) (unit : TimeUnit)
    (offset : Int32) :
    dialect.compileExpr (date.truncateDate unit offset) =
      dialect.startOf unit offset (dialect.compileExpr date) := by
  have conventional := conventional_of_builtIn known
  cases unit with
  | seconds | minutes | hours =>
    rw [compileExpr_of_start? rfl, compileExpr_clockStart conventional date (by decide)]
    rfl
  | days =>
    rw [compileExpr_of_start? rfl, compileExpr_datePart conventional]
    rfl
  | weeks | months | years =>
    rw [compileExpr_of_start? rfl, compileExpr_dayStart known]
    rfl
  | nanos | micros | millis | decades => rfl

/-- A truncation is made of copies of the text and the arguments of the date, is refused as the date
is, and is refused for its unit first. Truncations of truncations are made of copies of copies. -/
theorem compile_truncation (known : dialect ∈ builtIn) (date : Expr) :
    (∀ unit offset, dialect.compileExpr (date.truncateDate unit offset) =
      dialect.startOf unit offset (dialect.compileExpr date)) ∧
      ∀ levels : List (TimeUnit × Int32),
        dialect.compileExpr
            (levels.foldr (fun level inner => inner.truncateDate level.1 level.2) date) =
          levels.foldr (fun level inner => dialect.startOf level.1 level.2 inner)
            (dialect.compileExpr date) := by
  refine ⟨compileExpr_truncateDate known date, fun levels => ?_⟩
  induction levels with
  | nil => rfl
  | cons level rest ih =>
    rw [List.foldr_cons, List.foldr_cons, compileExpr_truncateDate known, ih]

/-- The start of a month in another time zone, and two hours after the hour of it. -/
theorem compile_truncation_zonedMonth :
    let month := [(TimeUnit.hours, 2), (TimeUnit.months, 0)].foldr
      (fun level inner => inner.truncateDate level.1 level.2)
      ((Expr.named (.identifier "d")).convertZone "CET")
    mysql.compileExpr month =
      .ok
        { sql :=
            "(DATE(DATE_SUB(DATE(convert_tz(d, ?, ?)), INTERVAL DAYOFMONTH(convert_tz(d, ?, ?))" ++
              " - ? DAY)) + INTERVAL EXTRACT(HOUR FROM DATE_SUB(DATE(convert_tz(d, ?, ?)), " ++
              "INTERVAL DAYOFMONTH(convert_tz(d, ?, ?)) - ? DAY)) + ? HOUR)"
          arguments :=
            [.text "UTC", .text "CET", .text "UTC", .text "CET", .int 1, .text "UTC", .text "CET",
              .text "UTC", .text "CET", .int 1, .int 2] } := by
  intro month
  have date : mysql.compileExpr ((Expr.named (.identifier "d")).convertZone "CET") =
      .ok ⟨"convert_tz(d, ?, ?)", [.text "UTC", .text "CET"]⟩ := by
    decide +kernel
  obtain ⟨-, nested⟩ := compile_truncation (by simp [builtIn] : mysql ∈ builtIn)
    ((Expr.named (.identifier "d")).convertZone "CET")
  rw [nested [(.hours, 2), (.months, 0)], date]
  decide +kernel

end Dialect

end SqlTree
