import SqlTree.Expr

/-! # Functions

Expressions that call functions by name, and the nodes that have a syntax of their own: aggregates
of every database, and the date, text and number functions of MySQL.
-/

namespace SqlTree

namespace Expr

def min (operand : Expr) : Expr := .call "MIN" [operand]

def max (operand : Expr) : Expr := .call "MAX" [operand]

def sum (operand : Expr) : Expr := .call "SUM" [operand]

def average (operand : Expr) : Expr := .call "AVG" [operand]

end Expr

/-- A component of a date that a function of one argument gives. -/
inductive DatePart where
  | date | year | month | dayOfMonth | dayOfWeek | weekDay | dayOfYear
deriving DecidableEq, Repr, Inhabited

/-- The function that gives the component. Days of the week count from Sunday as 1, week days from
Monday as 0. -/
def DatePart.function : DatePart → String
  | date => "DATE"
  | year => "YEAR"
  | month => "MONTH"
  | dayOfMonth => "DAYOFMONTH"
  | dayOfWeek => "DAYOFWEEK"
  | weekDay => "WEEKDAY"
  | dayOfYear => "DAYOFYEAR"

namespace Expr

def datePart (part : DatePart) (date : Expr) : Expr :=
  .call part.function [date]

def storedZone : String := "UTC"

/-- A date of the zone `origin` in the zone `target`. -/
def convertZone (date : Expr) (target : String) (origin : String := storedZone) : Expr :=
  .call "convert_tz" [date, .literal (.text origin), .literal (.text target)]

def shiftDate (direction : DateShift) (date amount : Expr) (unit : TimeUnit) : Expr :=
  .extension (.shift direction date amount unit)

/-- The start of the unit that a date lies in; a number of units is added to it if the unit is
shorter than a day. -/
def truncateDate (date : Expr) (unit : TimeUnit) (offset : Int32 := 0) : Expr :=
  .extension (.truncate date unit offset)

/-- The texts joined; NULL if one of them is NULL. -/
def concat (parts : List Expr) : Expr := .call "CONCAT" parts

/-- A text or an integer in hexadecimal digits. -/
def hex (value : Value) : Expr := .call "HEX" [.literal value]

/-- The bytes that pairs of hexadecimal digits spell. -/
def unhex (digits : String) : Expr := .call "UNHEX" [.literal (.text digits)]

/-- A number with a fixed count of decimals and separators between the thousands. -/
def formatNumber (number : Expr) (decimals : Int32) : Expr :=
  .call "FORMAT" [number, .literal (.int decimals.toInt64)]

/-- The expression, or `fallback` where it is NULL. -/
def ifNull (expr fallback : Expr) : Expr := .call "IFNULL" [expr, fallback]

/-- A random number, the same for the same seed. -/
def random (seed : Option Int32) : Expr :=
  .call "RAND" (seed.toList.map fun seed => .literal (.int seed.toInt64))

end Expr

/-- The settings of an aggregate that joins the values of a group to one text. -/
structure GroupConcat where
  columns : List Expr
  distinct : Bool := false
  order : List Order := []
  separator : String := ","

namespace GroupConcat

inductive Step where
  | distinct
  | separator (text : String)
  | orderBy (expr : Expr) (descending : Bool)

def apply (settings : GroupConcat) : Step → GroupConcat
  | .distinct => { settings with distinct := true }
  | .separator text => { settings with separator := text }
  | .orderBy expr descending => { settings with order := settings.order ++ [⟨expr, descending⟩] }

def run (settings : GroupConcat) (steps : List Step) : GroupConcat :=
  steps.foldl apply settings

def toExpr (settings : GroupConcat) : Expr :=
  .extension (.groupConcat settings.distinct settings.columns settings.order settings.separator)

end GroupConcat

end SqlTree
