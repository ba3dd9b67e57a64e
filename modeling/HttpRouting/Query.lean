import Std.Data.ExtTreeMap
import HttpRouting.Text.PercentEncoding
/-!
# Parameters and query strings

Parameters are values by name. In a query they are written in the order of their names.
-/

namespace HttpRouting

/-- Values by name. -/
abbrev Params := Std.ExtTreeMap String String

namespace Params

/-- A name and its value as they stand in a query. -/
def queryPair (p : String × String) : String :=
  percentEncode reservedInQuery p.1 ++ "=" ++ percentEncode reservedInQuery p.2

/-- The query that holds all parameters. -/
def query (ps : Params) : String := "&".intercalate (ps.toList.map queryPair)

/-- An URL with the query that holds the given parameters, if there are any. -/
def appendTo (ps : Params) (url : String) : String :=
  if ps.isEmpty then url else url ++ "?" ++ ps.query

end Params

end HttpRouting
