/-!
# States of a finished statement

The codes of five digits by which a database tells how a statement ended.
-/

namespace ParamSql

inductive SqlState where
  | success
  /-- No row matched. -/
  | noData
  | tableDoesNotExist
  deriving DecidableEq, Repr

def SqlState.code : SqlState → String
  | success => "00000"
  | noData => "02000"
  | tableDoesNotExist => "42S02"

end ParamSql
