import ParamSql.Failure
import ParamSql.Table
import ParamSql.Value

/-!
# Events

What an operation does besides changing the builder: it writes records to the log, and it calls the
owner of the transaction.
-/

namespace ParamSql

structure LogRecord where
  logger : String
  level : Int
  message : String
  /-- Further facts about the event, for a record that has any place for them. -/
  fields : Option (Table Value)

inductive Event where
  | log (record : LogRecord)
  | call (transaction : TransactionCall)

end ParamSql
