import ParamSql.Failure

/-!
# Pages

Which page of a result is wanted, and whether the number of all rows is wanted with it. A pager may
fail to tell.
-/

namespace ParamSql

structure Pager where
  wantsTotal : Except Failure Bool
  /-- How many rows a page has at most; zero for no limit. -/
  pageSize : Except Failure Int
  offset : Except Failure Int

end ParamSql
