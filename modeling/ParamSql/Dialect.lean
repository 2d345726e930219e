import ParamSql.Failure
import ParamSql.Text.Blank
import ParamSql.Text.Search
import ParamSql.Value

/-!
# Dialects

How one database writes identifiers, parameters, limits and the constant true. Three databases are
known by name; any other one is described by a value of `Dialect`. An identifier is quoted by
doubling the quotes it holds.
-/

namespace ParamSql

inductive MarkerStyle where
  | namedColon
  | numeric
  | questionMark
  deriving DecidableEq, Repr

def MarkerStyle.name : MarkerStyle → String
  | namedColon => "named_colon"
  | numeric => "numeric"
  | questionMark => "qmark"

inductive LimitStyle where
  | limitOffset
  | fetchFirst
  deriving DecidableEq, Repr

def LimitStyle.name : LimitStyle → String
  | limitOffset => "limit_offset"
  | fetchFirst => "fetch_first"

structure Dialect where
  name : String
  identifierQuote : String := "\""
  supportsNamedParameters : Bool := true
  /-- The markers written for a driver that does not. -/
  positionalStyle : MarkerStyle := .numeric
  limitStyle : LimitStyle := .limitOffset
  trueLiteral : String := "1"
  /-- The name by which a parser of SQL knows the dialect. -/
  parserName : Option String := none
  deriving DecidableEq, Repr

namespace Dialect

def markerStyle (d : Dialect) : MarkerStyle :=
  if d.supportsNamedParameters then .namedColon else d.positionalStyle

def quoteChars (d : Dialect) (identifier : List Char) : List Char :=
  let quote := d.identifierQuote.toList
  quote ++ Text.replaceAll quote (quote ++ quote) identifier ++ quote

def quote (d : Dialect) (identifier : String) : String :=
  String.ofList (d.quoteChars identifier.toList)

end Dialect

inductive Database where
  | mySql
  | postgreSql
  | sqlite
  deriving DecidableEq, Repr

namespace Database

def name : Database → String
  | mySql => "mysql"
  | postgreSql => "postgresql"
  | sqlite => "sqlite"

/-- Every name a database goes by, in small letters. -/
def aliases : List (String × Database) :=
  [("mysql", mySql), ("mariadb", mySql), ("postgresql", postgreSql), ("postgres", postgreSql),
    ("pg", postgreSql), ("sqlite", sqlite), ("sqlite3", sqlite)]

def dialect : Database → Dialect
  | mySql =>
    { name := "MySQL", identifierQuote := "\x60", supportsNamedParameters := false,
      positionalStyle := .questionMark, parserName := some "mysql" }
  | postgreSql =>
    { name := "PostgreSQL", supportsNamedParameters := false, positionalStyle := .numeric,
      trueLiteral := "true", parserName := some "postgres" }
  | sqlite => { name := "SQLite3", parserName := some "sqlite" }

/-- The database of that name, in any case and with blanks around it. No letter outside English has
a small form that occurs in a name. -/
def ofName? (name : String) : Option Database :=
  aliases.lookup (Text.strip (String.ofList (name.toList.map Char.toLower)))

def names : List String := (aliases.map Prod.fst).mergeSort

end Database

/-- What the user of the library gives to say which dialect is meant. -/
inductive DialectChoice where
  | none
  | database (db : Database)
  | custom (dialect : Dialect)
  /-- Any other value, read as the name of a database. -/
  | named (value : Value)

namespace DialectChoice

def resolve : DialectChoice → Except Failure Dialect
  | none => .error .noDialect
  | database db => .ok db.dialect
  | custom dialect => .ok dialect
  | named value =>
    match Database.ofName? value.display with
    | some db => .ok db.dialect
    | Option.none => .error (.unknownDialect value.literal Database.names)

end DialectChoice
end ParamSql
