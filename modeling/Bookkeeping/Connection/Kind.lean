import Bookkeeping.Failure

/-!
# Kinds of databases

The first part of an address names a kind of database and, behind a plus sign,
the driver that speaks to it; without a driver the usual one of the kind is
meant.  Of all drivers that are known only two are at hand.
-/

namespace Bookkeeping

/-- A driver that is known, and what has to be installed for it. -/
structure Driver where
  dialect : String
  /-- The name of the driver behind the plus sign. -/
  name : String
  /-- Whether the driver is meant where none is named. -/
  isUsual : Bool
  /-- What is missing for the driver, if it is not at hand. -/
  missing : Option String

namespace Driver

/-- A driver that is not at hand. -/
def absent (dialect name missing : String) (isUsual : Bool) : Driver where
  dialect := dialect
  name := name
  isUsual := isUsual
  missing := some missing

/-- The driver for a database in a file. -/
def file : Driver := ⟨"sqlite", "pysqlite", true, none⟩

/-- The driver for a database on a server. -/
def server : Driver := ⟨"postgresql", "psycopg2", false, none⟩

/-- The drivers that two dialects share. -/
def shared (dialect : String) : List Driver :=
  [absent dialect "mysqldb" "MySQLdb" true, absent dialect "pymysql" "pymysql" false,
    absent dialect "mysqlconnector" "mysql" false, absent dialect "aiomysql" "aiomysql" false,
    absent dialect "asyncmy" "asyncmy" false, absent dialect "cymysql" "cymysql" false,
    absent dialect "pyodbc" "pyodbc" false,
    absent dialect "mariadbconnector" "mariadb" false]

def all : List Driver :=
  [file, absent "sqlite" "aiosqlite" "aiosqlite" false,
    absent "sqlite" "pysqlcipher" "pysqlcipher3" false, server,
    absent "postgresql" "psycopg" "psycopg" true,
    absent "postgresql" "psycopg_async" "psycopg" false,
    absent "postgresql" "asyncpg" "asyncpg" false, absent "postgresql" "pg8000" "pg8000" false,
    absent "postgresql" "psycopg2cffi" "psycopg2cffi" false] ++
  shared "mysql" ++ shared "mariadb" ++
  [absent "oracle" "oracledb" "oracledb" true, absent "oracle" "oracledb_async" "oracledb" false,
    absent "oracle" "cx_oracle" "cx_Oracle" false, absent "mssql" "pyodbc" "pyodbc" true,
    absent "mssql" "pymssql" "pymssql" false, absent "mssql" "aioodbc" "aioodbc" false]

/-- Whether the first part of an address means a driver. -/
def isMeantBy (driver : Driver) (kind : String) : Bool :=
  kind == driver.dialect ++ "+" ++ driver.name || (driver.isUsual && kind == driver.dialect)

/-- The report on a kind of database that is not known. -/
def unknownKind (kind : String) : Report :=
  Failure.plainReport "NoSuchModuleError"
    ("Can't load plugin: sqlalchemy.dialects:" ++
      String.ofList (kind.toList.map fun character => if character = '+' then '.' else character))

def notAtHand (missing : String) : Report :=
  Failure.plainReport "ModuleNotFoundError" ("No module named '" ++ missing ++ "'")

/-- The driver that the first part of an address means. -/
def ofKind (kind : String) : Except Report Driver :=
  if 1 < (kind.toList.filter (· == '+')).length then
    .error (Failure.plainReport "ValueError" "too many values to unpack (expected 2)")
  else
    match all.find? (isMeantBy · kind) with
    | none => .error (unknownKind kind)
    | some driver =>
      match driver.missing with
      | some missing => .error (notAtHand missing)
      | none => .ok driver

end Driver

end Bookkeeping
