import SqlConverter.Text.Words

namespace SqlConverter.Dialect

def target : String := "singlestore"

/-- The dialect that is read when none is named. -/
def defaultSource : String := "tsql"

/-- Every name with a meaning of its own, in alphabetical order. -/
def known : List String :=
  ["athena", "bigquery", "clickhouse", "cockroachdb", "databricks", "datafusion", "doris",
   "dremio", "drill", "druid", "duckdb", "dune", "exasol", "fabric", "generic", "hive",
   "materialize", "mysql", "oracle", "postgres", "presto", "redshift", "risingwave",
   "singlestore", "snowflake", "solr", "spark", "sqlite", "starrocks", "tableau", "teradata",
   "tidb", "trino", "tsql"]

def sources : List String := known.filter (· != target)

/-- Short forms, each with the name it stands for. -/
def aliases : List (String × String) :=
  [("postgresql", "postgres"), ("pg", "postgres"),
   ("mssql", "tsql"), ("sqlserver", "tsql"), ("sql_server", "tsql"),
   ("memsql", "singlestore"), ("s2", "singlestore"),
   ("bq", "bigquery")]

/-- The name under which a spelling is looked up. -/
def folded (name : String) : String :=
  .ofList (Text.lower (Text.trim name.toList))

def unalias (name : String) : String := (aliases.lookup name).getD name

/-- The known name that a spelling stands for. -/
def resolve (name : String) : Option String :=
  known.find? (· == unalias (folded name))

def isTarget (name : String) : Bool := resolve name == some target

end SqlConverter.Dialect
