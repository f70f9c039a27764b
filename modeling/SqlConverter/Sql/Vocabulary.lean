namespace SqlConverter.Sql

def queryWords : List String :=
  ["SELECT", "DISTINCT", "ALL", "TOP", "FROM", "WHERE", "GROUP", "BY", "HAVING", "ORDER", "ASC",
   "DESC", "LIMIT", "OFFSET", "UNION", "EXCEPT", "INTERSECT", "AS", "ON", "USING", "JOIN", "INNER",
   "LEFT", "RIGHT", "FULL", "OUTER", "CROSS", "NATURAL", "AND", "OR", "NOT", "IN", "IS", "NULL",
   "LIKE", "BETWEEN", "EXISTS", "CASE", "WHEN", "THEN", "ELSE", "END", "TRUE", "FALSE", "INSERT",
   "INTO", "VALUES", "UPDATE", "SET", "DELETE", "MERGE", "MATCHED", "WITH", "RECURSIVE", "REPLACE",
   "OVER", "PARTITION", "NULLS", "FETCH", "NEXT", "ONLY", "DEFAULT"]

def definitionWords : List String :=
  ["CREATE", "DROP", "ALTER", "TRUNCATE", "TABLE", "VIEW", "INDEX", "SCHEMA", "DATABASE",
   "FUNCTION", "PROCEDURE", "SEQUENCE", "TRIGGER", "TYPE", "NAMESPACE", "ROLE", "MATERIALIZED",
   "TEMPORARY", "UNIQUE", "PRIMARY", "KEY", "FOREIGN", "REFERENCES", "CHECK", "CONSTRAINT",
   "CASCADE", "RESTRICT", "IF", "ADD", "COLUMN", "RENAME", "TO", "RESTART", "ENUM", "RETURNS",
   "AFTER", "BEFORE", "FOR", "EACH", "ROW", "EXECUTE", "AUTO_INCREMENT", "START", "INCREMENT",
   "USE", "COMMIT", "ROLLBACK", "SHOW", "TABLES", "DATABASES", "DECLARE", "GRANT", "REVOKE", "CALL",
   "PROC", "TRANSACTION", "BEGIN"]

def typeWords : List String :=
  ["INT", "INTEGER", "BIGINT", "SMALLINT", "TINYINT", "MEDIUMINT", "VARCHAR", "CHAR", "NVARCHAR",
   "NCHAR", "TEXT", "DATE", "TIME", "DATETIME", "TIMESTAMP", "DECIMAL", "NUMERIC", "FLOAT",
   "DOUBLE", "REAL", "BOOLEAN", "BOOL", "BIT", "BLOB", "JSON", "BINARY", "VARBINARY", "YEAR"]

/-- Words that end an operand. -/
def valueWords : List String := ["NULL", "TRUE", "FALSE", "END"]

/-- Words behind which the name of a table stands. -/
def tableWords : List String := ["INTO", "TABLE", "REFERENCES", "VIEW", "UPDATE"]

/-- Statements in which an operand may be given another name. -/
def queryOpenings : List String :=
  ["SELECT", "WITH", "INSERT", "REPLACE", "UPDATE", "DELETE", "MERGE", "VALUES"]

def statementOpenings : List String :=
  queryOpenings ++
  ["CREATE", "DROP", "ALTER", "TRUNCATE", "USE", "COMMIT", "ROLLBACK", "BEGIN", "SHOW", "SET",
   "DECLARE", "GRANT", "REVOKE", "CALL", "EXEC", "EXECUTE", "EXPLAIN", "DESCRIBE", "IF", "WHILE",
   "RETURN", "PRINT", "ANALYZE", "COMMENT", "KILL", "LOAD", "COPY", "CASE", "NOT", "EXISTS", "CAST",
   "NULL", "TRUE", "FALSE"]

/-- Functions that the target knows under another name. -/
def renamedFunctions : List (String × String) :=
  [("GETDATE", "NOW"), ("LEN", "LENGTH"), ("NVL", "IFNULL")]

end SqlConverter.Sql
