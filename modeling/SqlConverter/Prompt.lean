import SqlConverter.Unit
import SqlConverter.Chat.Message

namespace SqlConverter.Prompt

open Chat (Message)

def extractionSystem : String := "You extract SQL statements."

def conversionSystem : String := "You translate SQL between dialects."

/-- The changes a procedure needs, in the order in which they are to be applied. -/
def rules : List String :=
  ["Rewrite the header as CREATE OR REPLACE PROCEDURE, keeping any RETURNS clause " ++
    "and adding the appropriate AUTHORIZE AS DEFINER or AUTHORIZE AS CURRENT_USER clause.",
   "Declare every local variable with DECLARE and an explicit default value; remove " ++
    "modifiers that SingleStore does not support on query-type parameters.",
   "Replace multi-row returns with ECHO SELECT to emit a rowset, or use " ++
    "RETURNS QUERY(...) where appropriate.",
   "Wrap the procedure between DELIMITER // and DELIMITER ; so that semicolons " ++
    "inside the body are not treated as statement ends by MySQL clients.",
   "Remove or refactor DDL statements that SingleStore does not allow inside " ++
    "procedures invoked from pipelines.",
   "Remove or rewrite any other unsupported statements (for example EXPLAIN BALANCE " ++
    "or DDL inside a pipeline) to SingleStore equivalents.",
   "Keep nested DECLARE blocks, %ROWTYPE and %TYPE usages, and translate loops and " ++
    "other control flow into SingleStore procedural extensions."]

/-- Each line with its number before it and a line feed after it. -/
def numbered (first : Nat) : List String → String
  | [] => ""
  | line :: rest => toString first ++ ". " ++ line ++ "\n" ++ numbered (first + 1) rest

/-- Asks for the statements of a procedure, one to a line. -/
def extraction (procedure : String) : String :=
  "List each data manipulation statement (SELECT, INSERT, UPDATE, DELETE, MERGE) " ++
  "in the following stored procedure. Return exactly one statement per line, in " ++
  "the order they appear, and do not include any additional text.\n\n" ++
  "STORED_PROCEDURE:\n" ++ procedure ++ "\n\nSTATEMENTS:"

/-- All of a reassembly request that stands before the procedure. -/
def reassemblyOpening : String :=
  "You are an expert in SingleStore Helios stored-procedure syntax and semantics. " ++
  "Take INPUT_PROCEDURE, find every construct SingleStore does not support, and " ++
  "emit a fully valid SingleStore stored procedure as OUTPUT_PROCEDURE.\n\n" ++
  "Apply these changes in order:\n" ++
  numbered 1 rules ++
  "\nOutput only the converted procedure code, with the DELIMITER commands, " ++
  "inside SQL fences.\n\n" ++
  "INPUT_PROCEDURE:\n"

/-- Asks for a whole procedure built around the converted statements. -/
def reassembly (procedure converted : String) : String :=
  reassemblyOpening ++ procedure ++ "\n\nOUTPUT_PROCEDURE:\n" ++
  "\nUse these SingleStore statements for the procedure body, unchanged and in this order:\n" ++
  converted ++ "\n"

/-- Asks for a second look at a transpiled statement. -/
def validation (c : HandlingClass) (sql : String) : String :=
  "Double check that the following " ++ c.label ++ " is valid SingleStore SQL:\n" ++ sql

def extractionMessages (procedure : String) : List Message :=
  [⟨.system, extractionSystem⟩, ⟨.user, extraction procedure⟩]

def reassemblyMessages (procedure converted : String) : List Message :=
  [⟨.system, conversionSystem⟩, ⟨.user, reassembly procedure converted⟩]

def validationMessages (c : HandlingClass) (sql : String) : List Message :=
  [⟨.system, conversionSystem⟩, ⟨.user, validation c sql⟩]

end SqlConverter.Prompt
