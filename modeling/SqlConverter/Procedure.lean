import SqlConverter.StatementResult
import SqlConverter.Prompt

namespace SqlConverter.Procedure

/-- Lines that open or close a block of code in a reply start with this. -/
def fence : List Char := ['`', '`', '`']

def isStatementLine (line : List Char) : Bool := !line.isEmpty && !fence.isPrefixOf line

/-- The statements in a reply: its lines, trimmed, without those that are empty or a fence. -/
def statementLines (reply : String) : List String :=
  (((Text.rows reply.toList).map Text.trim).filter isStatementLine).map String.ofList

def decompose (procedure : String) : Request (List String) := do
  match ← (Dialogue.complete (Prompt.extractionMessages procedure) : Dialogue Chat.Reply) with
  | .ok reply => pure (statementLines reply)
  | .error e => throw (.extraction e)

def reassemble (procedure converted : String) : Request String := do
  match ← (Dialogue.complete (Prompt.reassemblyMessages procedure converted) :
    Dialogue Chat.Reply) with
  | .ok reply => pure (Text.trimmed reply)
  | .error e => throw (.reassembly e)

def frameOpening : String := "DELIMITER //\n"

def frameClosing : String := "\n//\nDELIMITER ;"

/-- Statements as one command for a client that ends commands at a delimiter of choice. -/
def frame (converted : String) : String :=
  frameOpening ++ Text.trimmed converted ++ frameClosing

end SqlConverter.Procedure
