import SqlConverter.Web.Host

namespace SqlConverter.Web

open Text (Bytes)

inductive Charset
  | utf8
  | windows1252
  deriving DecidableEq, Repr

/-- The names under which the western charset is announced. -/
def westernLabels : List String :=
  ["ansi_x3.4-1968", "ascii", "cp1252", "cp819", "csisolatin1", "ibm819", "iso-8859-1",
   "iso-ir-100", "iso8859-1", "iso88591", "iso_8859-1", "iso_8859-1:1987", "l1", "latin1",
   "us-ascii", "windows-1252", "x-cp1252"]

/-- The characters of bytes 80 to 9F; a byte without one stands for the control of its number. -/
def westernControls : List Char :=
  ['\u20ac', '\u0081', '\u201a', '\u0192', '\u201e', '\u2026', '\u2020', '\u2021',
   '\u02c6', '\u2030', '\u0160', '\u2039', '\u0152', '\u008d', '\u017d', '\u008f',
   '\u0090', '\u2018', '\u2019', '\u201c', '\u201d', '\u2022', '\u2013', '\u2014',
   '\u02dc', '\u2122', '\u0161', '\u203a', '\u0153', '\u009d', '\u017e', '\u0178']

def westernChar (b : UInt8) : Char :=
  if 0x80 ≤ b.toNat ∧ b.toNat < 0xA0 then westernControls.getD (b.toNat - 0x80) ' '
  else .ofNat b.toNat

def Charset.ofLabel (label : String) : Charset :=
  if westernLabels.contains label then .windows1252 else .utf8

/-- The value of the charset parameter of a content type. -/
def charsetLabel? (contentType : String) : Option String :=
  ((pieces ';' contentType.toList).drop 1).findSome? fun parameter =>
    let written := Text.lower (Text.trim parameter)
    if "charset=".toList.isPrefixOf written then
      let value := (written.drop 8).takeWhile (· != '=')
      some (.ofList ((Text.trim value).filter (· != '"')))
    else none

def Charset.ofContentType (contentType : String) : Charset :=
  match charsetLabel? contentType with
  | some label => .ofLabel label
  | none => .utf8

def utf8Mark : Bytes := [0xEF, 0xBB, 0xBF]

/-- The text of a body, malformed pieces patched. -/
def bodyText (contentType : String) (body : Bytes) : String :=
  if utf8Mark.isPrefixOf body then Text.Utf8.decodePatched (body.drop 3)
  else match Charset.ofContentType contentType with
    | .utf8 => Text.Utf8.decodePatched body
    | .windows1252 => .ofList (body.map westernChar)

end SqlConverter.Web
