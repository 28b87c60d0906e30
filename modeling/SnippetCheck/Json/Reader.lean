import SnippetCheck.Json.Token

/-! Reading JSON text. The reader goes through the tokens with a stack of the arrays and objects
that are open; it takes one token at a time and nests without limit. -/

namespace SnippetCheck.Json

/-- An array or object that is open, with what was read of it, the last first. An object waits for
the value of the member named `name`. -/
inductive Frame where
  | array (items : List Json)
  | object (members : List (Option String × Json)) (name : Option String)

/-- What the reader has read and what must follow. -/
inductive Reader where
  /-- A value must follow. -/
  | value (open_ : List Frame)
  /-- A first item or the end of an array must follow. -/
  | firstItem (open_ : List Frame)
  /-- A first name or the end of an object must follow. -/
  | firstName (open_ : List Frame)
  /-- A name must follow. -/
  | nextName (members : List (Option String × Json)) (open_ : List Frame)
  /-- A colon must follow. -/
  | colon (members : List (Option String × Json)) (name : Option String) (open_ : List Frame)
  /-- A value is complete. -/
  | done (v : Json) (open_ : List Frame)

/-- The object with these members, which is unreadable if one of its names is. -/
def ofMembers (members : List (Option String × Json)) : Json :=
  match members.mapM fun m => m.1.map (·, m.2) with
  | some members => .object members
  | none => .unreadable

/-- The reader after a token with which a value starts. -/
def Reader.begin (open_ : List Frame) : Token → Option Reader
  | .openArray => some (.firstItem open_)
  | .openObject => some (.firstName open_)
  | .null => some (.done .null open_)
  | .bool b => some (.done (.bool b) open_)
  | .number n => some (.done ((n.map .number).getD .unreadable) open_)
  | .string s => some (.done ((s.map .string).getD .unreadable) open_)
  | _ => none

/-- The reader after one more token, unless the token cannot stand there. -/
def Reader.step : Reader → Token → Option Reader
  | .value fs, t => begin fs t
  | .firstItem fs, .closeArray => some (.done (.array []) fs)
  | .firstItem fs, t => begin (.array [] :: fs) t
  | .firstName fs, .closeObject => some (.done (.object []) fs)
  | .firstName fs, .string k => some (.colon [] k fs)
  | .nextName ms fs, .string k => some (.colon ms k fs)
  | .colon ms k fs, .colon => some (.value (.object ms k :: fs))
  | .done v (.array items :: fs), .comma => some (.value (.array (v :: items) :: fs))
  | .done v (.array items :: fs), .closeArray => some (.done (.array (v :: items).reverse) fs)
  | .done v (.object ms k :: fs), .comma => some (.nextName ((k, v) :: ms) fs)
  | .done v (.object ms k :: fs), .closeObject => some (.done (ofMembers ((k, v) :: ms).reverse) fs)
  | _, _ => none

def ofTokens? (ts : List Token) : Option Json :=
  match ts.foldlM Reader.step (.value []) with
  | some (.done v []) => some v
  | _ => none

/-- The value that the reader completes first, whatever follows it. -/
def Reader.first? : Reader → List Token → Option Json
  | .done v [], _ => some v
  | _, [] => none
  | r, t :: ts => (r.step t).bind (first? · ts)

def read? (s : List Char) : Option Json := ofTokens? (Token.scan s)

def readFirst? (s : List Char) : Option Json := (Reader.value []).first? (Token.scan s)

end SnippetCheck.Json
