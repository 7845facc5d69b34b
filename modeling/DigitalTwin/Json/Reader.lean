import DigitalTwin.Json.Lexeme

/-!
JSON text as a document. The containers that are open are held on a list, innermost first, so text may
nest as deep as it likes; how deep is too deep is asked only where a value is wanted.
-/

namespace DigitalTwin

namespace Document

/-- A container that is open, with what it holds so far, last first. -/
inductive Frame where
  | array (items : List Document)
  | object (members : List (Option String × Document)) (name : Option String)

/-- What may come next. -/
inductive Progress where
  /-- A value. -/
  | value (within : List Frame)
  /-- The first item of an array, or its end. -/
  | item (within : List Frame)
  /-- The first name of an object, or its end. -/
  | member (within : List Frame)
  /-- The next name of an object with these members. -/
  | nextMember (members : List (Option String × Document)) (within : List Frame)
  /-- The colon behind a name. -/
  | colon (members : List (Option String × Document)) (name : Option String) (within : List Frame)
  /-- A comma, or the end of the innermost container. -/
  | separator (innermost : Frame) (within : List Frame)
  /-- The end of the text. -/
  | finished (document : Document)

/-- A complete value, put into the container around it. -/
def Progress.complete (d : Document) : List Frame → Progress
  | [] => .finished d
  | .array items :: within => .separator (.array (d :: items)) within
  | .object members name :: within => .separator (.object ((name, d) :: members) none) within

/-- A value that starts with a lexeme. -/
def Progress.start? (within : List Frame) : Lexeme → Option Progress
  | .openArray => some (.item within)
  | .openObject => some (.member within)
  | .scalar d => some (.complete d within)
  | _ => none

/-- The progress that a lexeme makes, if it may come next. -/
def Progress.step? : Progress → Lexeme → Option Progress
  | .value within, lexeme => start? within lexeme
  | .item within, .closeArray => some (complete (.array []) within)
  | .item within, lexeme => start? (.array [] :: within) lexeme
  | .member within, .closeObject => some (complete (.object []) within)
  | .member within, .scalar (.text name) => some (.colon [] name within)
  | .nextMember members within, .scalar (.text name) => some (.colon members name within)
  | .colon members name within, .colon => some (.value (.object members name :: within))
  | .separator (.array items) within, .comma => some (.value (.array items :: within))
  | .separator (.array items) within, .closeArray => some (complete (.array items.reverse) within)
  | .separator (.object members _) within, .comma => some (.nextMember members within)
  | .separator (.object members _) within, .closeObject => some (complete (.object members.reverse) within)
  | _, _ => none

/-- The document that lexemes make up, if they make up exactly one. -/
def ofLexemes? : Progress → List Lexeme → Option Document
  | .finished d, [] => some d
  | _, [] => none
  | progress, lexeme :: rest =>
    match progress.step? lexeme with
    | none => none
    | some progress => ofLexemes? progress rest

/-- The document that UTF-8 JSON text writes. -/
def read? (bytes : List UInt8) : Option Document :=
  match Lexeme.read? bytes with
  | none => none
  | some lexemes => ofLexemes? (.value []) lexemes

/-- The document that JSON text writes. -/
def readText? (text : String) : Option Document := read? (Text.Utf8.encode text)

end Document

end DigitalTwin
