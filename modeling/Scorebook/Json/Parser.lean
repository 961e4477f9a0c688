import Scorebook.Json.Token
/-!
# Reading JSON

The parser takes one token at a time and keeps the containers that are still open.  A text is a document
if its tokens lead from the start to one complete value.
-/
namespace Scorebook.Json

/-- A container that is still open, with its items in reverse. -/
inductive Frame where
  | list (items : List Json)
  /-- An object whose field `key` awaits its value. -/
  | object (fields : List (String × Json)) (key : Option String) (legible : Bool)

/-- What may come next. -/
inductive Expecting where
  | value
  /-- The first item of a list, or its end. -/
  | item
  /-- The first key of an object, or its end. -/
  | firstKey (fields : List (String × Json)) (legible : Bool)
  /-- The key after a comma. -/
  | key (fields : List (String × Json)) (legible : Bool)
  | colon (fields : List (String × Json)) (key : Option String) (legible : Bool)
  /-- A comma or the end of the container, after a complete value. -/
  | rest (v : Json)

structure Parser where
  frames : List Frame
  expecting : Expecting

namespace Parser

/-- A field, unless its key cannot be read. -/
def addField (fields : List (String × Json)) (key : Option String) (v : Json) :
    List (String × Json) :=
  match key with
  | some k => (k, v) :: fields
  | none => fields

/-- An object, which cannot be read if one of its keys cannot. -/
def closeObject (fields : List (String × Json)) (legible : Bool) : Json :=
  if legible then .object fields.reverse else .unreadable

def begin? (frames : List Frame) (t : Token) : Option Parser :=
  match t with
  | .scalar v => some ⟨frames, .rest v⟩
  | .quoted (some s) => some ⟨frames, .rest (.text s)⟩
  | .quoted none => some ⟨frames, .rest .unreadable⟩
  | .openList => some ⟨.list [] :: frames, .item⟩
  | .openObject => some ⟨frames, .firstKey [] true⟩
  | _ => none

def key? (frames : List Frame) (fields : List (String × Json)) (legible : Bool) (t : Token) :
    Option Parser :=
  match t with
  | .quoted key => some ⟨frames, .colon fields key (legible && key.isSome)⟩
  | _ => none

def step (p : Parser) (t : Token) : Option Parser :=
  match p.expecting, t with
  | .value, t => begin? p.frames t
  | .item, .closeList =>
    match p.frames with
    | .list items :: frames => some ⟨frames, .rest (.list items.reverse)⟩
    | _ => none
  | .item, t => begin? p.frames t
  | .firstKey fields legible, .closeObject =>
    some ⟨p.frames, .rest (closeObject fields legible)⟩
  | .firstKey fields legible, t => key? p.frames fields legible t
  | .key fields legible, t => key? p.frames fields legible t
  | .colon fields key legible, .colon => some ⟨.object fields key legible :: p.frames, .value⟩
  | .rest v, t =>
    match p.frames, t with
    | .list items :: frames, .comma => some ⟨.list (v :: items) :: frames, .value⟩
    | .list items :: frames, .closeList => some ⟨frames, .rest (.list (v :: items).reverse)⟩
    | .object fields key legible :: frames, .comma =>
      some ⟨frames, .key (addField fields key v) legible⟩
    | .object fields key legible :: frames, .closeObject =>
      some ⟨frames, .rest (closeObject (addField fields key v) legible)⟩
    | _, _ => none
  | _, _ => none

def finish? (p : Parser) : Option Json :=
  match p.frames, p.expecting with
  | [], .rest v => some v
  | _, _ => none

end Parser

/-- The document that a text holds, with blanks around it allowed. -/
def parse? (s : String) : Option Json := do
  let tokens ← tokens? s.toList
  let parser ← tokens.foldlM Parser.step ⟨[], .value⟩
  parser.finish?

end Scorebook.Json
