/-!
# Records

A record is a line of fields with commas between them.  A field between double quotes may hold
commas and line breaks, and a quote if it is written twice; a field without quotes holds no quote at
all.  Empty lines in front of a record are skipped, and what follows it is not read.
-/

namespace Boardwright.Text.Record

/-- Why a text has no record. -/
inductive Flaw where
  /-- There is nothing to read. -/
  | missing
  /-- A quote in a field that does not start with one, and the line of the record. -/
  | bareQuote (start line column : Nat)
  /-- A quote that is not followed by the end of its field, or that is missing there. -/
  | strayQuote (start line column : Nat)
  deriving DecidableEq, Repr

/-- The place of a flaw. -/
def place (start line column : Nat) : String :=
  (if start = line then "" else "record on line " ++ toString start ++ "; ") ++
    "parse error on line " ++ toString line ++ ", column " ++ toString column ++ ": "

def Flaw.text : Flaw → String
  | missing => "EOF"
  | bareQuote start line column => place start line column ++ "bare \" in non-quoted-field"
  | strayQuote start line column =>
    place start line column ++ "extraneous or missing \" in quoted-field"

/-- The lines of a text, each with its line feed.  A carriage return before a line feed or at the
end of the text is dropped. -/
def lines : List Char → List (List Char)
  | [] => []
  | ['\r'] => [[]]
  | '\n' :: cs => ['\n'] :: lines cs
  | '\r' :: '\n' :: cs => ['\n'] :: lines cs
  | c :: cs => match lines cs with
    | [] => [[c]]
    | line :: rest => (c :: line) :: rest

/-- The number of bytes, in which columns are counted. -/
def size (cs : List Char) : Nat := cs.foldl (fun n c => n + c.utf8Size) 0

def isEnd (cs : List Char) : Bool := cs = [] || cs = ['\n']

/-- A place in a text: the lines from there on, the first of them only in part. -/
structure Place where
  line : Nat
  column : Nat
  here : List Char
  below : List (List Char)

mutual

/-- The fields from the start of one on.  The record starts in line `start`. -/
def fields (start : Nat) : Nat → Place → Except Flaw (List (List Char))
  | 0, _ => .error .missing
  | fuel + 1, p =>
    match p.here with
    | '"' :: rest => quoted start fuel [] { p with column := p.column + 1, here := rest }
    | _ =>
      let field := p.here.takeWhile fun c => c != ',' && c != '\n'
      let before := field.takeWhile (· != '"')
      if before.length < field.length then
        .error (.bareQuote start p.line (p.column + size before))
      else match p.here.dropWhile (fun c => c != ',' && c != '\n') with
        | ',' :: rest =>
          (fields start fuel { p with column := p.column + size field + 1, here := rest }).map
            (field :: ·)
        | _ => .ok [field]

/-- The fields from inside a quoted one on, of which a part was read. -/
def quoted (start : Nat) : Nat → List Char → Place → Except Flaw (List (List Char))
  | 0, _, _ => .error .missing
  | fuel + 1, part, p =>
    let text := p.here.takeWhile (· != '"')
    let column := p.column + size text
    match p.here.dropWhile (· != '"') with
    | _ :: '"' :: rest =>
      quoted start fuel (part ++ text ++ ['"']) { p with column := column + 2, here := rest }
    | _ :: ',' :: rest =>
      (fields start fuel { p with column := column + 2, here := rest }).map ((part ++ text) :: ·)
    | _ :: rest => if isEnd rest then .ok [part ++ text] else .error (.strayQuote start p.line column)
    | [] =>
      match p.below with
      | (c :: cs) :: below =>
        quoted start fuel (part ++ text) { line := p.line + 1, column := 1, here := c :: cs, below }
      | _ => .error (.strayQuote start p.line column)

end

/-- The first record of a text. -/
def read (text : String) : Except Flaw (List String) :=
  let all := lines text.toList
  let skipped := (all.takeWhile isEnd).length
  match all.drop skipped with
  | [] => .error .missing
  | here :: below =>
    (fields (skipped + 1) (text.length + 2) { line := skipped + 1, column := 1, here, below }).map
      (·.map String.ofList)

end Boardwright.Text.Record
