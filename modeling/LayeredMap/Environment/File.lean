import LayeredMap.Environment
import LayeredMap.Text.Alphanumeric

/-!
# Environment files

A line assigns a text to a name. Quotation marks may hold it together, also
over several lines: single ones take everything as it stands, double ones
know escapes and references. Outside of them a blank ends the text, and only a
comment may follow. A reference `$NAME` or `${NAME}` stands for the text of
the name at that point, and for nothing if it has none.

Reading stops without complaint at the first line that is out of order. What
the lines before it assigned stays.
-/
namespace LayeredMap.EnvironmentFile

def name : String := ".env"

/-! ## Lines -/

/-- Cuts behind every line feed. -/
def cutLines : List UInt8 → List (List UInt8)
  | [] => []
  | b :: bs =>
    if b = 10 then [b] :: cutLines bs
    else
      match cutLines bs with
      | [] => [[b]]
      | l :: ls => (b :: l) :: ls

def byteOrderMark : List UInt8 := [0xEF, 0xBB, 0xBF]

def textOf? (bytes : List UInt8) : Option String := String.fromUTF8? ⟨bytes.toArray⟩

/-- The lines up to the first that is not text. A byte order mark in front is skipped. -/
def textLines (bytes : List UInt8) : List (List Char) :=
  let bytes := if byteOrderMark.isPrefixOf bytes then bytes.drop 3 else bytes
  ((cutLines bytes).map textOf?).takeWhile Option.isSome |>.filterMap fun s => s.map String.toList

/-- What surrounds a place in a line. -/
inductive Surroundings where
  | plain
  | blank
  | escape
  | double
  | doubleEscape
  | single
  | singleEscape
  deriving DecidableEq

namespace Surroundings

def opened : Char → Surroundings
  | '\\' => escape
  | '"' => double
  | '\'' => single
  | _ => plain

/-- What surrounds the next place, if no comment starts here. -/
def after : Surroundings → Char → Option Surroundings
  | plain, c =>
    some (if Text.isBlank c && c != '\n' && c != '\r' then blank else opened c)
  | blank, c => if c = '#' then none else some (opened c)
  | escape, _ => some plain
  | double, c => some (if c = '\\' then doubleEscape else if c = '"' then plain else double)
  | doubleEscape, _ => some double
  | single, c => some (if c = '\\' then singleEscape else if c = '\'' then plain else single)
  | singleEscape, _ => some single

/-- What surrounds the end of a line, and the line up to a comment. -/
def scan : Surroundings → List Char → List Char × Option Surroundings
  | s, [] => ([], some s)
  | s, c :: cs =>
    match s.after c with
    | none => ([], none)
    | some s =>
      let (kept, ending) := scan s cs
      (c :: kept, ending)

end Surroundings

def dropLineEnd (cs : List Char) : List Char :=
  match cs.reverse with
  | '\n' :: '\r' :: rest => rest.reverse
  | '\n' :: rest => rest.reverse
  | _ => cs

/-- Joins the lines that a quotation spans. What the end of the file leaves open is out of order. -/
def joinLines : (open_ : List Char) → Surroundings → List (List Char) → List (List Char)
  | _, _, [] => []
  | open_, s, l :: ls =>
    let whole := open_ ++ l
    if (Text.trimStart whole).head? = some '#' then [] :: joinLines [] .plain ls
    else
      match s.scan l with
      | (kept, none) => (open_ ++ kept) :: joinLines [] .plain ls
      | (_, some .plain) => dropLineEnd whole :: joinLines [] .plain ls
      | (_, some s) => joinLines whole s ls

/-! ## Assignments -/

/-- Where in the text of an assignment a character stands. References and escapes come back to
double quotation marks if they stand in them. -/
inductive Place where
  | bare
  | double
  | single
  | escape (quoted : Bool)
  | name (quoted : Bool) (read : List Char)
  | braced (quoted : Bool) (read : List Char)
  | over
  deriving DecidableEq

def Place.back (quoted : Bool) : Place := if quoted then double else bare

def escaped? : Char → Option Char
  | 'n' => some '\n'
  | c => if ['\\', '\'', '"', '$', ' '].contains c then some c else none

/-- What a reference stands for. -/
def referent (e : Environment) (name : List Char) : List Char :=
  ((e.get? (String.ofList name)).getD "").toList

/-- The text of an assignment, unless it is out of order. -/
def readText (e : Environment) : Place → List Char → Option (List Char)
  | .bare, [] | .escape false, [] | .over, [] => some []
  | .name false n, [] => some (referent e n)
  | .double, [] | .single, [] | .escape true, [] | .name true _, [] | .braced _ _, [] => none
  | .bare, c :: cs =>
    if c = '$' then readText e (.name false []) cs
    else if c = '\'' then readText e .single cs
    else if c = '"' then readText e .double cs
    else if c = '\\' then readText e (.escape false) cs
    else if c = ' ' || c = '\t' then readText e .over cs
    else (readText e .bare cs).map (c :: ·)
  | .double, c :: cs =>
    if c = '$' then readText e (.name true []) cs
    else if c = '"' then readText e .bare cs
    else if c = '\\' then readText e (.escape true) cs
    else (readText e .double cs).map (c :: ·)
  | .single, c :: cs =>
    if c = '\'' then readText e .bare cs else (readText e .single cs).map (c :: ·)
  | .escape quoted, c :: cs =>
    match escaped? c with
    | some c => (readText e (.back quoted) cs).map (c :: ·)
    | none => none
  | .name quoted n, c :: cs =>
    if Text.isAlphanumeric c then readText e (.name quoted (n ++ [c])) cs
    else if c = '{' && n.isEmpty then readText e (.braced quoted []) cs
    else if c = '$' then (readText e (.name quoted []) cs).map (referent e n ++ ·)
    else (readText e (.back quoted) cs).map (referent e n ++ c :: ·)
  | .braced quoted n, c :: cs =>
    if c = '}' then (readText e (.back quoted) cs).map (referent e n ++ ·)
    else readText e (.braced quoted (n ++ [c])) cs
  | .over, c :: cs =>
    if c = ' ' || c = '\t' then readText e .over cs
    else if c = '#' then some []
    else none

def isNameStart (c : Char) : Bool := c.isAlpha || c = '_'

def isNamePart (c : Char) : Bool := c.isAlphanum || c = '_' || c = '.'

/-- A name and what comes behind it and the blanks that follow. -/
def readName : List Char → Option (List Char × List Char)
  | [] => none
  | c :: cs =>
    if isNameStart c then
      some (c :: cs.takeWhile isNamePart, Text.trimStart (cs.dropWhile isNamePart))
    else none

/-- A name and what comes behind its equals sign. The word `export` may stand in front. -/
def readTarget (cs : List Char) : Option (List Char × List Char) := do
  match ← readName cs with
  | (n, '=' :: rest) => return (n, rest)
  | (n, rest) =>
    if n = "export".toList then
      match ← readName rest with
      | (n, '=' :: rest) => return (n, rest)
      | _ => none
    else none

/-- A line assigns, says nothing, or is out of order. -/
def readLine (e : Environment) (line : List Char) : Option (Option (String × String)) :=
  let cs := Text.trimStart (Text.trimEnd line)
  if cs.isEmpty || cs.head? = some '#' then some none
  else do
    let (n, rest) ← readTarget cs
    let rest := Text.trimStart rest
    let text ← if rest.head? = some '#' then some [] else readText e .bare rest
    return some (String.ofList n, String.ofList text)

def assignAll : Environment → List (List Char) → Environment
  | e, [] => e
  | e, l :: ls =>
    match readLine e l with
    | none => e
    | some none => assignAll e ls
    | some (some (n, text)) => assignAll (e.supply n text) ls

/-- Whatever stands behind a dollar sign and an opening brace, up to the closing one. -/
def bracedTexts : List Char → List (List Char)
  | [] => []
  | c :: cs =>
    if ['$', '{'].isPrefixOf (c :: cs) then
      (cs.drop 1).takeWhile (· != '}') :: bracedTexts cs
    else bracedTexts cs

/-- Every name that a file may assign or refer to, among others. -/
def mentions (bytes : List UInt8) : List String :=
  let text := (textLines bytes).flatten
  let runs (isPart : Char → Bool) := (text.splitOnP fun c => !isPart c).filter (!·.isEmpty)
  (runs isNamePart ++ runs Text.isAlphanumeric ++ bracedTexts text).map String.ofList
    |>.eraseDups

/-- An environment with what a file adds to it. -/
def load (e : Environment) (bytes : List UInt8) : Environment :=
  assignAll e (joinLines [] .plain (textLines bytes))

end LayeredMap.EnvironmentFile
