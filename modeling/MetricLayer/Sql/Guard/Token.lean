import MetricLayer.Sql.Dialect
import MetricLayer.Text.Blank
import MetricLayer.Text.Case

/-!
# SQL tokens

A statement text as a list of tokens. Comments are dropped; only a comment that belongs to a
separator leaves a trace, because the separator then counts as a statement. A text with an
unterminated quote or comment has no tokens at all.
-/
namespace MetricLayer.Sql

/-- A token of a statement. Words are in upper case. -/
inductive Token where
  | word (upper : String)
  | quoted
  | text
  | number
  | symbol (s : String)
  | separator (commented : Bool)
  deriving DecidableEq, Repr, Inhabited

/-- How a dialect writes quotes and comments. -/
structure Notation where
  identifierMarks : List Char
  textMarks : List Char
  /-- Characters that take the one after them into a text. -/
  textEscapes : List Char
  lineComments : List (List Char)
  nestedComments : Bool
  /-- Whether a word may start with a digit. -/
  digitWords : Bool

namespace Notation

/-- The notation of texts in no particular dialect. -/
def general : Notation where
  identifierMarks := ['"']
  textMarks := ['\'']
  textEscapes := ['\'']
  lineComments := [['-', '-']]
  nestedComments := true
  digitWords := false

def ofDialect : Dialect → Notation
  | .postgres => general
  | .mysql => {
      identifierMarks := ['`']
      textMarks := ['\'', '"']
      textEscapes := ['\'', '"', '\\']
      lineComments := [['-', '-'], ['#']]
      nestedComments := false
      digitWords := true }

end Notation

/-- What is read so far: the tokens in reverse, whether comments wait for the next token, and
the lines of the reading place and of the last token. -/
structure Scan where
  tokens : List Token := []
  waiting : Bool := false
  line : Nat := 1
  lastLine : Nat := 0

namespace Scan

/-- Marks the last token as commented, which matters for separators only. -/
def comment (s : Scan) : Scan :=
  match s.tokens with
  | .separator _ :: rest => { s with tokens := .separator true :: rest }
  | _ => s

/-- Adds a token. Waiting comments belong to it, but to the one before a separator. -/
def add (s : Scan) (t : Token) : Scan :=
  let waiting := s.waiting
  let s := { s with waiting := false, lastLine := s.line }
  match t with
  | .separator _ =>
    match s.tokens with
    | [] => { s with tokens := [.separator waiting] }
    | _ =>
      let s := if waiting then s.comment else s
      { s with tokens := .separator false :: s.tokens }
  | t => { s with tokens := t :: s.tokens }

/-- Adds a comment that starts on a given line: it belongs to the last token if that ended on
the same line. -/
def addComment (s : Scan) (startLine : Nat) : Scan :=
  if startLine == s.lastLine then { s.comment with lastLine := s.line }
  else { s with waiting := true }

/-- Adds the lines of a text that was passed. -/
def pass (s : Scan) (cs : List Char) : Scan :=
  { s with line := s.line + (cs.filter (· == '\n')).length }

/-- The tokens in order; comments that still wait belong to the last one. -/
def finish (s : Scan) : List Token :=
  (if s.waiting then s.comment else s).tokens.reverse

end Scan

/-- The rest of a text after its closing mark. A doubled mark stands for itself, and so does
what follows an escape character. -/
def afterQuote? (mark : Char) (escapes : List Char) : List Char → Option (List Char)
  | [] => none
  | [c] => if c == mark then some [] else none
  | c :: d :: rest =>
    if c == mark then if d == mark then afterQuote? mark escapes rest else some (d :: rest)
    else if c == '\\' && escapes.contains c then afterQuote? mark escapes rest
    else afterQuote? mark escapes (d :: rest)

/-- The rest of a text after the end of a block comment. -/
def afterComment? (nested : Bool) : Nat → List Char → Option (List Char)
  | _, [] => none
  | depth, '*' :: '/' :: rest =>
    if depth == 0 then some rest else afterComment? nested (depth - 1) rest
  | depth, '/' :: '*' :: rest =>
    if nested then afterComment? nested (depth + 1) rest
    else afterComment? nested depth ('*' :: rest)
  | depth, _ :: rest => afterComment? nested depth rest

/-- Characters that are a token of their own or part of an operator. -/
def symbolChars : List Char :=
  "()[]\x7b\x7d&^:,.-+*?/\\;=<>|%!~@$#'\"".toList ++ ['`']

/-- Operators of several characters, the longest first. -/
def longSymbols : List (List Char) :=
  (["->>", "<=>", "<=", ">=", "<>", "!=", "||", "::", "->", ":=", "==", "&&", "<<", ">>"]).map
    String.toList

/-- Whether a character continues a word. -/
def continuesWord (c : Char) : Bool :=
  !Text.isBlank c && !symbolChars.contains c

/-- The digits of a number, with a decimal point and an exponent, and what follows. -/
def spanNumber (cs : List Char) : List Char × List Char :=
  let (whole, rest) := cs.span Char.isDigit
  let (fraction, rest) := match rest with
    | '.' :: tail => let (ds, rest) := tail.span Char.isDigit; ('.' :: ds, rest)
    | _ => ([], rest)
  let number := whole ++ fraction
  match rest with
  | e :: sign :: d :: tail =>
    if (e == 'e' || e == 'E') && (sign == '+' || sign == '-') && d.isDigit then
      let (ds, rest) := tail.span Char.isDigit
      (number ++ e :: sign :: d :: ds, rest)
    else if (e == 'e' || e == 'E') && sign.isDigit then
      let (ds, rest) := (sign :: d :: tail).span Char.isDigit
      (number ++ e :: ds, rest)
    else (number, rest)
  | [e, d] => if (e == 'e' || e == 'E') && d.isDigit then (number ++ [e, d], []) else (number, rest)
  | _ => (number, rest)

/-- One step of reading: the new state and the rest. -/
def scanStep (n : Notation) (s : Scan) (c : Char) (cs : List Char) :
    Option (Scan × List Char) :=
  let all := c :: cs
  if Text.isBlank c then
    some ((if c == '\n' || (c == '\r' && cs.head? != some '\n') then
      { s with line := s.line + 1 } else s), cs)
  else if n.lineComments.any fun o => o.isPrefixOf all then
    let rest := cs.dropWhile fun c => c != '\n' && c != '\r'
    some (s.addComment s.line, rest)
  else if ['/', '*'].isPrefixOf all then
    (afterComment? n.nestedComments 0 (cs.drop 1)).map fun rest =>
      ((s.pass (all.take (all.length - rest.length))).addComment s.line, rest)
  else if n.identifierMarks.contains c then
    (afterQuote? c [c] cs).map fun rest =>
      ((s.pass (cs.take (cs.length - rest.length))).add .quoted, rest)
  else if n.textMarks.contains c then
    (afterQuote? c n.textEscapes cs).map fun rest =>
      ((s.pass (cs.take (cs.length - rest.length))).add .text, rest)
  else if c == ';' then some (s.add (.separator false), cs)
  else if c.isDigit then
    let (_, rest) := spanNumber all
    let (word, tail) := rest.span continuesWord
    if n.digitWords && !word.isEmpty then
      some (s.add (.word (Text.upper (String.ofList word))), tail)
    else some (s.add .number, rest)
  else
    match longSymbols.find? fun o => o.isPrefixOf all with
    | some o => some (s.add (.symbol (String.ofList o)), all.drop o.length)
    | none =>
      if symbolChars.contains c then some (s.add (.symbol c.toString), cs)
      else
        let (word, rest) := all.span continuesWord
        some (s.add (.word (Text.upper (String.ofList word))), rest)

/-- Reads a text to its end. The fuel bounds the steps. -/
def scanAll (n : Notation) : Nat → Scan → List Char → Option (List Token)
  | _, s, [] => some s.finish
  | 0, _, _ :: _ => none
  | fuel + 1, s, c :: cs =>
    match scanStep n s c cs with
    | some (s, rest) => scanAll n fuel s rest
    | none => none

/-- The tokens of a text, if it can be read. -/
def tokens? (n : Notation) (sql : String) : Option (List Token) :=
  let cs := sql.toList
  scanAll n cs.length {} cs

end MetricLayer.Sql
