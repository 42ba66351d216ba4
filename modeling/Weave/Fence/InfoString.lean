import Weave.Document.CodeBlock

/-!
# Info strings

The info string of a fence is a language word followed by metadata entries: `python file=a.py
title="Two Sum" nodoc`.  Words stand between white space; a quoted run keeps its spaces and loses
its quotes.  A first word with an equals sign is an entry, and then there is no language.
-/

namespace Weave.InfoString

/-- Puts a word in front, unless it is empty. -/
def consWord (word : Text) (words : List Text) : List Text :=
  if word.isEmpty then words else word :: words

/-- The words of the rest of an info string, where `word` has been read of the current one and
`quote` is the quote that is open. -/
def wordsFrom (quote : Option Char) (word : Text) : Text → List Text
  | [] => consWord word []
  | c :: t =>
    match quote with
    | some q => if c = q then wordsFrom none word t else wordsFrom quote (word ++ [c]) t
    | none =>
      if c = '"' ∨ c = '\'' then wordsFrom (some c) word t
      else if Text.isSpace c then consWord word (wordsFrom none [] t)
      else wordsFrom none (word ++ [c]) t

/-- The words of an info string. -/
def words (info : Text) : List Text := wordsFrom none [] info

/-- A word as an entry: the key ends at the first equals sign. -/
def entry (word : Text) : MetaEntry :=
  match Text.splitFirst? "=" word with
  | some (key, value) => ⟨key, some value⟩
  | none => ⟨word, none⟩

/-- The language word and the entries of an info string. -/
def parse (info : Text) : Option Text × List MetaEntry :=
  match words info with
  | [] => (none, [])
  | first :: rest =>
    if '=' ∈ first then (none, entry first :: rest.map entry)
    else (some first, rest.map entry)

end Weave.InfoString
