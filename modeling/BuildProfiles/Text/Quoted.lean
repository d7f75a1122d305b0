/-
Quoted text, as messages show it.

A text stands between apostrophes; if it holds an apostrophe and no quotation
mark, between quotation marks. The mark in use and the backslash follow a
backslash, the usual control characters have letters, and every other
character that is not shown is written by its number.
-/
import BuildProfiles.Text.Hex
import BuildProfiles.Text.Printable

namespace BuildProfiles.Text

def quoteMark (s : List CodePoint) : CodePoint :=
  if s.contains (.char '\'') && !s.contains (.char '"') then '"' else '\''

def escaped (mark c : CodePoint) : List CodePoint :=
  if c = mark ∨ c = '\\' then ['\\', c]
  else if c = '\t' then ['\\', 't']
  else if c = '\n' then ['\\', 'n']
  else if c = '\r' then ['\\', 'r']
  else if isPrintable c then [c]
  else if c.toNat < 0x100 then '\\' :: 'x' :: (hex 2 c.toNat).map .char
  else if c.toNat < 0x10000 then '\\' :: 'u' :: (hex 4 c.toNat).map .char
  else '\\' :: 'U' :: (hex 8 c.toNat).map .char

/-- `s` between its marks. -/
def quoted (s : Text) : Text :=
  let mark := quoteMark s.toList
  Text.ofList (mark :: s.toList.flatMap (escaped mark) ++ [mark])

/-- The texts, each quoted, between square brackets. -/
def quotedList (texts : List Text) : Text :=
  "[" ++ Text.intercalate ", " (texts.map quoted) ++ "]"

example : quoted "it's" = "\"it's\"" := by decide +kernel
example : quoted "'\"\n" = "'\\'\"\\n'" := by decide +kernel

end BuildProfiles.Text
