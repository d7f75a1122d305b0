/-
Line ends.
-/
namespace BuildProfiles.Text

/-- The text with every line end written as a line feed: a carriage return
becomes one, together with a line feed that follows it. -/
def unifyLineEnds : List Char → List Char
  | [] => []
  | '\r' :: '\n' :: s => '\n' :: unifyLineEnds s
  | c :: s => (if c = '\r' then '\n' else c) :: unifyLineEnds s

example : unifyLineEnds ['a', '\r', '\n', '\r', 'b'] = ['a', '\n', '\n', 'b'] := by decide

end BuildProfiles.Text
