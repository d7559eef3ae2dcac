/-!
# Lines

A line ends with a line feed, before which one carriage return is dropped. The last line of a text
may lack the line feed, and is then kept as it is.
-/

namespace PageCache.Text

/-- A line without the carriage return before its line feed. -/
def dropReturn (line : List Char) : List Char :=
  if line.getLast? = some '\r' then line.dropLast else line

/-- The lines of a text, without their ends. -/
def lines (text : String) : List String :=
  let pieces := text.toList.splitOnP (· = '\n')
  let ended := pieces.dropLast.map dropReturn
  let rest := (pieces.getLast?.getD [])
  (ended ++ if rest = [] then [] else [rest]).map String.ofList

end PageCache.Text
