/-!
Text as lines. A line feed ends a line and a carriage return right before it belongs to the ending;
what follows the last line feed is a line of its own unless it is empty.
-/

namespace EventSocket.Text

/-- The lines completed so far and the characters of the line under way. -/
structure LineReader where
  complete : Array String
  current : String

def LineReader.empty : LineReader := ⟨#[], ""⟩

def dropReturn (line : String) : String :=
  if line.toList.getLast? = some '\r' then String.ofList line.toList.dropLast else line

def LineReader.read (reader : LineReader) (c : Char) : LineReader :=
  if c = '\n' then
    { complete := reader.complete.push (dropReturn reader.current), current := "" }
  else
    { reader with current := reader.current.push c }

def LineReader.finish (reader : LineReader) : List String :=
  if reader.current.isEmpty then reader.complete.toList
  else (reader.complete.push reader.current).toList

def lines (text : String) : List String :=
  (text.toList.foldl LineReader.read LineReader.empty).finish

/-- Lines under one another, with no line feed after the last. -/
def joinLines (lines : List String) : String := "\n".intercalate lines

def hasLineBreak (text : String) : Bool :=
  text.toList.any fun c => c == '\n' || c == '\r'

end EventSocket.Text
