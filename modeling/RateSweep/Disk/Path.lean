import RateSweep.Text.Segments

namespace RateSweep.Path

def names (path : String) : List String :=
  (Text.segments '/' path).filter fun s => s ≠ "" && s ≠ "."

def fileName? (path : String) : Option String := (names path).getLast?.filter (· ≠ "..")

def join (directory name : String) : String :=
  if directory = "" then name
  else if directory.toList.getLast? = some '/' then directory ++ name
  else directory ++ "/" ++ name

end RateSweep.Path
