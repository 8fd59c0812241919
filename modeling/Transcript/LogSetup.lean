import Transcript.Notice
import Transcript.Timestamp

namespace Transcript

/-- A place that log lines are written to. -/
inductive LogSink where
  | errorStream
  | rotatingFile (path : List String)
deriving DecidableEq, Repr

namespace LogSetup

/-- The size at which a log file is rotated, and how many old ones are kept. -/
def maxBytes : Nat := 10 * 1024 * 1024
def backups : Nat := 10

/-- How log files are encoded. -/
def encoding : String := "utf-8"

/-- The name under which the recorder logs. -/
def loggerName : String := "completion_recorder"

/-- One line of a log. -/
def line (time : Timestamp) (level : Level) (text : String) : String :=
  " | ".intercalate [time.logged, level.name, loggerName, text]

/-- A message template with its single argument filled in. -/
def fill (argument : List Char) : List Char → List Char
  | '%' :: 's' :: rest => argument ++ fill argument rest
  | '%' :: '%' :: rest => '%' :: fill argument rest
  | c :: rest => c :: fill argument rest
  | [] => []

/-- The blank characters at the end of a text dropped. -/
def dropBlankEnd (chars : List Char) : List Char :=
  (chars.reverse.dropWhile Text.isBlank).reverse

/-- The parts of a path inside a directory: empty parts and dots name nothing. -/
def pathParts (chars : List Char) : List String :=
  ((String.ofList chars).splitOn "/").filter fun part => part != "" && part != "."

/-- The parts of the log file, if one is named: blanks behind the path do not belong to it. -/
def filePath? (file : String) : Option (List String) :=
  if Text.isBlankText file then none else some (pathParts (dropBlankEnd file.toList))

/-- The most octets that the name of a file or folder may have. -/
def longestName : Nat := 255

/-- A file can be made unless its place is the directory itself, one of its folders would
have to stand where a file stands already, or a name is too long. -/
def canWrite (existing : List (List String)) (path : List String) : Bool :=
  !path.isEmpty && path.all (fun part => part.utf8ByteSize ≤ longestName) &&
    existing.all fun file => file == path || !file.isPrefixOf path

/-- The places that log lines go to, given the files that exist already. -/
def sinks (existing : List (List String)) (file : String) : List LogSink :=
  match filePath? file with
  | some path => .errorStream :: if canWrite existing path then [.rotatingFile path] else []
  | none => [.errorStream]

/-- The files that exist afterwards. -/
def filesAfter (existing : List (List String)) (file : String) : List (List String) :=
  (sinks existing file).foldl
    (fun files sink => match sink with
      | .errorStream => files
      | .rotatingFile path => if files.contains path then files else files ++ [path]) existing

end LogSetup

end Transcript
