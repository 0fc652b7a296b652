namespace SqlClient

inductive LogLevel
  | debug
  | info
  | warn

/-- The name of a level as it stands in front of a line. -/
def LogLevel.name : LogLevel → String
  | debug => "DEBUG"
  | info => "INFO"
  | warn => "WARN"

/-- One line of the log. -/
structure LogLine where
  level : LogLevel
  text : String

def LogLine.render (l : LogLine) : String :=
  l.level.name ++ " " ++ l.text

end SqlClient
