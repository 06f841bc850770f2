import SandboxLint.Value.Display

/-!
Errors that end a run or keep it from starting. Each cause has a numbered code, a
message and details; violations are diagnostics and never errors.
-/

namespace SandboxLint

inductive ErrorCode where
  | directoryNotFound
  | notADirectory
  | noReadableFiles
  | configParse
  | configInvalidValue
  | configFileNotFound
  | internal
  deriving DecidableEq, Repr, Inhabited

namespace ErrorCode

def number : ErrorCode → Int
  | .directoryNotFound => 1001
  | .notADirectory => 1002
  | .noReadableFiles => 1003
  | .configParse => 2001
  | .configInvalidValue => 2002
  | .configFileNotFound => 2004
  | .internal => 9001

def label : ErrorCode → String
  | .directoryNotFound => "INPUT_DIRECTORY_NOT_FOUND"
  | .notADirectory => "INPUT_NOT_A_DIRECTORY"
  | .noReadableFiles => "INPUT_NO_READABLE_FILES"
  | .configParse => "CONFIG_PARSE_ERROR"
  | .configInvalidValue => "CONFIG_INVALID_VALUE"
  | .configFileNotFound => "CONFIG_FILE_NOT_FOUND"
  | .internal => "INTERNAL_ERROR"

def all : List ErrorCode :=
  [.directoryNotFound, .notADirectory, .noReadableFiles, .configParse, .configInvalidValue,
    .configFileNotFound, .internal]

def ofNumber? (number : Int) : Option ErrorCode :=
  all.find? (·.number == number)

end ErrorCode

structure ErrorReport where
  code : ErrorCode
  message : String
  details : Mapping := []
  deriving Repr

def ErrorReport.display (report : ErrorReport) : String :=
  "[" ++ toString report.code.number ++ "] " ++ report.code.label ++ ": " ++ report.message

/-- What is wrong with the directory or the files handed over. -/
inductive InputError where
  | directoryNotFound (path : String)
  | notADirectory (path : String)
  | noReadableFiles (count : Int)
  deriving DecidableEq, Repr

def InputError.report : InputError → ErrorReport
  | .directoryNotFound path =>
      { code := .directoryNotFound
        message := "Directory '" ++ path ++ "' does not exist."
        details := [("path", .text path)] }
  | .notADirectory path =>
      { code := .notADirectory
        message := "'" ++ path ++ "' is not a directory."
        details := [("path", .text path)] }
  | .noReadableFiles count =>
      { code := .noReadableFiles
        message := "None of the " ++ toString count ++ " source files could be read."
        details := [("candidates", .int count)] }

/-- What is wrong with the configuration. -/
inductive ConfigError where
  | unparsable (path reason : String)
  | invalidValue (field : String) (value : Value) (reason : String)
  | fileNotFound (path : String)
  deriving Repr

def ConfigError.report : ConfigError → ErrorReport
  | .unparsable path reason =>
      { code := .configParse
        message := "Failed to parse config at " ++ path ++ ": " ++ reason
        details := [("path", .text path), ("reason", .text reason)] }
  | .invalidValue field value reason =>
      { code := .configInvalidValue
        message := "Invalid value for '" ++ field ++ "': " ++ reason
        details :=
          [("field", .text field), ("value", .text value.display), ("reason", .text reason)] }
  | .fileNotFound path =>
      { code := .configFileNotFound
        message := "Config file not found: " ++ path
        details := [("path", .text path)] }

/-- The report of something unforeseen. -/
def ErrorReport.unexpected (reason : String) (details : Mapping := []) : ErrorReport :=
  { code := .internal, message := "Internal error: " ++ reason, details }

end SandboxLint
