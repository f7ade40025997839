import ProseLinter.Extension.Workspace

/-!
# Extension/Bundled — the extensions that come with the linter

They lie in the linter's own directory like any other extension: one directory for each family, one
file for each extension.  What a file uses from elsewhere is among its exports too.
-/

namespace ProseLinter.Bundled

/-- A helper among the exports of a file. -/
def helper (name : String) : String × Export := (name, .callable (.helper name))

/-- A class among the exports of a file. -/
def maker (name : String) : String × Export := (name, .callable (.maker name))

/-- A file with a program that exports one callable for its family, and others on the side. -/
def file (name member : String) (c : Callable) (others : List (String × Export)) :
    String × Entry FileContent :=
  (name, .file (.source ⟨none, true, none, (member, .callable c) :: others⟩))

/-- What all formatters of lint results export on the side. -/
def lintHelpers : List (String × Export) :=
  [maker "Sequence", maker "FormatterConfig", maker "LintResult"]

/-- What all formatters of fix results export on the side. -/
def fixHelpers : List (String × Export) :=
  [maker "Sequence", maker "FormatterConfig", maker "FixResult"]

/-- What all rules export on the side. -/
def ruleHelpers : List (String × Export) :=
  [maker "Any", maker "Callable", maker "Mapping", maker "RuleContext", maker "TextNode"]

def formatters : Entry FileContent :=
  .directory
    [ file "compact.py" "format" (.reporter .compact)
        (lintHelpers ++
          [maker "Severity", helper "all_messages", helper "pluralize", helper "summarize"]),
      file "json.py" "format" (.reporter .json) lintHelpers,
      file "stylish.py" "format" (.reporter .stylish)
        (lintHelpers ++
          [maker "Severity", helper "all_messages", helper "pluralize", helper "summarize"]),
      file "unix.py" "format" (.reporter .unix)
        (lintHelpers ++ [helper "all_messages", helper "pluralize"]) ]

def fixFormatters : Entry FileContent :=
  .directory
    [ file "compact.py" "format" (.reporter .fixCompact) (fixHelpers ++ [helper "pluralize"]),
      file "json.py" "format" (.reporter .fixJson) fixHelpers,
      file "stylish.py" "format" (.reporter .fixStylish) (fixHelpers ++ [helper "pluralize"]) ]

def rules : Entry FileContent :=
  .directory
    [ file "no_todo.py" "create" (.bundled .markers) ruleHelpers,
      file "trailing_spaces.py" "create" (.bundled .trailingSpaces)
        (ruleHelpers ++ [helper "Final"]) ]

/-- **The linter's own directory.** -/
def directory : Entry FileContent :=
  .directory [("formatters", formatters), ("fix_formatters", fixFormatters), ("rules", rules)]

end ProseLinter.Bundled
