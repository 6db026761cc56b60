import ModuleBundler.Script.Linkage

/-!
# The lines in front of a module

The body of a module begins with lines that link it: they mark it as a module of the modern kind,
show what it exports, and ask for what it imports.  What is shown comes first, so that modules that
ask for each other find it.
-/

namespace ModuleBundler.Script

/-- The line that defines a getter. -/
def Getter.line (g : Getter) : String :=
  "Object.defineProperty(exports, " ++ Text.quoted g.outside
    ++ ", \x7b enumerable: true, get: function () \x7b return " ++ g.value ++ "; \x7d \x7d);"

/-- The line that only runs a module. -/
def requireCall (source : String) : String :=
  "require(" ++ Text.quoted source ++ ");"

/-- The line that keeps what a module exports in a variable. -/
def keepLine (variableName source : String) : String :=
  "var " ++ variableName ++ " = " ++ requireCall source

/-- The line that shows everything a module exports, except what is shown already. -/
def showAllLine (variableName : String) : String :=
  "Object.keys(" ++ variableName ++ ").forEach(function (key) \x7b if (key === \"default\" || "
    ++ "key === \"__esModule\" || Object.prototype.hasOwnProperty.call(exports, key)) return; "
    ++ "Object.defineProperty(exports, key, \x7b enumerable: true, get: function () \x7b return "
    ++ variableName ++ "[key]; \x7d \x7d); \x7d);"

/-- The lines for a request. -/
def Request.lines : Request → List String
  | .run source => [requireCall source]
  | .keep v source => [keepLine v source]
  | .showAll v source => [keepLine v source, showAllLine v]

/-- The lines that every module begins with: it is strict, and of the modern kind. -/
def openingLines : List String :=
  ["\"use strict\";", "Object.defineProperty(exports, \"__esModule\", \x7b value: true \x7d);"]

/-- **All lines in front of a module.** -/
def Linkage.lines (l : Linkage) : List String :=
  openingLines ++ l.getters.map Getter.line ++ l.requests.flatMap Request.lines

/-- The text in front of a module. -/
def Linkage.prelude (l : Linkage) : String :=
  String.join (l.lines.map (· ++ "\n"))

end ModuleBundler.Script
