import ProseLinter.Pattern.Wildcard
import ProseLinter.Path

/-!
# Pattern/Glob — patterns for files at any depth

A pattern without two stars in a row is a wildcard pattern for the whole path.  Two stars stand for
any directories: in front of a name, behind one, on both sides of one, or between two parts.
-/

namespace ProseLinter.Glob

/-- The text before the first occurrence of `part`, and the text after it. -/
def splitFirst? (part : List Char) : List Char → Option (List Char × List Char)
  | [] => if part = [] then some ([], []) else none
  | c :: cs =>
    if part.isPrefixOf (c :: cs) then some ([], (c :: cs).drop part.length)
    else (splitFirst? part cs).map fun (before, after) => (c :: before, after)

/-- Whether some end of a path, cut at its slashes, matches a wildcard pattern. -/
def matchesTail (pattern : List Char) (names : List (List Char)) : Bool :=
  (suffixes names).any fun tail =>
    !tail.isEmpty && Wildcard.matches pattern (Text.join ['/'] tail)

/-- A pattern with two stars somewhere: the first of these shapes that it has says what it means. -/
def matchesDoubleStar (pattern path : List Char) : Bool :=
  let names := Text.splitOn '/' path
  let opens := "**/".toList.isPrefixOf pattern
  let closes := "/**".toList.isSuffixOf pattern
  if opens && closes then
    names.dropLast.any (Wildcard.matches ((pattern.drop 3).take (pattern.length - 6)))
  else if opens then matchesTail (pattern.drop 3) names
  else
    match splitFirst? "/**/".toList pattern with
    | some (front, tail) =>
      (front ++ ['/']).isPrefixOf path
        && matchesTail tail (Text.splitOn '/' (path.drop (front.length + 1)))
    | none =>
      if closes then
        let front := pattern.take (pattern.length - 3)
        (front ++ ['/']).isPrefixOf path || path == front
      else Wildcard.matches pattern path

/-- **Whether a path matches a pattern.** -/
def «matches» (pattern path : List Char) : Bool :=
  match splitFirst? "**".toList pattern with
  | some _ => matchesDoubleStar pattern path
  | none => Wildcard.matches pattern path

/-- The text of a path that patterns are held against: relative to the base if it lies there, with
slashes in place of backslashes. -/
def subject (base path : Path) : List Char :=
  ((path.relativeTo? base).getD path).chars.map fun c => if c = '\\' then '/' else c

/-- **Whether a path matches one of several patterns**, relative to a base. -/
def matchesAny (patterns : List String) (base path : Path) : Bool :=
  patterns.any fun pattern => Glob.matches pattern.toList (subject base path)

end ProseLinter.Glob
